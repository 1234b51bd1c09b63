import Barrage.Arena
import Barrage.CollisionList
import Barrage.Vec

/-!
The bodies of shots: where they are, where they fly, and what they touch. A body moves by its
velocity once a tick. A body that is gone answers nothing and does not mind being moved.
-/

namespace Barrage

open Scalar (nat)

/-- The number of a shot. -/
structure ShotId where
  raw : Nat
  deriving Repr, DecidableEq

def ShotId.text (id : ShotId) : String := s!"#{id.raw}"

abbrev BodyId := Handle

/-- What a body is created from. -/
structure BodyDesc (K : Type) where
  shot : ShotId
  position : Vec K
  animation : Int32
  radius : K
  list : CollisionList

structure Body (K : Type) where
  desc : BodyDesc K
  position : Vec K
  velocity : Vec K
  /-- The turn of the sprite in radians, clockwise on the screen. -/
  rotation : K

/-- What can happen to a body. -/
inductive Motion (K : Type) where
  | moveTo (p : Vec K)
  | fly (v : Vec K)
  | push (dv : Vec K)
  | turnTo (radians : K)

namespace Body

variable {K : Type} [Scalar K]

def ofDesc (d : BodyDesc K) : Body K := ⟨d, d.position, Vec.zero, nat 0⟩

def apply (b : Body K) : Motion K → Body K
  | .moveTo p => { b with position := p }
  | .fly v => { b with velocity := v }
  | .push dv => { b with velocity := b.velocity + dv }
  | .turnTo r => { b with rotation := r }

/-- One tick of flight. -/
def step (b : Body K) : Body K := { b with position := b.position + b.velocity }

/-- Whether the body touches a circle. -/
def touches (b : Body K) (center : Vec K) (radius : K) : Bool :=
  let reach := b.desc.radius + radius
  b.position.distSq center ≤ reach * reach

end Body

abbrev Bodies (K : Type) := Arena (Body K)

namespace Bodies

variable {K : Type} [Scalar K]

def add (bs : Bodies K) (d : BodyDesc K) : BodyId × Bodies K := bs.insert (Body.ofDesc d)

def move (bs : Bodies K) (id : BodyId) (m : Motion K) : Bodies K := bs.modify id (·.apply m)

def position? (bs : Bodies K) (id : BodyId) : Option (Vec K) := (bs.get? id).map (·.position)

/-- Every body moved by its velocity. -/
def integrate (bs : Bodies K) : Bodies K := bs.map Body.step

/-- The shots whose bodies in a list touch a circle. -/
def contacts (bs : Bodies K) (list : CollisionList) (center : Vec K) (radius : K) : List ShotId :=
  (bs.values.filter fun b => b.desc.list == list && b.touches center radius).map (·.desc.shot)

end Bodies

end Barrage
