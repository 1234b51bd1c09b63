import Barrage.Scalar.Basic

/-!
Points and directions of the screen, where `y` grows downwards. A heading of zero degrees points up
the screen and positive headings turn clockwise.
-/

namespace Barrage

open Scalar (nat)

structure Vec (K : Type) where
  x : K
  y : K
  deriving Repr, DecidableEq

namespace Vec

variable {K : Type} [Scalar K]

def zero : Vec K := ⟨nat 0, nat 0⟩

instance : Add (Vec K) := ⟨fun v w => ⟨v.x + w.x, v.y + w.y⟩⟩
instance : Sub (Vec K) := ⟨fun v w => ⟨v.x - w.x, v.y - w.y⟩⟩

def scale (v : Vec K) (k : K) : Vec K := ⟨v.x * k, v.y * k⟩

def normSq (v : Vec K) : K := v.x * v.x + v.y * v.y
def norm (v : Vec K) : K := Scalar.sqrt v.normSq

def dist (v w : Vec K) : K := (v - w).norm
def distSq (v w : Vec K) : K := (v - w).normSq

/-- The direction of a vector, as a vector of length one. -/
def unit (v : Vec K) : Vec K := v.scale (nat 1 / v.norm)

/-- Clockwise on the screen. -/
def rotate (v : Vec K) (degrees : K) : Vec K :=
  let a := Scalar.toRadians degrees
  let s := Scalar.sin a
  let c := Scalar.cos a
  ⟨c * v.x - s * v.y, s * v.x + c * v.y⟩

end Vec

namespace Heading

variable {K : Type} [Scalar K]

/-- The unit vector up the screen. -/
def up : Vec K := ⟨nat 0, -nat 1⟩

/-- The heading down the screen. -/
def down : K := nat 180

/-- Whoever is nearer to a target than this has arrived. -/
def arrival : K := Scalar.decimal 2 1

/-- The unit vector along a heading. -/
def toVec (degrees : K) : Vec K := up.rotate degrees

def velocity (degrees speed : K) : Vec K := (toVec degrees).scale speed

/-- The heading of a direction, within half a turn of up. -/
def ofVec (v : Vec K) : K := Scalar.toDegrees (Scalar.atan2 v.x (-v.y))

/-- The same heading in `[0, 360)`. -/
def wrap (degrees : K) : K := Scalar.wrap degrees

end Heading

end Barrage
