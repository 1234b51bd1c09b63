import Barrage.Arena
import Barrage.Vec

/-!
The game around the shots, as far as shots ask about it. Whatever fired a shot lives and dies on its
own; every question about it is answered anew, and by nothing once it is gone.
-/

namespace Barrage

/-- Whatever fired a shot. -/
inductive Owner where
  | none
  | player
  | enemy (h : Handle)
  | boss (h : Handle)
  deriving Repr, DecidableEq

structure World (K : Type) where
  player : Option (Vec K)
  enemyAt : Handle → Option (Vec K)
  bossAt : Handle → Option (Vec K)
  /-- The enemy closest to a point. -/
  closestEnemy : Vec K → Option Owner := fun _ => none
  /-- The active boss. -/
  boss : Option Owner := none
  bombActive : Bool := false

namespace World

variable {K : Type}

/-- A world with nobody in it. -/
def empty : World K := { player := none, enemyAt := fun _ => none, bossAt := fun _ => none }

/-- Where an owner is, unless it is gone. -/
def locate (w : World K) : Owner → Option (Vec K)
  | .none => Option.none
  | .player => w.player
  | .enemy h => w.enemyAt h
  | .boss h => w.bossAt h

def isAlive (w : World K) (o : Owner) : Bool := (w.locate o).isSome

end World

end Barrage
