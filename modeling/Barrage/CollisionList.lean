/-!
The partition of bodies that decides what a body can hit and be hit by.
-/

namespace Barrage

inductive CollisionList where
  | player
  | enemy
  | playerShot
  | enemyShot
  | custom (n : UInt16)
  deriving Repr, DecidableEq

end Barrage
