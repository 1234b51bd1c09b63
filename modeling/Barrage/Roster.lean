import Barrage.World

/-!
A world that stands still: a player, enemies and bosses at given places, one boss that is active,
and a bomb that goes off or does not.
-/

namespace Barrage

structure Roster (K : Type) where
  player : Option (Vec K) := none
  enemies : Arena (Vec K) := .empty
  bosses : Arena (Vec K) := .empty
  activeBoss : Option Handle := none
  bomb : Bool := false

namespace Roster

variable {K : Type} [Scalar K]

def addEnemy (r : Roster K) (p : Vec K) : Owner × Roster K :=
  let (h, enemies) := r.enemies.insert p
  (.enemy h, { r with enemies })

/-- A new boss is the active one. -/
def addBoss (r : Roster K) (p : Vec K) : Owner × Roster K :=
  let (h, bosses) := r.bosses.insert p
  (.boss h, { r with bosses, activeBoss := some h })

/-- Whether somebody is there. -/
def has (r : Roster K) : Owner → Bool
  | .none => false
  | .player => r.player.isSome
  | .enemy h => r.enemies.contains h
  | .boss h => r.bosses.contains h

/-- An enemy or a boss moved to a place; only they can be moved. -/
def move (r : Roster K) (o : Owner) (p : Vec K) : Roster K :=
  match o with
  | .enemy h => { r with enemies := r.enemies.modify h fun _ => p }
  | .boss h => { r with bosses := r.bosses.modify h fun _ => p }
  | _ => r

/-- Whether moving an owner would move somebody. -/
def canMove (r : Roster K) (o : Owner) : Bool := o != .player && r.has o

def kill (r : Roster K) : Owner → Roster K
  | .none => r
  | .player => { r with player := none }
  | .enemy h => { r with enemies := r.enemies.erase h }
  | .boss h => { r with bosses := r.bosses.erase h }

/-- The first enemy that no other is closer than. -/
def closestEnemy (r : Roster K) (p : Vec K) : Option Owner :=
  let nearer (best : Option (Handle × K)) (e : Handle × Vec K) : Option (Handle × K) :=
    let d := e.2.distSq p
    match best with
    | some (h, least) => if d < least then some (e.1, d) else some (h, least)
    | none => some (e.1, d)
  (r.enemies.entries.foldl nearer none).map fun e => .enemy e.1

/-- The world in which only the places are known. -/
def places (r : Roster K) : World K where
  player := r.player
  enemyAt := r.enemies.get?
  bossAt := r.bosses.get?

/-- The world as shots see it. -/
def world (r : Roster K) : World K :=
  { r.places with
    closestEnemy := r.closestEnemy
    boss := (r.activeBoss.filter r.bosses.contains).map .boss
    bombActive := r.bomb }

end Roster

end Barrage
