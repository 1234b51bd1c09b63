import Barrage.Shot

/-!
Where shots are kept. A new shot is queued; at the start of the next tick the queue joins the live
shots, which are kept in the order of their numbers. So nothing that is created while the live shots
are gone through is met on the way.
-/

namespace Barrage

/-- The shots created since the last tick began, and the number issued last. -/
structure Queue (K : Type) where
  pending : Array (Shot K) := #[]
  issued : Nat := 0

structure Registry (K : Type) where
  live : List (Shot K) := []
  queue : Queue K := {}

namespace Registry

variable {K : Type}

def empty : Registry K := {}

/-- Every shot: the live ones in order, then the queued ones. -/
def shots (r : Registry K) : List (Shot K) := r.live ++ r.queue.pending.toList

def find? (r : Registry K) (id : ShotId) : Option (Shot K) := r.shots.find? (·.id == id)

def contains (r : Registry K) (id : ShotId) : Bool := (r.find? id).isSome

def size (r : Registry K) : Nat := r.live.length + r.queue.pending.size

def isEmpty (r : Registry K) : Bool := r.size == 0

/-- A shot added behind all others, under the number that it has. -/
def insert (r : Registry K) (s : Shot K) : Registry K :=
  { r with queue := { r.queue with pending := r.queue.pending.push s } }

/-- The shots that satisfy `p`, in order. -/
def matching (r : Registry K) (p : Shot K → Bool) : List (Shot K) := r.shots.filter p

def removeWhere (r : Registry K) (p : Shot K → Bool) : Registry K where
  live := r.live.filter (!p ·)
  queue := { r.queue with pending := r.queue.pending.filter (!p ·) }

/-- Without the first shot of a number. -/
def erase (r : Registry K) (id : ShotId) : Registry K :=
  if r.live.any (·.id == id) then { r with live := r.live.eraseP (·.id == id) }
  else { r with queue := { r.queue with pending := r.queue.pending.eraseP (·.id == id) } }

@[simp] theorem shots_insert (r : Registry K) (s : Shot K) :
    (r.insert s).shots = r.shots ++ [s] := by
  simp [shots, insert]

@[simp] theorem shots_removeWhere (r : Registry K) (p : Shot K → Bool) :
    (r.removeWhere p).shots = r.shots.filter (!p ·) := by
  simp [shots, removeWhere]

theorem length_shots (r : Registry K) : r.shots.length = r.size := by
  simp [shots, size]

/-! ### The start of a tick -/

/-- A shot put in its place among shots in order; one of the same number makes way. -/
def settle (s : Shot K) : List (Shot K) → List (Shot K)
  | [] => [s]
  | t :: ts =>
    if s.id.raw < t.id.raw then s :: t :: ts
    else if s.id = t.id then s :: ts
    else t :: settle s ts

/-- The live shots with those of the queue among them. Live shots are a frame older, and shots from
the queue are as they were created. -/
def advance (r : Registry K) : Registry K where
  live := r.queue.pending.foldl (fun live s => settle s live) (r.live.map Shot.aged)
  queue := { r.queue with pending := #[] }

end Registry

end Barrage
