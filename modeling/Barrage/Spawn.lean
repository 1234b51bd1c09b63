import Barrage.Catalog.Basic
import Barrage.Registry
import Barrage.Step.Turn

/-!
How shots come about. Each gets the next number, a body if its template has a visual, and a place in
the queue; its step first runs on the next tick, at frame zero.
-/

namespace Barrage

inductive SpawnError where
  | unknownTemplate (name : String)
  deriving Repr, DecidableEq

def SpawnError.message : SpawnError → String
  | .unknownTemplate name => s!"unknown shot template `{name}`"

/-- What the creation of shots adds to. -/
structure Stage (K : Type) where
  queue : Queue K
  bodies : Bodies K

/-- Whom a shot is created for: its owner and its list. -/
structure Side where
  owner : Owner
  list : CollisionList
  deriving Repr, DecidableEq

namespace Stage

variable {K : Type} [Scalar K]

/-- One shot. -/
def create (st : Stage K) (side : Side) (place : Vec K) (visual : Option (Visual K))
    (step : Option (Step K)) : ShotId × Stage K :=
  let id : ShotId := ⟨st.queue.issued + 1⟩
  let (body, bodies) := match visual with
    | none => (none, st.bodies)
    | some v =>
      let (body, bodies) := st.bodies.add ⟨id, place, v.animation, v.radius, side.list⟩
      (some body, bodies)
  let shot : Shot K := {
    id
    frame := 0
    owner := side.owner
    origin := place
    step
    list := side.list
    body
    damage := (visual.map (·.damage)).getD 0 }
  (id, { queue := ⟨st.queue.pending.push shot, id.raw⟩, bodies })

/-- Shots for the nodes of a tree, one by one. -/
def createAll (st : Stage K) (side : Side) (nodes : List (Template K × Vec K)) : Stage K :=
  nodes.foldl (fun st n => (st.create side n.2 n.1.visual n.1.step).2) st

/-- A template and all its sub-shots. The number is that of the template's own shot. -/
def spawnTree (st : Stage K) (c : Catalog K) (side : Side) (place : Vec K) (name : String) :
    Except SpawnError (ShotId × Stage K) :=
  match c.find? name with
  | none => .error (.unknownTemplate name)
  | some t => .ok (⟨st.queue.issued + 1⟩, st.createAll side (c.tree t place))

/-- A shot that looks like a template and runs a step of its own. -/
def spawnDynamic (st : Stage K) (c : Catalog K) (side : Side) (place : Vec K) (name : String)
    (step : Step K) : Except SpawnError (ShotId × Stage K) :=
  match c.find? name with
  | none => .error (.unknownTemplate name)
  | some t => .ok (st.create side place t.visual (some step))

/-- A shot without a body that only runs a step. -/
def spawnCarrier (st : Stage K) (side : Side) (place : Vec K) (step : Step K) :
    ShotId × Stage K :=
  st.create side place none (some step)

/-! ### Orders -/

/-- `count` shots, of which the `i`-th has its place and its step from `each i`. -/
def createEach (st : Stage K) (side : Side) (visual : Option (Visual K)) (count : Nat)
    (each : Nat → Vec K × Step K) : Stage K :=
  (List.range count).foldl (fun st i => (st.create side (each i).1 visual (some (each i).2)).2) st

/-- An order carried out, or the template that is not there. -/
def obey (st : Stage K) (c : Catalog K) (side : Side) : Order K → Except SpawnError (Stage K)
  | .shots name count each =>
    if count = 0 then .ok st
    else
      match c.find? name with
      | none => .error (.unknownTemplate name)
      | some t => .ok (st.createEach side t.visual count each)
  | .tree name place => (st.spawnTree c side place name).map (·.2)
  | .carriers count each => .ok (st.createEach side none count each)

/-- Orders carried out one after the other. The first that fails is the last; what was created
before it stays. -/
def obeyAll (st : Stage K) (c : Catalog K) (side : Side) :
    List (Order K) → Stage K × Option SpawnError
  | [] => (st, none)
  | o :: os =>
    match st.obey c side o with
    | .ok st => st.obeyAll c side os
    | .error e => (st, some e)

end Stage

end Barrage
