import Barrage.Checked.Step
import Barrage.Engine

/-!
The turns of a tick in checked arithmetic.

A step runs as a checked program, and what it orders is created by one: a template that is found is
looked up by an index, and so is that of every sub-shot. The tree of a template is gone down to its
end, and not only as deep as it can be without a cycle.
-/

namespace Barrage

namespace Catalog

variable {K : Type} [Scalar K]

/-- The template of an index. -/
def at? (c : Catalog K) (i : Nat) : Checked (Template K) :=
  match c.templates[i]? with
  | some t => .ok t
  | none => .error .outOfBounds

def lookup? (c : Catalog K) (name : String) : Checked (Option (Template K)) := do
  match c.id? name with
  | none => return none
  | some i =>
    let t ← c.at? i
    return some t

def unfolded? (c : Catalog K) :
    (depth : Nat) → Template K → Vec K → Checked (List (Template K × Vec K))
  | 0, _, _ => .error .endless
  | depth + 1, t, base => do
    let place := base + t.offset
    let below ← t.subShots.mapM fun s => do
      let u ← c.at? s.template
      c.unfolded? depth u (place + s.offset)
    return (t, place) :: below.flatten

def tree? (c : Catalog K) (t : Template K) (base : Vec K) : Checked (List (Template K × Vec K)) :=
  c.unfolded? c.size t base

end Catalog

namespace Stage

variable {K : Type} [Scalar K]

def obey? (st : Stage K) (c : Catalog K) (side : Side) :
    Order K → Checked (Except SpawnError (Stage K))
  | .shots name count each => do
    if count = 0 then return .ok st
    else
      match ← c.lookup? name with
      | none => return .error (.unknownTemplate name)
      | some t => return .ok (st.createEach side t.visual count each)
  | .tree name place => do
    match ← c.lookup? name with
    | none => return .error (.unknownTemplate name)
    | some t =>
      let nodes ← c.tree? t place
      return .ok (st.createAll side nodes)
  | .carriers count each => return .ok (st.createEach side none count each)

def obeyAll? (st : Stage K) (c : Catalog K) (side : Side) :
    List (Order K) → Checked (Stage K × Option SpawnError)
  | [] => return (st, none)
  | o :: os => do
    match ← st.obey? c side o with
    | .ok st => st.obeyAll? c side os
    | .error e => return (st, some e)

end Stage

namespace Engine

def runStep? (c : Catalog Float32) (config : Config Float32) (world : World Float32)
    (scene : Scene Float32) (s : Shot Float32) (step : Step Float32) :
    Checked (Scene Float32 × Step Float32 × Answer) := do
  let (turn, random) ← step.run? (view config world scene.stage.bodies s) scene.random
  let bodies := moveAll scene.stage.bodies s.body turn.motions
  let (stage, failure) ←
    ({ scene.stage with bodies } : Stage Float32).obeyAll? c ⟨s.owner, s.list⟩ turn.orders
  let answer := match failure with
    | some e => .error e
    | none => .ok turn.signal
  return (⟨stage, random⟩, turn.step, answer)

def act? (c : Catalog Float32) (config : Config Float32) (world : World Float32)
    (scene : Scene Float32) (s : Shot Float32) : Checked (Outcome Float32 × Scene Float32) := do
  match s.step with
  | none => return (judge config scene.stage.bodies s none, scene)
  | some step =>
    let (scene, step, answer) ← runStep? c config world scene s step
    let s := { s with step := leftBound step answer }
    return (judge config scene.stage.bodies s (some answer), scene)

def actAll? (c : Catalog Float32) (config : Config Float32) (world : World Float32) :
    Scene Float32 → List (Shot Float32) → Checked (List (Outcome Float32) × Scene Float32)
  | scene, [] => return ([], scene)
  | scene, s :: ss => do
    let (o, scene) ← act? c config world scene s
    let (os, scene) ← actAll? c config world scene ss
    return (o :: os, scene)

/-- The turns of all shots of a tick. -/
def pass? (e : Engine Float32) (world : World Float32) :
    Checked (List (Outcome Float32) × Scene Float32) :=
  let registry := e.registry.advance
  actAll? e.catalog e.config world ⟨⟨registry.queue, e.bodies⟩, e.random⟩ registry.live

end Engine

end Barrage
