import Barrage.Spawn
import Barrage.Step.Run

/-!
The engine owns every shot. In a tick each live shot runs its step once, in the order of the
numbers, and then the shots that are finished, have left the playfield, or have neither a step nor a
body are removed. Shots created during a tick first run in the next one.
-/

namespace Barrage

structure Engine (K : Type) where
  catalog : Catalog K
  config : Config K
  registry : Registry K := .empty
  bodies : Bodies K := .empty
  random : Random
  ticks : Nat := 0

/-- What happened in a tick. -/
structure TickSummary where
  /-- Shots that joined the live ones. -/
  merged : Nat
  /-- Steps that ran. -/
  stepped : Nat
  /-- Shots removed for leaving the playfield and for nothing else. -/
  culled : Nat
  /-- Shots removed. -/
  retired : Nat
  /-- Shots afterwards, with those just created. -/
  live : Nat
  deriving Repr, DecidableEq

/-- What a step answers when it is run: its signal, or the template that it could not create a
shot from. -/
abbrev Answer := Except SpawnError Signal

/-- Whether the shot is done with. A failure finishes a shot. -/
def Answer.isLast : Answer → Bool
  | .ok .finish | .error _ => true
  | .ok .keep | .ok .detach => false

/-- What became of a shot in a tick. -/
structure Outcome (K : Type) where
  /-- The shot as it is afterwards. -/
  shot : Shot K
  /-- What its step answered, if it had one. -/
  answer : Option Answer
  culled : Bool
  retired : Bool

namespace Engine

variable {K : Type} [Scalar K]

def new (catalog : Catalog K) (config : Config K) : Engine K :=
  { catalog, config, random := .ofSeed config.seed }

/-! ### A tick -/

/-- What changes while the live shots are gone through. -/
structure Scene (K : Type) where
  stage : Stage K
  random : Random

/-- What a shot sees in its turn. -/
def view (config : Config K) (world : World K) (bodies : Bodies K) (s : Shot K) : View K where
  frame := s.frame
  owner := s.owner
  position := (s.body.bind bodies.position?).getD s.origin
  hasBody := s.body.isSome
  world := world
  config := config

/-- The motions of a turn, made by the shot's own body. -/
def moveAll (bodies : Bodies K) (body : Option BodyId) (motions : List (Motion K)) : Bodies K :=
  match body with
  | none => bodies
  | some b => motions.foldl (fun bodies m => bodies.move b m) bodies

/-- A step run for its shot: the scene and the step afterwards, and the answer. -/
def runStep (c : Catalog K) (config : Config K) (world : World K) (scene : Scene K) (s : Shot K)
    (step : Step K) : Scene K × Step K × Answer :=
  let (turn, random) := step.run (view config world scene.stage.bodies s) scene.random
  let bodies := moveAll scene.stage.bodies s.body turn.motions
  let (stage, failure) :=
    ({ scene.stage with bodies } : Stage K).obeyAll c ⟨s.owner, s.list⟩ turn.orders
  let answer := match failure with
    | some e => .error e
    | none => .ok turn.signal
  (⟨stage, random⟩, turn.step, answer)

/-- The step that stays bound to a shot after it has run. -/
def leftBound (step : Step K) : Answer → Option (Step K)
  | .ok .detach => none
  | _ => some step

/-- Whether the body of a shot is too far outside of the playfield. -/
def isOutside (config : Config K) (bodies : Bodies K) (s : Shot K) : Bool :=
  (s.body.bind bodies.position?).any config.isCulled

/-- What becomes of a shot that has had its turn. -/
def judge (config : Config K) (bodies : Bodies K) (s : Shot K) (answer : Option Answer) :
    Outcome K :=
  let finished := answer.any Answer.isLast
  let outside := isOutside config bodies s
  let empty := s.body.isNone && s.step.isNone
  { shot := s
    answer
    culled := outside && !finished
    retired := finished || outside || empty }

/-- The turn of one live shot. -/
def act (c : Catalog K) (config : Config K) (world : World K) (scene : Scene K) (s : Shot K) :
    Outcome K × Scene K :=
  match s.step with
  | none => (judge config scene.stage.bodies s none, scene)
  | some step =>
    let (scene, step, answer) := runStep c config world scene s step
    let s := { s with step := leftBound step answer }
    (judge config scene.stage.bodies s (some answer), scene)

/-- The turns of live shots, one after the other. -/
def actAll (c : Catalog K) (config : Config K) (world : World K) :
    Scene K → List (Shot K) → List (Outcome K) × Scene K
  | scene, [] => ([], scene)
  | scene, s :: ss =>
    let (o, scene) := act c config world scene s
    let (os, scene) := actAll c config world scene ss
    (o :: os, scene)

/-- The bodies without those of the given shots. -/
def release (bodies : Bodies K) (shots : List (Shot K)) : Bodies K :=
  shots.foldl (fun bodies s => (s.body.map bodies.erase).getD bodies) bodies

/-- The turns of all shots, those of the queue among them: what became of each, and the scene at the
end. -/
def pass (e : Engine K) (world : World K) : List (Outcome K) × Scene K :=
  let registry := e.registry.advance
  actAll e.catalog e.config world ⟨⟨registry.queue, e.bodies⟩, e.random⟩ registry.live

def tick (e : Engine K) (world : World K) : TickSummary × Engine K :=
  let (outcomes, scene) := e.pass world
  let (gone, kept) := outcomes.partition (·.retired)
  let left : Registry K := ⟨kept.map (·.shot), scene.stage.queue⟩
  ({ merged := e.registry.queue.pending.size
     stepped := outcomes.countP (·.answer.isSome)
     culled := outcomes.countP (·.culled)
     retired := gone.length
     live := left.size },
    { e with
      registry := left
      bodies := release scene.stage.bodies (gone.map (·.shot))
      random := scene.random
      ticks := e.ticks + 1 })

/-- Every body moves by its velocity, and then the tick. -/
def advance (e : Engine K) (world : World K) : TickSummary × Engine K :=
  ({ e with bodies := e.bodies.integrate } : Engine K).tick world

/-! ### Creating shots -/

def stage (e : Engine K) : Stage K := ⟨e.registry.queue, e.bodies⟩

def withStage (e : Engine K) (st : Stage K) : Engine K :=
  { e with registry := { e.registry with queue := st.queue }, bodies := st.bodies }

/-- A template along with its sub-shots. -/
def addShot (e : Engine K) (side : Side) (place : Vec K) (name : String) :
    Except SpawnError (ShotId × Engine K) :=
  (e.stage.spawnTree e.catalog side place name).map fun (id, st) => (id, e.withStage st)

/-- A shot that looks like a template but runs another step. -/
def spawnDynamic (e : Engine K) (side : Side) (place : Vec K) (name : String) (step : Step K) :
    Except SpawnError (ShotId × Engine K) :=
  (e.stage.spawnDynamic e.catalog side place name step).map fun (id, st) => (id, e.withStage st)

/-- A shot along a fixed heading. -/
def addAngledShot (e : Engine K) (side : Side) (place : Vec K) (name : String)
    (heading speed : K) : Except SpawnError (ShotId × Engine K) :=
  e.spawnDynamic side place name (.angled ⟨heading, speed⟩)

/-- A shot aimed at the player. -/
def addAimedShot (e : Engine K) (side : Side) (place : Vec K) (name : String)
    (offset speed : K) : Except SpawnError (ShotId × Engine K) :=
  e.spawnDynamic side place name (.aimed (.exactly offset speed))

def spawnCarrier (e : Engine K) (side : Side) (place : Vec K) (step : Step K) :
    ShotId × Engine K :=
  let (id, st) := e.stage.spawnCarrier side place step
  (id, e.withStage st)

/-! ### Removing shots -/

/-- Without the shots that satisfy `p`, and without their bodies; and how many those are. -/
def removeWhere (e : Engine K) (p : Shot K → Bool) : Nat × Engine K :=
  let gone := e.registry.matching p
  (gone.length, { e with
    registry := e.registry.removeWhere p
    bodies := release e.bodies gone })

def removeAllOwnedBy (e : Engine K) (list : CollisionList) : Nat × Engine K :=
  e.removeWhere (·.list == list)

/-- Bullets go, hazards stay. -/
def removeAllSimpleOwnedBy (e : Engine K) (list : CollisionList) : Nat × Engine K :=
  e.removeWhere fun s => s.list == list && s.isSimple

/-- Without one shot, and whether it was there. -/
def remove (e : Engine K) (id : ShotId) : Bool × Engine K :=
  match e.registry.find? id with
  | none => (false, e)
  | some s => (true, { e with
      registry := e.registry.erase id
      bodies := release e.bodies [s] })

/-- A shot whose body was hit is removed. -/
def onStruck (e : Engine K) (id : ShotId) : Bool × Engine K := e.remove id

/-! ### Questions -/

def find? (e : Engine K) (id : ShotId) : Option (Shot K) := e.registry.find? id

def contactDamage (e : Engine K) (id : ShotId) : Option Int32 := (e.find? id).bind (·.contactDamage)

def size (e : Engine K) : Nat := e.registry.size

def isEmpty (e : Engine K) : Bool := e.registry.isEmpty

def shots (e : Engine K) : List (Shot K) := e.registry.shots

end Engine

end Barrage
