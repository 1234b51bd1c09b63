import Barrage.Definition.Error
import Barrage.ShotDefinition
import Barrage.Step.Basic

/-!
The templates that shots are created from. A template is found by its name in any case of its
letters; its sub-shots name their templates by index.
-/

namespace Barrage

/-- A template created beside its parent. -/
structure SubShot (K : Type) where
  template : Nat
  /-- Where, relative to the parent. -/
  offset : Vec K

structure Template (K : Type) where
  /-- In lowercase. -/
  name : String
  /-- The body that shots get, if they get one. -/
  visual : Option (Visual K)
  /-- The name of the step, as written. -/
  gimmick : Option String
  step : Option (Step K)
  offset : Vec K
  subShots : List (SubShot K)

structure Catalog (K : Type) where
  templates : Array (Template K) := #[]

namespace Catalog

variable {K : Type}

def size (c : Catalog K) : Nat := c.templates.size

def index? (c : Catalog K) (name : String) : Option Nat :=
  c.templates.findIdx? (·.name == name)

/-- The index of the template that has the name, as given or in lowercase. -/
def id? (c : Catalog K) (name : String) : Option Nat :=
  match c.index? name with
  | some i => some i
  | none => c.index? (Text.lower name)

def find? (c : Catalog K) (name : String) : Option (Template K) :=
  (c.id? name).bind (c.templates[·]?)

/-! ### Trees -/

variable [Scalar K]

/-- A template and everything below it, each with its place, parents first. A sub-shot lands at its
parent's place moved by the entry's offset and then by its own; no more than `depth` levels. -/
def unfold (c : Catalog K) : (depth : Nat) → Template K → Vec K → List (Template K × Vec K)
  | 0, _, _ => []
  | depth + 1, t, base =>
    let place := base + t.offset
    (t, place) :: t.subShots.flatMap fun s =>
      match c.templates[s.template]? with
      | some u => c.unfold depth u (place + s.offset)
      | none => []

/-- The tree of a template. Without cycles no path is longer than the number of templates. -/
def tree (c : Catalog K) (t : Template K) (base : Vec K) : List (Template K × Vec K) :=
  c.unfold c.size t base

end Catalog

/-! ### Errors -/

inductive CatalogError where
  | definition (e : DefinitionError)
  | duplicate (name : String)
  | unknownTemplate (name : String)
  | missingTemplate (name referencedBy : String)
  | unknownStep (name template : String)
  | inert (name : String)
  | cycle (name : String)

namespace CatalogError

def message : CatalogError → String
  | definition _ => "invalid definition"
  | duplicate name => s!"shot template `{name}` is defined more than once"
  | unknownTemplate name => s!"unknown shot template `{name}`"
  | missingTemplate name referencedBy =>
    s!"shot template `{referencedBy}` refers to unknown template `{name}`"
  | unknownStep name template => s!"shot template `{template}` uses unknown gimmick `{name}`"
  | inert name => s!"shot template `{name}` has neither an animation nor a gimmick"
  | cycle name => s!"shot template `{name}` contains itself through its sub-shots"

end CatalogError

def Catalog.lookup {K : Type} (c : Catalog K) (name : String) :
    Except CatalogError (Template K) :=
  match c.find? name with
  | some t => .ok t
  | none => .error (.unknownTemplate name)

end Barrage
