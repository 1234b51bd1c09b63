import Barrage.Catalog.Basic
import Barrage.StepLibrary

/-!
Loading the shot groups of definitions into a catalog. Groups are read in order, and each must
describe a shot that can do something under a name of its own. Then the names in the groups are
resolved: those of steps in the library, those of sub-shots among the templates. Last come the
checks on the whole: no template contains itself, and every template that a step fires is there. A
catalog that passes them never fails to create a shot.
-/

namespace Barrage.Catalog

variable {K : Type} [Scalar K]

/-- Shot groups that were read, each under its name in lowercase. -/
abbrev Named (K : Type) := List (String × ShotDefinition K)

/-- The name of the template that a group defines, if it defines one. -/
def shotName? (g : Group) : Option String := (g.label? "shot").map Text.lower

/-- One more group read, behind those in `named`. -/
def collect (named : Named K) (g : Group) : Except CatalogError (Named K) :=
  match shotName? g with
  | none => .ok named
  | some name =>
    match g.attempt ShotDefinition.ofGroup with
    | .error e => .error (.definition e)
    | .ok s =>
      if s.isInert then .error (.inert name)
      else if (named.lookup name).isSome then .error (.duplicate name)
      else .ok (named ++ [(name, s)])

/-- The step that a definition names, if it names one. -/
def resolveStep (steps : StepLibrary K) (name : String) (s : ShotDefinition K) :
    Except CatalogError (Option (Step K)) :=
  match s.gimmick with
  | none => .ok none
  | some gimmick =>
    match steps.resolve? gimmick with
    | some step => .ok (some step)
    | none => .error (.unknownStep gimmick name)

def resolveSubShot (named : Named K) (name : String) (sub : SubShotEntry K) :
    Except CatalogError (SubShot K) :=
  match named.findIdx? (·.1 == Text.lower sub.name) with
  | some i => .ok ⟨i, sub.offset⟩
  | none => .error (.missingTemplate sub.name name)

/-- A template with the names in its definition resolved. -/
def resolve (steps : StepLibrary K) (named : Named K) (name : String) (s : ShotDefinition K) :
    Except CatalogError (Template K) := do
  let step ← resolveStep steps name s
  let subShots ← s.subShots.mapM (resolveSubShot named name)
  .ok { name, visual := s.visual, gimmick := s.gimmick, step, offset := s.offset, subShots }

/-! ### Cycles -/

def children (c : Catalog K) (i : Nat) : List Nat :=
  match c.templates[i]? with
  | some t => t.subShots.map (·.template)
  | none => []

/-- Visits a template and everything below it, deepest first. `path` leads to the template and
`done` was visited before; a template that is met again on its own path is the error. No path
without a cycle is longer than the number of templates, which `fuel` starts from. -/
def visit (c : Catalog K) : (fuel : Nat) → (path done : List Nat) → Nat → Except Nat (List Nat)
  | fuel, path, done, i =>
    if done.contains i then .ok done
    else if path.contains i then .error i
    else
      match fuel with
      | 0 => .ok done
      | fuel + 1 =>
        ((c.children i).foldlM (fun done j => c.visit fuel (i :: path) done j) done).map (i :: ·)

def checkCycles (c : Catalog K) : Except CatalogError Unit :=
  match (List.range c.size).foldlM (fun done i => c.visit c.size [] done i) [] with
  | .ok _ => .ok ()
  | .error i => .error (.cycle ((c.templates[i]?.map (·.name)).getD ""))

/-! ### References -/

/-- The templates that a template's step fires must be there. -/
def checkReferences (c : Catalog K) (t : Template K) : Except CatalogError Unit :=
  match (t.step.map (·.references)).getD [] |>.find? fun name => (c.id? name).isNone with
  | some name => .error (.missingTemplate name t.name)
  | none => .ok ()

/-! ### Loading -/

def ofDefinitions (ds : List Definition) (steps : StepLibrary K) :
    Except CatalogError (Catalog K) := do
  let named ← (ds.flatMap (·.groups)).foldlM collect []
  let templates ← named.mapM fun n => resolve steps named n.1 n.2
  let c : Catalog K := ⟨templates.toArray⟩
  c.checkCycles
  c.templates.toList.forM c.checkReferences
  .ok c

def load (d : Definition) (steps : StepLibrary K) : Except CatalogError (Catalog K) :=
  ofDefinitions [d] steps

/-- The catalog of a single definition, which may have failed to come about. -/
def ofDefinition? (d : Except DefinitionError Definition) (steps : StepLibrary K) :
    Except CatalogError (Catalog K) :=
  match d with
  | .ok d => load d steps
  | .error e => .error (.definition e)

end Barrage.Catalog
