import Barrage.Definition.Parse
import Barrage.Definition.Fault

/-!
Why a definition could not be used.
-/

namespace Barrage

inductive DefinitionError where
  | parseFailure (place : Text.Place)
  | read (path : String)
  | invalidValue (group : String) (fault : Fault)

namespace DefinitionError

def message : DefinitionError → String
  | parseFailure _ => "failed to parse definition file"
  | read path => s!"failed to read definition file `{path}`"
  | invalidValue group fault => s!"invalid value in group `{group}`: " ++ fault.message

end DefinitionError

namespace Definition

def ofText (text : String) : Except DefinitionError Definition :=
  match parse text with
  | .ok d => .ok d
  | .error place => .error (.parseFailure place)

/-- The definition in a file: `contents` is what is stored under the path, if that can be read. -/
def ofFile (path : String) (contents : Option String) : Except DefinitionError Definition :=
  match contents with
  | some text => ofText text
  | none => .error (.read path)

end Definition

/-- A fault in a group is reported under the name of the group. -/
def Group.attempt {α : Type} (g : Group) (read : Group → Except Fault α) :
    Except DefinitionError α :=
  (read g).mapError (.invalidValue g.name ·)

end Barrage
