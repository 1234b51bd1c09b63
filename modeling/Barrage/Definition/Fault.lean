import Barrage.Decimal.Shortest
import Barrage.Definition.Basic
import Barrage.Text.Quoted

/-!
What can be wrong with an entry of a group, and the wording of it.
-/

namespace Barrage

/-- What stood where something else was expected. -/
inductive Found where
  | integer (i : Int)
  | float (x : Float)
  | string (s : String)
  | sequence
  /-- A name that stands alone, where it should carry something. -/
  | bareName

def Value.found : Value → Found
  | .integer i => .integer i
  | .float x => .float x
  | .string s => .string s
  | .vector _ => .sequence

inductive Fault where
  | wrongType (found : Found) (expected : String)
  /-- The type is right, the value is none of its values. -/
  | wrongValue (found : Found) (expected : String)
  | wrongLength (length : Nat) (expected : String)
  | unknownVariant (name : String) (variants : List String)
  | duplicate (field : String)
  | missing (field : String)
  /-- The index of a sub-shot, as written, is no number or too large. -/
  | subShotIndex (written : String)
  /-- A sub-shot has an offset and no name. -/
  | subShotUnnamed (index : Nat)

def Found.text : Found → String
  | .integer i => s!"integer `{i}`"
  | .float x => "floating point `" ++ Decimal.text x ++ "`"
  | .string s => "string " ++ Text.quoted s
  | .sequence => "sequence"
  | .bareName => "unit variant"

/-- Each name between its ticks. -/
def ticked (names : List String) (between : String) : String :=
  between.intercalate (names.map fun n => s!"`{n}`")

def Fault.message : Fault → String
  | .wrongType found expected => "invalid type: " ++ found.text ++ ", expected " ++ expected
  | .wrongValue found expected => "invalid value: " ++ found.text ++ ", expected " ++ expected
  | .wrongLength n expected => s!"invalid length {n}, expected " ++ expected
  | .unknownVariant name [] => s!"unknown variant `{name}`, there are no variants"
  | .unknownVariant name [v] => s!"unknown variant `{name}`, expected `{v}`"
  | .unknownVariant name [v, w] => s!"unknown variant `{name}`, expected `{v}` or `{w}`"
  | .unknownVariant name vs =>
    s!"unknown variant `{name}`, expected one of " ++ ticked vs ", "
  | .duplicate field => s!"duplicate field `{field}`"
  | .missing field => s!"missing field `{field}`"
  | .subShotIndex written => s!"sub-shot index `{written}` is not in 0..100"
  | .subShotUnnamed i => s!"`subshot{i}.offset` given without `subshot{i}.name`"

end Barrage
