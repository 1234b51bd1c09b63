import Barrage.Text.Lowercase
import Barrage.Text.Space

/-!
Definitions are groups of entries. A group has the name that stands in its header and its entries
in the order of the file; keys are in lowercase. Nothing here decides what a group means: that is
up to whoever reads it.
-/

namespace Barrage

/-- What stands on the right of an entry. -/
inductive Value where
  | integer (i : Int)
  | float (x : Float)
  /-- Two or more numbers. -/
  | vector (xs : List Float)
  | string (s : String)

structure Group where
  name : String
  entries : List (String × Value)

namespace Group

/-- The value of the first entry under a key. -/
def get? (g : Group) (key : String) : Option Value := g.entries.lookup key

/-- The label of a header that reads `kind label`, where the letters of `kind` may have any case. -/
def label? (g : Group) (kind : String) : Option String :=
  let cs := g.name.toList
  match cs.dropWhile (!Text.isSpace ·) with
  | [] => none
  | _ :: rest =>
    let first := String.ofList (cs.takeWhile (!Text.isSpace ·))
    let label := Text.trim rest
    if Text.sameIgnoringCase first kind && !label.isEmpty then some (String.ofList label) else none

end Group

structure Definition where
  groups : List Group

/-- The first group of a name, in any case of its letters. -/
def Definition.group? (d : Definition) (name : String) : Option Group :=
  d.groups.find? (Text.sameIgnoringCase ·.name name)

end Barrage
