/-!
A place in a text, as a reader of it would name it: the line, the column in characters, and the
number of bytes in front of it.
-/

namespace Barrage.Text

/-- Lines and columns are counted from one, bytes from zero. -/
structure Place where
  line : Nat
  column : Nat
  offset : Nat
  deriving Repr, DecidableEq

/-- The place right behind `seen`, the beginning of a text. -/
def Place.after (seen : List Char) : Place where
  line := seen.count '\n' + 1
  column := (seen.reverse.takeWhile (· != '\n')).length + 1
  offset := (String.ofList seen).utf8ByteSize

end Barrage.Text
