/-!
Numbers as they are written: an optional minus sign, digits, and perhaps a point with further
digits behind it. A numeral with a point is a decimal, one without is a whole number; a whole
number counts only if it fits in a signed word of 64 bits, so that nothing is rounded unseen.
-/

namespace Barrage

structure Numeral where
  negative : Bool
  whole : List Char
  fraction : Option (List Char)
  deriving Repr, DecidableEq

namespace Numeral

def isDigit (c : Char) : Bool := '0' ≤ c && c ≤ '9'

def ofUnsigned? (negative : Bool) (cs : List Char) : Option Numeral :=
  match cs.takeWhile isDigit, cs.dropWhile isDigit with
  | [], _ => none
  | ds, [] => some ⟨negative, ds, none⟩
  | ds, '.' :: fs => if fs.all isDigit then some ⟨negative, ds, some fs⟩ else none
  | _, _ => none

/-- The numeral that the characters spell, if they are one and nothing else. -/
def ofChars? : List Char → Option Numeral
  | '-' :: cs => ofUnsigned? true cs
  | cs => ofUnsigned? false cs

/-- The number that a row of digits stands for. -/
def digitsValue (ds : List Char) : Nat :=
  ds.foldl (fun v d => 10 * v + (d.toNat - '0'.toNat)) 0

/-- The whole number in front of the point. -/
def toInt (n : Numeral) : Int :=
  if n.negative then -(digitsValue n.whole : Int) else digitsValue n.whole

/-- The double nearest to the number, ties going to the even one. -/
def toFloat (n : Numeral) : Float :=
  let fs := n.fraction.getD []
  let x := Float.ofScientific (digitsValue (n.whole ++ fs)) true fs.length
  if n.negative then -x else x

/-- The range of a signed word of 64 bits. -/
def fitsWord (i : Int) : Bool := -0x8000000000000000 ≤ i && i < 0x8000000000000000

/-- A whole number without a point, if it fits in a word. -/
def word? (n : Numeral) : Option Int :=
  if n.fraction.isNone && fitsWord n.toInt then some n.toInt else none

/-- The number as a component of a vector. -/
def component? (n : Numeral) : Option Float :=
  if n.fraction.isSome then some n.toFloat else n.word?.map Float.ofInt

end Numeral

end Barrage
