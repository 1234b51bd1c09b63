import Barrage.Text.CaseRanges

/-!
Lowercase text. Most letters have a lowercase form of their own. Two depend on more than a table
of letters: the capital I with a dot becomes a small i and a combining dot, and a capital sigma
becomes the final form at the end of a word and the medial form elsewhere.
-/

namespace Barrage.Text

def inRanges (ranges : Array (Nat × Nat)) (c : Char) : Bool :=
  ranges.any fun r => r.1 ≤ c.toNat && c.toNat ≤ r.2

def isCased (c : Char) : Bool := inRanges casedRanges c
def isCaseIgnorable (c : Char) : Bool := inRanges caseIgnorableRanges c

/-- The lowercase form of one character, whatever stands around it. -/
def lowerChar (c : Char) : List Char :=
  if c.toNat < 0x80 then [c.toLower]
  else if c.toNat = 0x130 then ['i', '\u0307']
  else
    let run? := lowerRuns.find? fun r =>
      r.1 ≤ c.toNat && c.toNat ≤ r.2.1 && (c.toNat - r.1) % r.2.2.1 == 0
    match run? with
    | some r => [Char.ofNat (r.2.2.2 + (c.toNat - r.1))]
    | none => [c]

/-- Whether the first character that the case rules do not skip is a cased one. -/
def casedNext (cs : List Char) : Bool :=
  match cs.dropWhile isCaseIgnorable with
  | [] => false
  | c :: _ => isCased c

/-- The lowercase form of a text, of which `before` is what stands in front, last first. -/
def lowerAfter (before : List Char) : List Char → List Char
  | [] => []
  | c :: cs =>
    let form :=
      if c = 'Σ' then [if casedNext before && !casedNext cs then 'ς' else 'σ'] else lowerChar c
    form ++ lowerAfter (c :: before) cs

def lowerChars (cs : List Char) : List Char := lowerAfter [] cs

def lower (s : String) : String := String.ofList (lowerChars s.toList)

/-! ### Letters of ASCII -/

/-- The text with the letters of ASCII in lowercase and all else as it was. -/
def lowerAscii (cs : List Char) : List Char := cs.map Char.toLower

/-- Equality that does not tell the two cases of an ASCII letter apart. -/
def sameIgnoringCase (s t : String) : Bool := lowerAscii s.toList == lowerAscii t.toList

end Barrage.Text
