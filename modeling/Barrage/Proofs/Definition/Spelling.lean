import Barrage.Definition.Parse
import Mathlib.Data.List.Forall2
import Mathlib.Tactic.Common

/-!
How definitions are spelled.

A text is split into lines. A line is blank, a header or an entry, and what may follow behind each
of them is always the same: spaces, tabs and a comment. The value of an entry is spelled exactly, as
numbers or in quotes, or else it is all that stands in front of the comment. What may follow is a
parameter of these rules, since the rest of a line is told in two ways: with the carriage return
that belongs to the line feed behind it, and without.
-/

namespace Barrage

/-! ### Numbers -/

namespace Numeral

/-- A numeral as it is written, without its sign. -/
def unsigned (n : Numeral) : List Char := n.whole ++ n.fraction.elim [] ('.' :: ·)

def chars (n : Numeral) : List Char := if n.negative then '-' :: n.unsigned else n.unsigned

/-- There is a digit in front of the point, and nothing but digits around it. -/
structure Spelled (n : Numeral) : Prop where
  whole : n.whole ≠ []
  digits : ∀ c ∈ n.whole ++ n.fraction.getD [], isDigit c = true

end Numeral

namespace Spelling

/-- Spaces and tabs. -/
def Blanks (cs : List Char) : Prop := ∀ c ∈ cs, c = ' ' ∨ c = '\t'

/-- Numbers with commas between them, and perhaps spaces and tabs around the commas. -/
inductive Components : List Char → List Float → Prop where
  | last {n : Numeral} {x : Float} (h : n.Spelled) (hx : n.component? = some x) :
      Components n.chars [x]
  | more {n : Numeral} {x : Float} {bs bs' cs : List Char} {xs : List Float} (h : n.Spelled)
      (hx : n.component? = some x) (hb : Blanks bs) (hb' : Blanks bs') (hs : Components cs xs) :
      Components (n.chars ++ (bs ++ ',' :: (bs' ++ cs))) (x :: xs)

/-! ### Values -/

/-- Numbers, and one number. A whole number counts only if it fits in a word. -/
inductive Plain : List Char → Value → Prop where
  | vector {cs : List Char} {xs : List Float} (h : Components cs xs) (htwo : 2 ≤ xs.length) :
      Plain cs (.vector xs)
  | float {n : Numeral} (h : n.Spelled) (hf : n.fraction.isSome = true) :
      Plain n.chars (.float n.toFloat)
  | integer {n : Numeral} {i : Int} (h : n.Spelled) (hi : n.word? = some i) :
      Plain n.chars (.integer i)

/-- Numbers, a number or a text in quotes. -/
inductive Exact : List Char → Value → Prop where
  | plain {cs : List Char} {v : Value} (h : Plain cs v) : Exact cs v
  | quoted {s : List Char} (h : '"' ∉ s) : Exact ('"' :: (s ++ ['"'])) (.string (String.ofList s))

/-- A text up to where a comment or the end of the line stands. -/
structure Bare (cs rest : List Char) : Prop where
  nonempty : cs ≠ []
  chars : ∀ c ∈ cs, c ≠ ';' ∧ c ≠ '\r'
  longest : ∀ c ∈ rest.head?, c = ';' ∨ c = '\r'

/-! ### Lines -/

section

variable (E : List Char → Prop)

/-- A value that is spelled exactly, with `E` behind it. -/
def Strict (cs : List Char) (v : Value) : Prop := ∃ w rest, cs = w ++ rest ∧ Exact w v ∧ E rest

/-- A bare value, with `E` behind it. -/
def Loose (cs : List Char) (v : Value) : Prop :=
  ∃ w rest, cs = w ++ rest ∧ Bare w rest ∧ E rest ∧ v = .string (String.ofList (Text.trimEnd w))

/-- A value is bare only if it is not spelled exactly. -/
def Denotes (cs : List Char) (v : Value) : Prop :=
  Strict E cs v ∨ (∀ v', ¬ Strict E cs v') ∧ Loose E cs v

/-- The name in its brackets. -/
inductive Heading : List Char → String → Prop where
  | mk {bs name : List Char} (hb : Blanks bs) (hne : name ≠ [])
      (h : ∀ c ∈ name, c ≠ ']' ∧ c ≠ '\r') :
      Heading (bs ++ '[' :: (name ++ [']'])) (String.ofList (Text.trim name))

/-- Letters and digits of ASCII, and a few signs. -/
def KeyChar (c : Char) : Prop := c.isAlphanum = true ∨ c = '_' ∨ c = '.' ∨ c = '-'

/-- The key and the sign behind it. -/
inductive Keying : List Char → String → Prop where
  | mk {bs key bs' bs'' : List Char} (hb : Blanks bs) (hne : key ≠ [])
      (h : ∀ c ∈ key, KeyChar c) (hb' : Blanks bs') (hb'' : Blanks bs'') :
      Keying (bs ++ (key ++ (bs' ++ '=' :: bs''))) (String.ofList (Text.lowerAscii key))

/-- A header, with `E` behind it. -/
def Header (l : List Char) (name : String) : Prop :=
  ∃ w rest, l = w ++ rest ∧ Heading w name ∧ E rest

/-- All spaces and tabs behind the sign are in front of the value. -/
def Entry (l : List Char) (key : String) (v : Value) : Prop :=
  ∃ w rest, l = w ++ rest ∧ Keying w key ∧ (∀ c ∈ rest.head?, c ≠ ' ' ∧ c ≠ '\t') ∧ Denotes E rest v

end

/-- What may follow in a line whatever it says: spaces, tabs and a comment. -/
inductive Trailing : List Char → Prop where
  | blanks {bs : List Char} (h : Blanks bs) : Trailing bs
  | comment {bs : List Char} (h : Blanks bs) (text : List Char) : Trailing (bs ++ ';' :: text)

/-! ### Texts -/

/-- The lines of a text. One carriage return right in front of a line feed goes with it. -/
def lines : List Char → List (List Char)
  | [] => [[]]
  | '\n' :: cs => [] :: lines cs
  | '\r' :: '\n' :: cs => [] :: lines cs
  | c :: cs =>
    match lines cs with
    | [] => [[c]]
    | l :: ls => (c :: l) :: ls

/-- A line that is blank, a header or an entry. -/
def Proper (l : List Char) : Prop :=
  Trailing l ∨ (∃ name, Header Trailing l name) ∨ ∃ key v, Entry Trailing l key v

/-- No entry stands before the first header. -/
def Headed (ls : List (List Char)) : Prop :=
  ∀ before l after key v, ls = before ++ l :: after → Entry Trailing l key v →
    ∃ h ∈ before, ∃ name, Header Trailing h name

/-- The entries that lines spell, in order; blank lines spell nothing. -/
inductive Entries : List (List Char) → List (String × Value) → Prop where
  | nil : Entries [] []
  | blank {l : List Char} {ls : List (List Char)} {es : List (String × Value)} (h : Trailing l)
      (hs : Entries ls es) : Entries (l :: ls) es
  | entry {l : List Char} {ls : List (List Char)} {key : String} {v : Value}
      {es : List (String × Value)} (h : Entry Trailing l key v) (hs : Entries ls es) :
      Entries (l :: ls) ((key, v) :: es)

/-- A group is its header and the entries behind it. -/
inductive Part : Group → List (List Char) → Prop where
  | mk {l : List Char} {ls : List (List Char)} {name : String} {es : List (String × Value)}
      (h : Header Trailing l name) (hs : Entries ls es) : Part ⟨name, es⟩ (l :: ls)

/-- Lines spell groups: blank lines come first, then one group after the other. -/
def Spells (ls : List (List Char)) (gs : List Group) : Prop :=
  ∃ lead parts, ls = lead ++ parts.flatten ∧ (∀ l ∈ lead, Trailing l) ∧ List.Forall₂ Part gs parts

end Spelling

end Barrage
