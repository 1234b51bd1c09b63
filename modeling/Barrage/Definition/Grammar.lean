import Barrage.Definition.Parse

/-!
The grammar of definitions.

A rule reads characters from the front of a text. There are no lines in it: the rules for what ends
a line read the line feed as they read everything else. Where there are several rules to choose
from, the first that matches is taken, and a repetition takes as much as it can; neither is thought
better of later. `ahead` asks whether a rule would match and reads nothing.
-/

namespace Barrage.Grammar

/-- What a rule has read, and the rest of the text; none where the rule does not match. -/
abbrev Rule (α : Type) := StateT (List Char) Option α

variable {α : Type}

/-! ### Operators -/

def char (d : Char) : Rule Unit
  | [] => none
  | c :: cs => if c = d then some ((), cs) else none

/-- As many characters of a class as there are. -/
def star (p : Char → Bool) : Rule (List Char) := fun cs => some (cs.takeWhile p, cs.dropWhile p)

/-- At least one character of a class, and as many as there are. -/
def plus (p : Char → Bool) : Rule (List Char) := fun cs =>
  if cs.takeWhile p = [] then none else star p cs

def opt (r : Rule α) : Rule (Option α) := some <$> r <|> pure none

def ahead (r : Rule α) : Rule Unit := fun cs => (r cs).map fun _ => ((), cs)

/-- The end of the text. -/
def eof : Rule Unit := fun cs => if cs = [] then some ((), cs) else none

/-- A rule as often as it matches. A rule that is repeated reads something each time. -/
def many (r : Rule α) : Rule (List α) := fun cs =>
  match r cs with
  | none => some ([], cs)
  | some (a, rest) =>
    if _h : rest.length < cs.length then (many r rest).map fun x => (a :: x.1, x.2)
    else some ([], cs)
termination_by cs => cs.length

/-! ### The ends of lines -/

def ws : Rule Unit := do
  let _ ← star Text.isBlank

def comment : Rule Unit := do
  char ';'
  let _ ← star (· != '\n')

def newline : Rule Unit := do
  let _ ← opt (char '\r')
  char '\n'

def lineEnd : Rule Unit := do
  ws
  let _ ← opt comment
  newline <|> eof

def blank : Rule Unit := do
  ws
  let _ ← opt comment
  newline

/-! ### Numbers -/

/-- A minus sign that may be there, and digits. -/
def whole : Rule Numeral := do
  let minus ← opt (char '-')
  let digits ← plus Numeral.isDigit
  return ⟨minus.isSome, digits, none⟩

def float : Rule Float := do
  let n ← whole
  char '.'
  let digits ← opt (plus Numeral.isDigit)
  return Numeral.toFloat { n with fraction := some (digits.getD []) }

/-- A whole number that does not fit in a word is no match. -/
def integer : Rule Int := do
  let n ← whole
  match n.word? with
  | some i => return i
  | none => failure

def scalar : Rule Float := float <|> Float.ofInt <$> integer

/-! ### Values -/

/-- A further component. -/
def component : Rule Float := do
  ws
  char ','
  ws
  scalar

def vector : Rule Value := do
  let first ← scalar
  let second ← component
  let rest ← many component
  ahead lineEnd
  return .vector (first :: second :: rest)

def number : Rule Value :=
  (do
    let x ← float
    ahead lineEnd
    return .float x) <|>
  (do
    let i ← integer
    ahead lineEnd
    return .integer i)

def quoted : Rule Value := do
  char '"'
  let s ← star fun c => c != '"' && c != '\n'
  char '"'
  ahead lineEnd
  return .string (String.ofList s)

def bare : Rule Value := do
  let s ← plus fun c => c != ';' && c != '\n' && c != '\r'
  return .string (String.ofList (Text.trimEnd s))

def value : Rule Value := vector <|> number <|> quoted <|> bare

/-! ### Definitions -/

def header : Rule String := do
  ws
  char '['
  let name ← plus fun c => c != ']' && c != '\n' && c != '\r'
  char ']'
  lineEnd
  return String.ofList (Text.trim name)

def key : Rule String := do
  let k ← plus Line.isKeyChar
  return String.ofList (Text.lowerAscii k)

def entry : Rule (String × Value) := do
  ws
  let k ← key
  ws
  char '='
  ws
  let v ← value
  lineEnd
  return (k, v)

/-- An entry, and the blank lines in front of it. -/
def spacedEntry : Rule (String × Value) := do
  let _ ← many blank
  entry

def group : Rule Group := do
  let _ ← many blank
  let name ← header
  let entries ← many spacedEntry
  return ⟨name, entries⟩

def file : Rule (List Group) := do
  let groups ← many group
  let _ ← many blank
  ws
  let _ ← opt comment
  return groups

/-- The groups of a text that is a file as a whole. -/
def groups? (cs : List Char) : Option (List Group) :=
  (file cs).bind fun x => if x.2 = [] then some x.1 else none

def parse (text : String) : Option (List Group) := groups? text.toList

end Barrage.Grammar
