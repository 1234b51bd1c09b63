import Barrage.Definition.Grammar

/-!
Where the rules of the grammar fail.

A rule that is tried reads on until a character is not the one it needs, or not of the class it
needs, or until a whole number does not fit. An attempt is a rule together with the rests of a text
in front of which that happens. Whatever is tried counts, be it given up for another rule later or
be it only what ends a repetition. Blanks are read quietly, and whoever looks ahead or asks for the
end of the text leaves no trace either.

What is reported of a text that is no file is the furthest of all these places.
-/

namespace Barrage.Grammar

/-- A rule, and the rests of a text in front of which it fails to read on. -/
structure Attempt (α : Type) where
  rule : Rule α
  failures : List Char → List (List Char)

namespace Attempt

variable {α β : Type}

/-! ### Operators -/

instance : Monad Attempt where
  pure a := ⟨pure a, fun _ => []⟩
  map f r := ⟨f <$> r.rule, r.failures⟩
  bind r f := ⟨r.rule >>= fun a => (f a).rule, fun cs => r.failures cs ++
    match r.rule cs with
    | none => []
    | some (a, rest) => (f a).failures rest⟩

/-- The second rule is tried only where the first does not match. -/
instance : OrElse (Attempt α) where
  orElse r r' := ⟨r.rule <|> (r' ()).rule, fun cs => r.failures cs ++
    match r.rule cs with
    | none => (r' ()).failures cs
    | some _ => []⟩

/-- A rule whose failures do not count. -/
def quiet (r : Rule α) : Attempt α := ⟨r, fun _ => []⟩

/-- What has been read must stand for something. -/
def check : Option α → Attempt α
  | some a => pure a
  | none => ⟨failure, fun cs => [cs]⟩

def char (d : Char) : Attempt Unit :=
  ⟨Grammar.char d, fun cs => if cs.head? = some d then [] else [cs]⟩

/-- A repetition ends in front of a character that is not of the class. -/
def star (p : Char → Bool) : Attempt (List Char) := ⟨Grammar.star p, fun cs => [cs.dropWhile p]⟩

def plus (p : Char → Bool) : Attempt (List Char) := ⟨Grammar.plus p, fun cs => [cs.dropWhile p]⟩

def opt (r : Attempt α) : Attempt (Option α) := ⟨Grammar.opt r.rule, r.failures⟩

def failuresOfMany (r : Attempt α) (cs : List Char) : List (List Char) :=
  r.failures cs ++
    match r.rule cs with
    | none => []
    | some (_, rest) => if rest.length < cs.length then failuresOfMany r rest else []
termination_by cs.length

def many (r : Attempt α) : Attempt (List α) := ⟨Grammar.many r.rule, failuresOfMany r⟩

/-! ### The ends of lines -/

def ws : Attempt Unit := quiet Grammar.ws

def comment : Attempt Unit := do
  char ';'
  let _ ← star (· != '\n')

def newline : Attempt Unit := do
  let _ ← opt (char '\r')
  char '\n'

def lineEnd : Attempt Unit := do
  ws
  let _ ← opt comment
  newline <|> quiet eof

def blank : Attempt Unit := do
  ws
  let _ ← opt comment
  newline

/-! ### Numbers -/

def whole : Attempt Numeral := do
  let minus ← opt (char '-')
  let digits ← plus Numeral.isDigit
  return ⟨minus.isSome, digits, none⟩

def float : Attempt Float := do
  let n ← whole
  char '.'
  let digits ← opt (plus Numeral.isDigit)
  return Numeral.toFloat { n with fraction := some (digits.getD []) }

def integer : Attempt Int := do
  let n ← whole
  check n.word?

def scalar : Attempt Float := float <|> Float.ofInt <$> integer

/-! ### Values -/

def component : Attempt Float := do
  ws
  char ','
  ws
  scalar

def vector : Attempt Value := do
  let first ← scalar
  let second ← component
  let rest ← many component
  quiet (ahead Grammar.lineEnd)
  return .vector (first :: second :: rest)

def number : Attempt Value :=
  (do
    let x ← float
    quiet (ahead Grammar.lineEnd)
    return .float x) <|>
  (do
    let i ← integer
    quiet (ahead Grammar.lineEnd)
    return .integer i)

def quoted : Attempt Value := do
  char '"'
  let s ← star fun c => c != '"' && c != '\n'
  char '"'
  quiet (ahead Grammar.lineEnd)
  return .string (String.ofList s)

def bare : Attempt Value := do
  let s ← plus fun c => c != ';' && c != '\n' && c != '\r'
  return .string (String.ofList (Text.trimEnd s))

def value : Attempt Value := vector <|> number <|> quoted <|> bare

/-! ### Definitions -/

def header : Attempt String := do
  ws
  char '['
  let name ← plus fun c => c != ']' && c != '\n' && c != '\r'
  char ']'
  lineEnd
  return String.ofList (Text.trim name)

def key : Attempt String := do
  let k ← plus Line.isKeyChar
  return String.ofList (Text.lowerAscii k)

def entry : Attempt (String × Value) := do
  ws
  let k ← key
  ws
  char '='
  ws
  let v ← value
  lineEnd
  return (k, v)

def spacedEntry : Attempt (String × Value) := do
  let _ ← many blank
  entry

def group : Attempt Group := do
  let _ ← many blank
  let name ← header
  let entries ← many spacedEntry
  return ⟨name, entries⟩

def file : Attempt (List Group) := do
  let groups ← many group
  let _ ← many blank
  ws
  let _ ← opt comment
  return groups

end Attempt

end Barrage.Grammar
