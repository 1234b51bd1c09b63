import Barrage.Decimal.Numeral
import Barrage.Definition.Basic

/-!
A text is read line by line. A line is blank, a header `[name]`, or an entry `key = value`; spaces
and tabs may stand between the parts, and what follows a semicolon behind them is a comment.

A value is a list of numbers, a number, or a string in quotes, whenever the whole of it reads as
one, and otherwise the bare text up to the comment. A carriage return belongs to the end of a line
only right in front of the line feed; elsewhere it may stand inside quotes, comments and nothing
else.

A line that is none of the three has a *reach*: how many characters of it were read before
something unexpected came, in whichever reading came furthest.
-/

namespace Barrage

/-- The characters of a line without the line feed, and whether there is a line feed. -/
structure Line where
  chars : List Char
  ended : Bool
  deriving Repr, DecidableEq

namespace Line

def ofText (cs : List Char) : List Line :=
  match _h : cs.dropWhile (· != '\n') with
  | [] => [⟨cs, false⟩]
  | _ :: rest => ⟨cs.takeWhile (· != '\n'), true⟩ :: ofText rest
termination_by cs.length
decreasing_by
  have := (List.dropWhile_suffix (· != '\n') (l := cs)).length_le
  simp [_h] at this
  omega

/-- Whether `rest` may end a line: blanks, a comment, and the carriage return of a line feed. -/
def isEnd (ended : Bool) (rest : List Char) : Bool :=
  match Text.skipBlanks rest with
  | [] => true
  | ';' :: _ => true
  | ['\r'] => ended
  | _ => false

/-- Where the end of the line was not found: behind a carriage return, which asks for a line feed,
or at the first character that is no blank. -/
def endStop (rest : List Char) : List Char :=
  match Text.skipBlanks rest with
  | '\r' :: r => r
  | r => r

/-! ### Values -/

def isBare (c : Char) : Bool := c != ';' && c != '\r'

def splitCommas (cs : List Char) : List (List Char) :=
  match cs with
  | [] => [[]]
  | c :: cs =>
    if c = ',' then [] :: splitCommas cs
    else
      match splitCommas cs with
      | [] => [[c]]
      | p :: ps => (c :: p) :: ps

/-- Two or more components with commas between them. -/
def vector? (cs : List Char) : Option (List Float) :=
  match splitCommas cs with
  | [] | [_] => none
  | ps => ps.mapM fun p =>
    (Numeral.ofChars? (Text.trimEndBy Text.isBlank (Text.skipBlanks p))).bind (·.component?)

/-- The value of a text that ends where the line does. -/
def bareValue (cs : List Char) : Value :=
  let number := Text.trimEndBy Text.isBlank cs
  match vector? number, Numeral.ofChars? number with
  | some xs, _ => .vector xs
  | none, some n =>
    if n.fraction.isSome then .float n.toFloat
    else
      match n.word? with
      | some i => .integer i
      | none => .string (String.ofList (Text.trimEnd cs))
  | none, none => .string (String.ofList (Text.trimEnd cs))

/-- A text in quotes that ends where the line does. -/
def quoted? (ended : Bool) (cs : List Char) : Option String :=
  match cs with
  | '"' :: cs =>
    match cs.dropWhile (· != '"') with
    | '"' :: rest =>
      if isEnd ended rest then some (String.ofList (cs.takeWhile (· != '"'))) else none
    | _ => none
  | _ => none

/-- How far a reading in quotes gets: to the quote that closes it, or to the end of the line. -/
def quotedStop (cs : List Char) : List Char :=
  match cs with
  | '"' :: cs => cs.dropWhile (· != '"')
  | cs => cs

/-- The shorter of two rests of a line, which is the one further on. -/
def further (r s : List Char) : List Char := if s.length < r.length then s else r

/-- The value that the rest of a line stands for, or where the reading of it stops. -/
def value (ended : Bool) (cs : List Char) : Except (List Char) Value :=
  match quoted? ended cs with
  | some s => .ok (.string s)
  | none =>
    let rest := cs.dropWhile isBare
    match cs.takeWhile isBare with
    | [] => .error cs
    | bare =>
      if isEnd ended rest then .ok (bareValue bare)
      else .error (further (endStop rest) (quotedStop cs))

/-! ### Headers and entries -/

def isNameChar (c : Char) : Bool := c != ']' && c != '\r'

/-- The name in a header, or where the reading of the header stops. -/
def header (l : Line) : Except (List Char) String :=
  match Text.skipBlanks l.chars with
  | '[' :: cs =>
    match cs.takeWhile isNameChar, cs.dropWhile isNameChar with
    | [], _ => .error cs
    | name, ']' :: rest =>
      if isEnd l.ended rest then .ok (String.ofList (Text.trim name)) else .error (endStop rest)
    | _, rest => .error rest
  | rest => .error rest

def isKeyChar (c : Char) : Bool := c.isAlphanum || c == '_' || c == '.' || c == '-'

/-- The key and the value of an entry, or where the reading of the entry stops. -/
def entry (l : Line) : Except (List Char) (String × Value) :=
  let cs := Text.skipBlanks l.chars
  match cs.takeWhile isKeyChar with
  | [] => .error cs
  | key =>
    match Text.skipBlanks (cs.dropWhile isKeyChar) with
    | '=' :: rest =>
      match value l.ended (Text.skipBlanks rest) with
      | .ok v => .ok (String.ofList (Text.lowerAscii key), v)
      | .error stop => .error stop
    | rest => .error rest

/-! ### Lines -/

inductive Content where
  | blank
  | header (name : String)
  | entry (key : String) (value : Value)

/-- What a line says; only a group has entries. -/
def content? (inGroup : Bool) (l : Line) : Option Content :=
  if isEnd l.ended l.chars then some .blank
  else
    match l.header with
    | .ok name => some (.header name)
    | .error _ =>
      if inGroup then
        match l.entry with
        | .ok (key, v) => some (.entry key v)
        | .error _ => none
      else none

/-- Where a reading of the line stopped; one that went well stops nowhere. -/
def stops (inGroup : Bool) (l : Line) : List (List Char) :=
  let ofReading {α : Type} : Except (List Char) α → List (List Char)
    | .ok _ => []
    | .error r => [r]
  endStop l.chars :: ofReading l.header ++ if inGroup then ofReading l.entry else []

/-- How many characters of the line the reading that came furthest has read. -/
def reach (inGroup : Bool) (l : Line) : Nat :=
  (l.stops inGroup).foldl (fun n r => max n (l.chars.length - r.length)) 0

end Line

end Barrage
