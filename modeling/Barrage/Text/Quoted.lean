import Barrage.Text.HiddenRanges
import Barrage.Text.Lowercase

/-!
Text between double quotes for a message: what could be mistaken for the end of the quotation, and
every character that would leave no mark of its own, is written as an escape.
-/

namespace Barrage.Text

def isHidden (c : Char) : Bool := inRanges hiddenRanges c

def hexDigits (n : Nat) : List Char := Nat.toDigits 16 n

/-- The escape of one character; a visible one stands for itself. -/
def escape (c : Char) : List Char :=
  if c = '\x00' then ['\\', '0']
  else if c = '\t' then ['\\', 't']
  else if c = '\r' then ['\\', 'r']
  else if c = '\n' then ['\\', 'n']
  else if c = '"' then ['\\', '"']
  else if c = '\\' then ['\\', '\\']
  else if isHidden c then ['\\', 'u', '\x7b'] ++ hexDigits c.toNat ++ ['\x7d']
  else [c]

def quoted (s : String) : String :=
  String.ofList ('"' :: s.toList.flatMap escape ++ ['"'])

end Barrage.Text
