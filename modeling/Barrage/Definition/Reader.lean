import Barrage.Definition.Fault
import Barrage.Scalar.Basic

/-!
Readers take a value of an entry to the type that is wanted, or say why it has none. A whole number
is a number of any kind that has room for it; a number with a point is never a whole one; a string
is never a number.
-/

namespace Barrage

abbrev Reader (α : Type) := Value → Except Fault α

namespace Reader

def wrongType {α : Type} (expected : String) (v : Value) : Except Fault α :=
  .error (.wrongType v.found expected)

/-- The whole numbers from `low` up to and not including `high`. -/
def ranged (name : String) (low high : Int) : Reader Int
  | .integer i =>
    if low ≤ i ∧ i < high then .ok i else .error (.wrongValue (.integer i) name)
  | v => wrongType name v

def u8 : Reader UInt8 := fun v => (ranged "u8" 0 0x100 v).map (UInt8.ofNat ·.toNat)
def u32 : Reader UInt32 := fun v => (ranged "u32" 0 0x100000000 v).map (UInt32.ofNat ·.toNat)
def u64 : Reader UInt64 := fun v =>
  (ranged "u64" 0 0x10000000000000000 v).map (UInt64.ofNat ·.toNat)
def i32 : Reader Int32 := fun v => (ranged "i32" (-0x80000000) 0x80000000 v).map Int32.ofInt
def i64 : Reader Int := ranged "i64" (-0x8000000000000000) 0x8000000000000000

/-- A number of double precision. -/
def f64 : Reader Float
  | .integer i => .ok (Float.ofInt i)
  | .float x => .ok x
  | v => wrongType "f64" v

/-- A number that motion is computed with. -/
def scalar {K : Type} [Scalar K] : Reader K
  | .integer i => .ok (Scalar.ofInt i)
  | .float x => .ok (Scalar.ofFloat x)
  | v => wrongType "f32" v

def bool : Reader Bool
  | .integer 0 => .ok false
  | .integer 1 => .ok true
  | .string s =>
    if Text.sameIgnoringCase s "false" then .ok false
    else if Text.sameIgnoringCase s "true" then .ok true
    else wrongType "a boolean" (.string s)
  | v => wrongType "a boolean" v

def string : Reader String
  | .string s => .ok s
  | v => wrongType "a string" v

def char : Reader Char
  | .string s =>
    match s.toList with
    | [c] => .ok c
    | _ => .error (.wrongValue (.string s) "a character")
  | v => wrongType "a character" v

/-- No value has the type with nothing in it. -/
def unit : Reader Unit := wrongType "unit"

/-- The components are read one by one. -/
def list {α : Type} (item : Reader α) : Reader (List α)
  | .vector xs => xs.mapM fun x => item (.float x)
  | v => wrongType "a sequence" v

/-- Two components and no more. -/
def pair {α : Type} (item : Reader α) : Reader (α × α)
  | .vector xs =>
    match xs with
    | x :: y :: rest => do
      let a ← item (.float x)
      let b ← item (.float y)
      if rest.isEmpty then .ok (a, b)
      else .error (.wrongLength xs.length "2 elements in sequence")
    | _ => .error (.wrongLength xs.length "a tuple of size 2")
  | v => wrongType "a tuple of size 2" v

/-- One of the named values. -/
def variant {α : Type} (name : String) (variants : List (String × α)) : Reader α
  | .string s =>
    match variants.lookup s with
    | some a => .ok a
    | none => .error (.unknownVariant s (variants.map (·.1)))
  | v => wrongType ("enum " ++ name) v

/-- A field that may be read once. That it was read before is found out before its value is. -/
def once {α : Type} (field : String) (slot : Option α) (read : Reader α) : Reader (Option α) :=
  fun v => if slot.isSome then .error (.duplicate field) else (read v).map some

end Reader

/-- Reads the entries one by one in the order of the file; the first that fails ends the reading. -/
def Group.readEntries {σ : Type} (g : Group) (read : σ → String → Value → Except Fault σ)
    (start : σ) : Except Fault σ :=
  g.entries.foldlM (fun s e => read s e.1 e.2) start

end Barrage
