/-!
The fewest decimal digits that read back as a given double. A finite positive double is a whole
number of units of some power of two; on the grid of `n`-digit decimals only its two neighbours can
read back as it, so the first `n` for which one of them does gives the shortest form, and the nearer
neighbour is its closest one. Seventeen digits always suffice. The search starts at `n = 0`, the
grid of a power of ten above the value, which the value may round up to.
-/

namespace Barrage.Decimal

/-- A positive decimal `digits * 10 ^ exponent`. -/
structure Scaled where
  digits : Nat
  exponent : Int
  deriving Repr, DecidableEq

/-- The significand and the power of two of a finite double, without its sign. -/
def parts (x : Float) : Nat × Int :=
  let m := (x.toBits &&& 0xFFFFFFFFFFFFF).toNat
  let e := ((x.toBits >>> 52) &&& 0x7FF).toNat
  if e = 0 then (m, -1074) else (m + 0x10000000000000, (e : Int) - 1075)

/-- The double nearest to the decimal. -/
def Scaled.toFloat (d : Scaled) : Float :=
  if d.exponent < 0 then Float.ofScientific d.digits true d.exponent.natAbs
  else Float.ofScientific d.digits false d.exponent.natAbs

/-- The quotient `num / den` measured in units of `10 ^ exponent`: the whole part, and twice the
remainder beside the unit. -/
def onGrid (num den : Nat) (exponent : Int) : Nat × Nat × Nat :=
  let (n, d) :=
    if exponent < 0 then (num * Nat.pow 10 exponent.natAbs, den)
    else (num, den * Nat.pow 10 exponent.natAbs)
  (n / d, 2 * (n % d), d)

/-- The neighbour of `num / den` on the grid that reads back as `x`, the nearer one if both do. -/
def onGrid? (x : Float) (num den : Nat) (exponent : Int) : Option Scaled :=
  let (low, twice, unit) := onGrid num den exponent
  let reads (n : Nat) : Bool := n != 0 && (Scaled.toFloat ⟨n, exponent⟩).toBits == x.toBits
  match reads low, reads (low + 1) with
  | true, true => some ⟨if twice < unit then low else low + 1, exponent⟩
  | true, false => some ⟨low, exponent⟩
  | false, true => some ⟨low + 1, exponent⟩
  | false, false => none

/-- The least `e` with `num / den < 10 ^ e`, searched for upwards from `e`. -/
def magnitude (num den : Nat) : Nat → Int → Int
  | 0, e => e
  | fuel + 1, e => if (onGrid num den e).1 = 0 then e else magnitude num den fuel (e + 1)

/-- The shortest decimal that reads back as `x`, a finite double above zero. -/
def shortest (x : Float) : Scaled :=
  let (m, q) := parts x
  let num := if q < 0 then m else m * Nat.pow 2 q.natAbs
  let den := if q < 0 then Nat.pow 2 q.natAbs else 1
  let e := magnitude num den 700 (-330)
  let found := (List.range 18).findSome? fun (n : Nat) => onGrid? x num den (e - n)
  found.getD ⟨0, 0⟩

/-- The digits with the point in place and no exponent; there is at least one digit on each side. -/
def Scaled.positional (d : Scaled) : String :=
  let ds := Nat.toDigits 10 d.digits
  if 0 ≤ d.exponent then String.ofList (ds ++ List.replicate d.exponent.natAbs '0' ++ ['.', '0'])
  else
    let places := d.exponent.natAbs
    let padded := List.replicate (places + 1 - ds.length) '0' ++ ds
    let cut := padded.length - places
    String.ofList (padded.take cut ++ '.' :: padded.drop cut)

/-- The text of a double: the shortest digits that read back, always with a point. -/
def text (x : Float) : String :=
  let negative := x.toBits >>> 63 == 1
  let sign := if negative then "-" else ""
  if x.isNaN then "NaN"
  else if x.isInf then sign ++ "inf"
  else if x == 0 then sign ++ "0.0"
  else sign ++ (shortest x.abs).positional

end Barrage.Decimal
