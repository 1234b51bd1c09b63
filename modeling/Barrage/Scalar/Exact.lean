import Mathlib
import Barrage.Scalar.Basic

/-!
Exact numbers. Every operation is that of the real numbers and none of them rounds, so a formula
over them is what it says. They cannot be computed with, only reasoned about.
-/

namespace Barrage

open Float.Model (UnpackedFloat)

namespace Exact

/-- The number that a float stands for; zero if it stands for none. -/
noncomputable def ofUnpacked : UnpackedFloat → ℝ
  | .finite sign mantissa exponent _ => sign.apply mantissa * 2 ^ exponent
  | .infinity _ | .notANumber | .zero _ => 0

/-- The angle in `[0, 360)`. -/
noncomputable def wrap (degrees : ℝ) : ℝ := toIcoMod (by norm_num : (0 : ℝ) < 360) 0 degrees

/-- The upper bits of the word are so many of the `2 ^ 23 - 1` equal parts of the way. -/
noncomputable def pick (low high : ℝ) (word : UInt32) : ℝ :=
  low + (high - low) * ((word >>> 9).toNat / (2 ^ 23 - 1))

end Exact

/-- No number is the next one to another; the distance is that of single precision, which formulas
use as what is near enough. -/
noncomputable instance : Scalar ℝ where
  decLt := inferInstance
  decLe := inferInstance
  ofInt n := n
  ofFloat x := Exact.ofUnpacked x.toModel.unpack
  decimal digits places := digits / 10 ^ places
  sqrt := Real.sqrt
  abs := abs
  least := min
  epsilon := 1 / 2 ^ 23
  sin := Real.sin
  cos := Real.cos
  atan2 y x := Complex.arg ⟨x, y⟩
  toRadians x := x * (Real.pi / 180)
  toDegrees x := x * (180 / Real.pi)
  wrap := Exact.wrap
  pick := Exact.pick

namespace Exact

@[simp] lemma nat_eq (n : Nat) : (Scalar.nat n : ℝ) = n := Int.cast_natCast n

@[simp] lemma beq_eq (x y : ℝ) : (x == y) = true ↔ x = y := beq_iff_eq

end Exact

end Barrage
