import Barrage.Proofs.Scalar.Zero
import Barrage.Vec

/-!
Numbers of single precision that are not zero.

A count is converted before anything is divided by it, and a conversion rounds. It never rounds a
count away: rounding cuts off digits behind the 24th, and a whole number that has any digit has its
first one among those that stay, well above the smallest number of the format. So no count but zero
comes out as a zero, and neither does a distance that is far enough to be gone.
-/

namespace Barrage.Single

open Float.Model (Format UnpackedFloat totalExponent)
open Float.Model.UnpackedFloat

/-! ### Rounding -/

lemma mantissa_shiftRight (em : ExtendedMantissa) (k : Nat) :
    (em >>> k).mantissa = em.mantissa / 2 ^ k := by
  induction k with
  | zero => simp [HShiftRight.hShiftRight, Nat.repeat]
  | succ k ih =>
    have hstep : (em >>> (k + 1)).mantissa = (em >>> k).mantissa / 2 := rfl
    rw [hstep, ih, Nat.div_div_eq_div_mul, Nat.pow_succ]

lemma le_roundedMantissa (em : ExtendedMantissa) : em.mantissa ≤ em.roundedMantissa := by
  obtain ⟨m, r, s⟩ := em
  cases r <;> cases s <;>
    simp [ExtendedMantissa.roundedMantissa, ExtendedMantissa.accuracy, Accuracy.roundToNearestEven]

lemma targetExponent_eq (m : Nat) (e : Int) :
    Format.binary32.targetExponent (totalExponent m e) = max (m.log2 + e - 23) (-149) := by
  simp only [Format.targetExponent, totalExponent, Format.mantissaBits, Format.minExponent]
  norm_num
  omega

/-- What is shifted to its exponent keeps a digit, if its first one is within the format. -/
lemma shiftToTargetExponent_pos {m : Nat} {e : Int} (hm : 0 < m) (he : -149 ≤ e + m.log2) :
    0 < (shiftToTargetExponent Format.binary32 m e .exact).1.mantissa ∧
      (shiftToTargetExponent Format.binary32 m e .exact).1.mantissa < 2 ^ 24 ∧
      -149 ≤ (shiftToTargetExponent Format.binary32 m e .exact).2 := by
  have hlow := Nat.log2_self_le hm.ne'
  have hhigh := Nat.lt_log2_self (n := m)
  simp only [shiftToTargetExponent, shiftToExponent, targetExponent_eq, mantissa_shiftRight,
    ExtendedMantissa.ofMantissaAndAccuracy]
  generalize hk : (max ((m.log2 : Int) + e - 23) (-149) - e).toNat = k
  refine ⟨Nat.div_pos ((Nat.pow_le_pow_right (by decide) ?_).trans hlow) (Nat.two_pow_pos k),
    ?_, by omega⟩
  · omega
  · rw [Nat.div_lt_iff_lt_mul (Nat.two_pow_pos k), ← Nat.pow_add]
    exact hhigh.trans_le (Nat.pow_le_pow_right (by decide) (by omega))

/-- Rounding leaves a number of at most 24 digits, and at least one. -/
lemma roundWithAccuracy_finite (s : Sign) {m : Nat} {e : Int} (hm : 0 < m)
    (he : -149 ≤ e + m.log2) : ∃ m' e' hm', roundWithAccuracy Format.binary32 s m e .exact =
      .finite s m' e' hm' ∧ m' < 2 ^ 24 ∧ -149 ≤ e' := by
  obtain ⟨hpos, -, hexp⟩ := shiftToTargetExponent_pos hm he
  rw [roundWithAccuracy]
  generalize shiftToTargetExponent Format.binary32 m e .exact = first at hpos hexp
  obtain ⟨em, e₁⟩ := first
  have hrounded : 0 < em.roundedMantissa := hpos.trans_le (le_roundedMantissa em)
  obtain ⟨hpos', hlt, hexp'⟩ := shiftToTargetExponent_pos hrounded
    (show -149 ≤ e₁ + em.roundedMantissa.log2 by simp only at hexp; omega)
  simp only [dif_neg hpos'.ne']
  exact ⟨_, _, hpos', rfl, hlt, hexp'⟩

/-- Such a number is not packed into the bits of a zero: in a normal one the exponent is not zero,
in a subnormal one the fraction is not. -/
lemma pack_finite_ne_zero {s s' : Sign} {m : Nat} {e : Int} (hm : 0 < m) (hlt : m < 2 ^ 24)
    (he : -149 ≤ e) :
    UnpackedFloat.pack Format.binary32 (.finite s m e hm) ≠ packedZero Format.binary32 s' := by
  intro heq
  rw [UnpackedFloat.pack] at heq
  simp only at heq
  split at heq
  · have h := congrArg unpackExponent heq
    simp only [packedInfinity, packedZero, unpackExponent_packComponents] at h
    exact absurd h (by decide)
  have hbias : Format.binary32.exponentBias = 127 := by decide
  split at heq
  · rename_i hfits _
    have h := congrArg (BitVec.toNat ∘ unpackExponent) heq
    simp only [Function.comp_apply, packedZero, unpackExponent_packComponents, hbias,
      BitVec.toNat_ofNat] at h hfits
    change _ = 0 at h
    omega
  · rename_i hshort
    have h := congrArg (BitVec.toNat ∘ unpackMantissa) heq
    simp only [Function.comp_apply, packedZero, unpackMantissa_packComponents,
      BitVec.toNat_ofNat] at h
    change _ = 0 at h
    have hshort' : m.log2 + 1 ≠ 24 := hshort
    have hlog := (Nat.log2_lt hm.ne').mpr hlt
    have hlt' : m < 2 ^ 23 := (Nat.log2_lt hm.ne').mp (by omega)
    rw [Nat.mod_eq_of_lt hlt'] at h
    omega

/-! ### Zeros -/

/-- Zero, of either sign. -/
def IsZero (x : Float32) : Prop := ∃ s, x.toModel.unpack = .zero s

lemma beq_zero_iff (x : Float32) : (x == Scalar.nat 0) = true ↔ IsZero x := by
  have hbeq : (x == Scalar.nat 0) = x.toModel.unpack.beq (.zero .positive) := rfl
  rw [hbeq, IsZero]
  rcases x.toModel.unpack with s | _ | s | ⟨s, m, e, hm⟩
  · cases s <;> simp [UnpackedFloat.beq, UnpackedFloat.compare]
  · simp [UnpackedFloat.beq, UnpackedFloat.compare]
  · simp [UnpackedFloat.beq, UnpackedFloat.compare]
  · cases s <;> simp [UnpackedFloat.beq, UnpackedFloat.compare]

lemma not_isZero_round (s : Sign) {m : Nat} {e : Int} (hm : 0 < m) (he : -149 ≤ e + m.log2) :
    ¬ IsZero (.ofModel (.pack (roundWithAccuracy Format.binary32 s m e .exact))) := by
  rintro ⟨s', hs'⟩
  obtain ⟨m', e', hm', hround, hlt, he'⟩ := roundWithAccuracy_finite s hm he
  have hzero := (unpack_eq_zero_iff_of_valid (Float32.Model.pack _).valid).mp hs'
  rw [hround] at hzero
  exact pack_finite_ne_zero hm' hlt he' hzero

lemma exponent_unpack {x : Float32} {s : Sign} {m : Nat} {e : Int} {hm : 0 < m}
    (h : x.toModel.unpack = .finite s m e hm) : -149 ≤ e := by
  have hbias : Format.binary32.exponentBias = 127 := by decide
  simp only [Float32.Model.unpack, UnpackedFloat.unpack, hbias] at h
  split at h
  · split at h <;> cases h
  · split at h
    · split at h
      · cases h
      · cases h
        omega
    · rename_i hne
      cases h
      have hpos := BitVec.toNat_pos_of_ne_zero hne
      omega

/-- A small number is converted by a product with one. -/
lemma not_isZero_mul_one {x : Float32} (hx : ¬ IsZero x) :
    ¬ IsZero (x * Float32.ofBits 0x3F800000) := by
  have hone : (Float32.ofBits 0x3F800000).toModel.unpack =
      .finite .positive (2 ^ 23) (-23) (by decide) := by rfl
  have hmul : x * Float32.ofBits 0x3F800000 = .ofModel (.pack (UnpackedFloat.mul Format.binary32
      x.toModel.unpack (.finite .positive (2 ^ 23) (-23) (by decide)))) := by
    rw [← hone]
    rfl
  rw [hmul]
  rcases hu : x.toModel.unpack with s | _ | s | ⟨s, m, e, hm⟩
  · rintro ⟨s', hs'⟩
    cases s <;> cases s' <;> cases hs'
  · rintro ⟨s', hs'⟩
    cases s' <;> cases hs'
  · exact absurd ⟨s, hu⟩ hx
  · have he := exponent_unpack hu
    refine not_isZero_round _ (Nat.mul_pos hm (by decide)) ?_
    have hlog := (Nat.le_log2 (Nat.mul_pos hm (Nat.two_pow_pos 23)).ne').mpr
      (Nat.le_mul_of_pos_left (2 ^ 23) hm)
    omega

/-- A number converted by rounding. -/
lemma not_isZero_ofNat {n : Nat} (hn : 0 < n) :
    ¬ IsZero (.ofModel (.pack (UnpackedFloat.ofNat Format.binary32 n))) := by
  have hpos : compare (n : Int) 0 = .gt := Int.compare_eq_gt.mpr (by omega)
  rw [UnpackedFloat.ofNat, UnpackedFloat.ofInt, UnpackedFloat.normalize, hpos]
  simp only [Int.toNat_natCast, UnpackedFloat.round, decreaseExponent, targetExponent_eq]
  refine not_isZero_round _ ?_ ?_
  · rw [Nat.shiftLeft_eq]
    exact Nat.mul_pos hn (Nat.two_pow_pos _)
  · omega

/-- **No count but zero is converted to a zero.** -/
theorem nat_ne_zero {n : Nat} (hn : 0 < n) :
    ((Scalar.nat n : Float32) == Scalar.nat 0) = false := by
  rw [← Bool.not_eq_true, beq_zero_iff]
  have hnat : (Scalar.nat n : Float32) = Float32.ofScientific n false 0 := rfl
  rw [hnat, Float32.ofScientific]
  split
  · rename_i hsmall
    refine not_isZero_mul_one ?_
    have hword : n.toUInt64.toNat = n := UInt64.toNat_ofNat_of_lt' (hsmall.1.trans (by decide))
    have h := not_isZero_ofNat hn
    rwa [← hword] at h
  · have hmodel : Float32.Model.ofScientific n 0 = .pack
        (roundWithAccuracy Format.binary32 .positive (n <<< 24 * 10 ^ 0) (-24 + 0) .exact) := by
      have h0 : ¬ (0 : Int) > 2 ^ Format.binary32.exponentBits := by decide
      have h1 : ¬ (0 : Int) < -((2 ^ Format.binary32.exponentBits : Int) + n.log2) := by
        have : (0 : Int) < 2 ^ Format.binary32.exponentBits := by decide
        omega
      rw [Float32.Model.ofScientific, UnpackedFloat.ofScientific, dif_neg hn.ne', if_neg h0,
        if_neg h1, if_pos (Int.le_refl 0)]
      rfl
    change ¬ IsZero ⟨Float32.Model.ofScientific n 0⟩
    rw [hmodel]
    refine not_isZero_round _ ?_ (by omega)
    rw [Nat.shiftLeft_eq]
    exact Nat.mul_pos (Nat.mul_pos hn (Nat.two_pow_pos 24)) (by decide)

/-- Whoever is as far away as to have a way to go is not at distance zero. -/
theorem ne_zero_of_arrival_le {x : Float32} (h : Heading.arrival ≤ x) :
    (x == Scalar.nat 0) = false := by
  rw [← Bool.not_eq_true, beq_zero_iff]
  rintro ⟨s, hs⟩
  have hle : (Heading.arrival : Float32).toModel.unpack.le x.toModel.unpack = true :=
    of_decide_eq_true h
  rw [hs] at hle
  cases s <;> exact absurd hle (by decide +kernel)

end Barrage.Single
