import Barrage.Scalar.Single
import Mathlib

/-!
Nothing added to a number.

A number of single precision that is taken apart into its sign, its exponent and its fraction can be
put together again without any rounding. A sum with zero does no more than that, except that it
turns the negative zero into the positive one, which is the same number.
-/

namespace Barrage.Single

open Float.Model (Format UnpackedFloat)

/-- The same number, or no number both times. -/
def Same (x y : Float32) : Prop := (x == y) = true ∨ (x.isNaN = true ∧ y.isNaN = true)

lemma Same.refl (x : Float32) : Same x x := by
  by_cases h : x = .nan
  · exact .inr (by simp [h])
  · exact .inl (Float32.beq_self_iff.mpr h)

lemma unpack_zero : (Scalar.nat 0 : Float32).toModel.unpack = .zero .positive := rfl

lemma pack_unpack_model (m : Float32.Model) : Float32.Model.pack m.unpack = m := by
  obtain ⟨bits, hvalid⟩ := m
  have hbits := UnpackedFloat.pack_unpack_of_valid hvalid
  simp only [Float32.Model.pack, Float32.Model.unpack, hbits]

/-- **Nothing added to a number leaves it the number that it is.** -/
theorem same_add_zero (x : Float32) : Same (x + Scalar.nat 0) x := by
  have hsum : x + Scalar.nat 0 = Float32.ofModel (Float32.Model.pack
      (UnpackedFloat.add Format.binary32 x.toModel.unpack (.zero .positive))) := by
    rw [← unpack_zero]
    rfl
  rw [hsum]
  by_cases hzero : ∃ s, x.toModel.unpack = .zero s
  · obtain ⟨s, hs⟩ := hzero
    have hbeq (y : Float32) : (y == x) = y.toModel.unpack.beq x.toModel.unpack := rfl
    left
    rw [hbeq, hs]
    cases s <;> rfl
  · have hsame : UnpackedFloat.add Format.binary32 x.toModel.unpack (.zero .positive) =
        x.toModel.unpack := by
      rcases hu : x.toModel.unpack with s | _ | s | ⟨s, m, e, hm⟩
      · rfl
      · rfl
      · exact absurd ⟨s, hu⟩ hzero
      · rfl
    rw [hsame, pack_unpack_model]
    exact .refl x

end Barrage.Single
