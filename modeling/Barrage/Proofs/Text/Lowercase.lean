import Barrage.Text.Lowercase
import Mathlib.Tactic.Common

/-!
Lowercase text is its own lowercase form.

The table of letters is a matter of computation: no run of it has an entry for what a run, its own
or another, gives. A capital sigma gives one of two small ones, and neither has an entry. So
lowercase text holds no letter that has another form, whatever stands around it.
-/

namespace Barrage.Text

/-! ### The table -/

/-- A run has an entry for a code point. -/
def covers (r : Nat × Nat × Nat × Nat) (n : Nat) : Bool :=
  r.1 ≤ n && n ≤ r.2.1 && (n - r.1) % r.2.2.1 == 0

/-- What a run gives for a code point. -/
def image (r : Nat × Nat × Nat × Nat) (n : Nat) : Nat := r.2.2.2 + (n - r.1)

/-- The runs of the table, and the letter that is in none of them. -/
def entries : List (Nat × Nat × Nat × Nat) := (0x130, 0x130, 1, 0) :: lowerRuns.toList

/-- No run has an entry for a code point. -/
def Free (n : Nat) : Prop := ∀ q ∈ entries, covers q n = false

/-- What the run `r` gives is no entry of the run `q`: it lies below them, above them, or between
them, where both take every second code point. -/
def apart (r q : Nat × Nat × Nat × Nat) : Bool :=
  Nat.blt (image r r.2.1) q.1 || Nat.blt q.2.1 r.2.2.2 ||
    (Nat.beq (r.2.2.1 % 2) 0 || Nat.beq r.1 r.2.1) && Nat.beq (q.2.2.1 % 2) 0 &&
      Nat.beq ((r.2.2.2 + q.1) % 2) 1

variable {r q : Nat × Nat × Nat × Nat} {n : Nat} {c d : Char}

lemma apart_runs : (lowerRuns.toList.all fun r => entries.all (apart r)) = true := by
  decide +kernel

/-- The runs give code points of characters. -/
lemma isValidChar_runs : ∀ r ∈ lowerRuns.toList,
    image r r.2.1 < 0xD800 ∨ 0xDFFF < r.2.2.2 ∧ image r r.2.1 < 0x110000 := by
  decide +kernel

lemma covers_eq_true :
    covers r n = true ↔ r.1 ≤ n ∧ n ≤ r.2.1 ∧ r.2.2.1 ∣ n - r.1 := by
  simp [covers, and_assoc, Nat.dvd_iff_mod_eq_zero]

lemma not_covers_image (h : apart r q = true) (hn : covers r n = true) :
    covers q (image r n) = false := by
  obtain ⟨hfirst, hlast, hstep⟩ := covers_eq_true.mp hn
  simp only [apart, Bool.or_eq_true, Bool.and_eq_true, Nat.blt_eq, Nat.beq_eq] at h
  rw [Bool.eq_false_iff]
  intro hq
  obtain ⟨hfirst', hlast', hstep'⟩ := covers_eq_true.mp hq
  rw [image] at h hfirst' hlast' hstep'
  rcases h with (hbelow | habove) | ⟨⟨hr, hq⟩, hodd⟩
  · omega
  · omega
  · -- one of the two is an even code point and the other an odd one
    have heven : 2 ∣ n - r.1 := by
      rcases hr with hr | hsingle
      · exact Nat.dvd_trans (Nat.dvd_of_mod_eq_zero hr) hstep
      · omega
    have heven' := Nat.dvd_trans (Nat.dvd_of_mod_eq_zero hq) hstep'
    omega

lemma free_image (hr : r ∈ lowerRuns.toList) (hn : covers r n = true) : Free (image r n) := by
  intro q hq
  have hall := List.all_eq_true.mp apart_runs r hr
  exact not_covers_image (List.all_eq_true.mp hall q hq) hn

lemma toNat_image (hr : r ∈ lowerRuns.toList) (hn : covers r n = true) :
    (Char.ofNat (image r n)).toNat = image r n := by
  have hvalid := isValidChar_runs r hr
  obtain ⟨hfirst, hlast, -⟩ := covers_eq_true.mp hn
  have hchar : (image r n).isValidChar := by
    rw [image] at hvalid ⊢
    rw [Nat.isValidChar]
    omega
  rw [Char.ofNat, dif_pos hchar]
  rfl

/-! ### Characters -/

/-- A character is its own lowercase form, wherever it stands. -/
def IsSmall (c : Char) : Prop := c ≠ 'Σ' ∧ lowerChar c = [c]

lemma lowerChar_eq (c : Char) : lowerChar c =
    if c.toNat < 0x80 then [c.toLower]
    else if c.toNat = 0x130 then ['i', '\u0307']
    else
      match lowerRuns.toList.find? (covers · c.toNat) with
      | some r => [Char.ofNat (image r c.toNat)]
      | none => [c] := by
  rw [lowerChar, ← Array.find?_toList]
  rfl

/-- A letter of ASCII in lowercase. -/
lemma toLower_ascii : ∀ n < 0x80, (Char.ofNat n).toLower.toNat < 0x80 ∧
    (Char.ofNat n).toLower.toLower = (Char.ofNat n).toLower ∧
    (covers (0x41, 0x5A, 1, 0x61) n = false → (Char.ofNat n).toLower = Char.ofNat n) := by
  decide

lemma isSmall_toLower (h : c.toNat < 0x80) : IsSmall c.toLower := by
  obtain ⟨hlt, hfixed, -⟩ := toLower_ascii c.toNat h
  rw [Char.ofNat_toNat] at hlt hfixed
  constructor
  · intro hsigma
    rw [hsigma] at hlt
    exact absurd hlt (by decide)
  · rw [lowerChar_eq, if_pos hlt, hfixed]

lemma isSmall_of_free (h : Free c.toNat) : IsSmall c := by
  by_cases hascii : c.toNat < 0x80
  · have hfixed := (toLower_ascii c.toNat hascii).2.2
      (h _ (List.mem_cons_of_mem _ List.mem_cons_self))
    rw [Char.ofNat_toNat] at hfixed
    exact hfixed ▸ isSmall_toLower hascii
  constructor
  · rintro rfl
    exact absurd (h (0x3A3, 0x3AB, 1, 0x3C3) (by decide +kernel)) (by decide)
  · have hdotted : c.toNat ≠ 0x130 := by
      intro heq
      have hfirst := h _ List.mem_cons_self
      rw [heq] at hfirst
      cases hfirst
    have hnone : lowerRuns.toList.find? (covers · c.toNat) = none :=
      List.find?_eq_none.mpr fun q hq => by simp [h q (List.mem_cons_of_mem _ hq)]
    rw [lowerChar_eq, if_neg hascii, if_neg hdotted, hnone]

/-- The letters that the capital sigma and the dotted capital I give. -/
lemma free_letters : ∀ n ∈ [0x69, 0x307, 0x3C2, 0x3C3], entries.all (!covers · n) = true := by
  decide +kernel

lemma isSmall_letter (h : d.toNat ∈ [0x69, 0x307, 0x3C2, 0x3C3]) : IsSmall d := by
  refine isSmall_of_free fun q hq => ?_
  simpa using List.all_eq_true.mp (free_letters d.toNat h) q hq

/-- **The lowercase form of a character has no other form.** -/
theorem isSmall_of_mem_lowerChar (h : d ∈ lowerChar c) : IsSmall d := by
  rw [lowerChar_eq] at h
  split_ifs at h with hascii hdotted
  · obtain rfl := List.mem_singleton.mp h
    exact isSmall_toLower hascii
  · rcases List.mem_cons.mp h with rfl | h
    · exact isSmall_letter (by decide)
    · obtain rfl := List.mem_singleton.mp h
      exact isSmall_letter (by decide)
  · rcases hfind : lowerRuns.toList.find? (covers · c.toNat) with _ | r
    · rw [hfind] at h
      obtain rfl := List.mem_singleton.mp h
      refine isSmall_of_free fun q hq => ?_
      rw [Bool.eq_false_iff]
      intro hcovers
      rcases List.mem_cons.mp hq with rfl | hq
      · obtain ⟨hfirst, hlast, -⟩ := covers_eq_true.mp hcovers
        exact hdotted (Nat.le_antisymm hlast hfirst)
      · exact List.find?_eq_none.mp hfind q hq hcovers
    · rw [hfind] at h
      obtain rfl := List.mem_singleton.mp h
      have hr := List.mem_of_find?_eq_some hfind
      have hn := List.find?_some hfind
      refine isSmall_of_free ?_
      rw [toNat_image hr hn]
      exact free_image hr hn

/-! ### Texts -/

lemma isSmall_of_mem_lowerAfter {before cs : List Char} (h : d ∈ lowerAfter before cs) :
    IsSmall d := by
  induction cs generalizing before with
  | nil => cases h
  | cons c cs ih =>
    rw [lowerAfter] at h
    rcases List.mem_append.mp h with h | h
    · split_ifs at h
      · obtain rfl := List.mem_singleton.mp h
        exact isSmall_letter (by decide)
      · obtain rfl := List.mem_singleton.mp h
        exact isSmall_letter (by decide)
      · exact isSmall_of_mem_lowerChar h
    · exact ih h

lemma lowerAfter_of_isSmall {before cs : List Char} (h : ∀ c ∈ cs, IsSmall c) :
    lowerAfter before cs = cs := by
  induction cs generalizing before with
  | nil => rfl
  | cons c cs ih =>
    obtain ⟨hsigma, hfixed⟩ := h c List.mem_cons_self
    have hrest : lowerAfter (c :: before) cs = cs :=
      ih fun d hd => h d (List.mem_cons_of_mem c hd)
    rw [lowerAfter, if_neg hsigma, hfixed, hrest]
    rfl

/-- **Lowercase text is its own lowercase form.** -/
@[simp] theorem lower_lower (s : String) : lower (lower s) = lower s := by
  rw [lower, lower, String.toList_ofList, lowerChars, lowerChars,
    lowerAfter_of_isSmall fun _ => isSmall_of_mem_lowerAfter]

end Barrage.Text
