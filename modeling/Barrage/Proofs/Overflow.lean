import Barrage.Bodies
import Barrage.Proofs.Storage

/-!
Bodies that no handle finds.

A slot beyond the reach of 32 bits is filled once and never vacated, since no handle names it. What
its own handle finds lies in another slot, and if no two slots hold bodies of one shot, that is the
body of another shot or none at all.
-/

namespace Barrage.Bodies

variable {K : Type} {bs : Bodies K}

/-- What was asked of the body that lies in a slot. -/
def descAt (bs : Bodies K) (i : Nat) : Option (BodyDesc K) :=
  (bs.slots[i]?.bind (·.value)).map (·.desc)

/-- Each shot has one slot at most, where `issued` is the last number of a shot. -/
structure Single (bs : Bodies K) (issued : Nat) : Prop where
  known : ∀ i d, bs.descAt i = some d → d.shot.raw ≤ issued
  single : ∀ i j d d', bs.descAt i = some d → bs.descAt j = some d' → d.shot = d'.shot → i = j
  full : ∀ i, UInt32.size ≤ i → bs.descAt i = none → bs.slots.size ≤ i
  slots : bs.slots.size ≤ issued

lemma single_empty : Single (K := K) Arena.empty 0 :=
  ⟨by simp [descAt, Arena.empty], by simp [descAt, Arena.empty], by simp [Arena.empty],
    by simp [Arena.empty]⟩

lemma Single.mono {n m : Nat} (h : bs.Single n) (hn : n ≤ m) : bs.Single m :=
  ⟨fun i d hd => Nat.le_trans (h.known i d hd) hn, h.single, h.full, Nat.le_trans h.slots hn⟩

lemma descAt_of_get? {b : BodyId} {body : Body K} (h : bs.get? b = some body) :
    bs.descAt b.index.toNat = some body.desc := by
  simp [descAt, Arena.get?_eq_some.mp h]

/-! ### Where 32 bits are not enough -/

/-- **Beyond 32 bits a body is lost**: the handle that it is listed with finds no body of its shot.
-/
theorem Single.lost {n : Nat} (h : bs.Single n) (hfits : ¬ bs.Fits) :
    ∃ x ∈ bs.entries, ∀ body, bs.get? x.1 = some body → body.desc.shot ≠ x.2.desc.shot := by
  have hlt : UInt32.size < bs.slots.size := Nat.lt_of_not_le hfits
  rcases hat : bs.descAt UInt32.size with _ | d
  · have := h.full _ (Nat.le_refl _) hat
    omega
  · obtain ⟨body, hbody, rfl⟩ := Option.map_eq_some_iff.mp hat
    obtain ⟨⟨g, w⟩, hslot, rfl⟩ := Option.bind_eq_some_iff.mp hbody
    refine ⟨(⟨UInt32.ofNat UInt32.size, g⟩, body), ?_, fun other hother he => ?_⟩
    · simp only [Arena.entries, List.mem_filterMap, List.mem_zipIdx_iff_getElem?, Prod.exists,
        Array.getElem?_toList]
      exact ⟨_, _, hslot, rfl⟩
    · have hindex := h.single _ _ _ _ (descAt_of_get? hother) hat he
      exact absurd hindex (Nat.ne_of_lt (UInt32.toNat_lt _))

/-! ### What keeps it so -/

/-- A slot that is vacated is one that 32 bits can name. -/
lemma descAt_erase (bs : Bodies K) (b : BodyId) (i : Nat) :
    descAt (bs.erase b) i = bs.descAt i ∨ descAt (bs.erase b) i = none ∧ i < UInt32.size := by
  unfold Arena.erase
  split
  · by_cases hi : b.index.toNat = i
    · refine .inr ⟨?_, hi ▸ b.index.toNat_lt⟩
      simp only [descAt, Array.getElem?_setIfInBounds, hi, if_true]
      split <;> rfl
    · left
      simp [descAt, hi]
  · exact .inl rfl

lemma Single.erase {n : Nat} (h : bs.Single n) (b : BodyId) : Single (bs.erase b) n := by
  have hsome : ∀ i d, descAt (bs.erase b) i = some d → bs.descAt i = some d := fun i d hd => by
    rcases descAt_erase bs b i with hi | ⟨hi, -⟩
    · rwa [hi] at hd
    · rw [hi] at hd
      cases hd
  refine ⟨fun i d hd => h.known i d (hsome i d hd),
    fun i j d d' hi hj => h.single i j d d' (hsome i d hi) (hsome j d' hj),
    fun i hi hnone => ?_, ?_⟩
  · rw [Arena.size_slots_erase]
    rcases descAt_erase bs b i with he | ⟨-, hlt⟩
    · exact h.full i hi (he ▸ hnone)
    · omega
  · rw [Arena.size_slots_erase]
    exact h.slots

lemma Single.of_eq {bs' : Bodies K} {n : Nat} (h : bs.Single n)
    (hsize : bs'.slots.size = bs.slots.size) (hat : ∀ i, bs'.descAt i = bs.descAt i) :
    bs'.Single n := by
  refine ⟨fun i d => ?_, fun i j d d' => ?_, fun i hi => ?_, ?_⟩
  · rw [hat]
    exact h.known i d
  · rw [hat, hat]
    exact h.single i j d d'
  · rw [hat, hsize]
    exact h.full i hi
  · rw [hsize]
    exact h.slots

variable [Scalar K]

/-- Whatever moves a body, what was asked of it stays. -/
@[simp] lemma desc_apply (body : Body K) (m : Motion K) : (body.apply m).desc = body.desc := by
  cases m <;> rfl

@[simp] lemma fits_move (bs : Bodies K) (b : BodyId) (m : Motion K) :
    Arena.Fits (bs.move b m) ↔ bs.Fits := by
  rw [Arena.Fits, move, Arena.size_slots_modify, Arena.Fits]

@[simp] lemma fits_integrate (bs : Bodies K) : Arena.Fits bs.integrate ↔ bs.Fits := by
  rw [Arena.Fits, integrate, Arena.size_slots_map, Arena.Fits]

lemma Single.move {n : Nat} (h : bs.Single n) (b : BodyId) (m : Motion K) :
    Single (bs.move b m) n := by
  refine h.of_eq (Arena.size_slots_modify bs b _) fun i => ?_
  rw [Bodies.move, Arena.modify]
  split
  · rename_i body hb
    simp only [descAt, Array.getElem?_setIfInBounds]
    split
    · rename_i hi
      have hslot := Arena.get?_eq_some.mp hb
      have hlt := (Array.getElem?_eq_some_iff.mp hslot).1
      rw [← hi, hslot, if_pos hlt]
      simp
    · rfl
  · rfl

lemma Single.integrate {n : Nat} (h : bs.Single n) : Single bs.integrate n := by
  refine h.of_eq (Arena.size_slots_map bs _) fun i => ?_
  simp only [descAt, Bodies.integrate, Arena.map, Array.getElem?_map]
  rcases bs.slots[i]? with _ | ⟨g, _ | body⟩ <;> rfl

lemma descAt_add (hs : bs.Sound) (d : BodyDesc K) : ∃ k ≤ bs.slots.size,
    (bs.add d).2.slots.size = max bs.slots.size (k + 1) ∧
      ∀ i, (bs.add d).2.descAt i = if i = k then some d else bs.descAt i := by
  rcases hf : bs.free with _ | ⟨i, rest⟩
  · refine ⟨bs.slots.size, Nat.le_refl _, by simp [add, Arena.insert, hf], fun j => ?_⟩
    simp only [descAt, add, Arena.insert, hf, Array.getElem?_push]
    split <;> simp [Body.ofDesc]
  · obtain ⟨n, hn⟩ := hs.vacant i (by simp [hf])
    have hlt : i.toNat < bs.slots.size := (Array.getElem?_eq_some_iff.mp hn).1
    refine ⟨i.toNat, Nat.le_of_lt hlt, ?_, fun j => ?_⟩
    · simp only [add, Arena.insert, hf, Array.size_setIfInBounds]
      omega
    simp only [descAt, add, Arena.insert, hf, Array.getElem?_setIfInBounds, hlt, if_true,
      eq_comm (a := i.toNat)]
    split <;> simp [Body.ofDesc]

lemma Single.add {n : Nat} (h : bs.Single n) (hs : bs.Sound) {d : BodyDesc K}
    (hd : d.shot.raw = n + 1) : (bs.add d).2.Single (n + 1) := by
  obtain ⟨k, hk, hsize, hat⟩ := descAt_add hs d
  refine ⟨fun i d' hi => ?_, fun i j d₁ d₂ hi hj he => ?_, fun i hi hnone => ?_, ?_⟩
  · rw [hat] at hi
    split at hi
    · cases hi
      omega
    · exact Nat.le_succ_of_le (h.known i d' hi)
  · -- a body of before is not of the shot that has just got its number
    have hold : ∀ l d', bs.descAt l = some d' → d.shot ≠ d'.shot := fun l d' hl he => by
      have := h.known l d' hl
      rw [← he] at this
      omega
    rw [hat] at hi hj
    split at hi <;> split at hj
    · omega
    · cases hi
      exact absurd he (hold j d₂ hj)
    · cases hj
      exact absurd he.symm (hold i d₁ hi)
    · exact h.single i j d₁ d₂ hi hj he
  · rw [hat] at hnone
    split at hnone
    · cases hnone
    · have := h.full i hi hnone
      omega
  · have := h.slots
    omega

end Barrage.Bodies
