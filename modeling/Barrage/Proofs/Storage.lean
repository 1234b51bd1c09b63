import Barrage.Arena
import Mathlib.Data.List.Nodup
import Mathlib.Tactic.Common

/-!
An arena as a map from handles to values.

A sound arena has its vacant slots on the free list, each once, and counts its values. Then a new
value lies in a slot where nothing lay, and its handle is one that found nothing before. Slots are
numbered with 32 bits, so this holds only as long as that is enough to tell them apart; nothing else
about an arena depends on it.
-/

namespace Barrage.Arena

variable {α : Type} {a : Arena α}

structure Sound (a : Arena α) : Prop where
  nodup : a.free.Nodup
  vacant : ∀ i ∈ a.free, ∃ n, a.slots[i.toNat]? = some ⟨n, none⟩
  size : a.size = a.slots.countP (·.value.isSome)

/-- Handles can tell the slots apart. -/
def Fits (a : Arena α) : Prop := a.slots.size ≤ UInt32.size

lemma sound_empty : (empty : Arena α).Sound := ⟨by simp [empty], by simp [empty], by simp [empty]⟩

/-! ### Slots are never given back -/

lemma size_slots_le_insert (a : Arena α) (v : α) : a.slots.size ≤ (a.insert v).2.slots.size := by
  unfold insert
  split <;> simp

lemma size_slots_insert_le (a : Arena α) (v : α) :
    (a.insert v).2.slots.size ≤ a.slots.size + 1 := by
  unfold insert
  split <;> simp

@[simp] lemma size_slots_erase (a : Arena α) (h : Handle) :
    (a.erase h).slots.size = a.slots.size := by
  unfold erase
  split <;> simp

@[simp] lemma size_slots_modify (a : Arena α) (h : Handle) (f : α → α) :
    (a.modify h f).slots.size = a.slots.size := by
  unfold modify
  split <;> simp

@[simp] lemma size_slots_map (a : Arena α) (f : α → α) :
    (a.map f).slots.size = a.slots.size := by
  simp [map]

lemma Fits.of_insert {v : α} (h : (a.insert v).2.Fits) : a.Fits :=
  Nat.le_trans (size_slots_le_insert a v) h

/-! ### What a handle finds -/

lemma get?_map (a : Arena α) (f : α → α) (h : Handle) : (a.map f).get? h = (a.get? h).map f := by
  simp only [get?, map, Array.getElem?_map]
  rcases a.slots[h.index.toNat]? with _ | s
  · rfl
  · by_cases hg : s.generation = h.generation <;> simp [hg]

/-- There is a slot for one more value that a handle can name. -/
def Room (a : Arena α) : Prop := a.free ≠ [] ∨ a.slots.size < UInt32.size

lemma Fits.room {v : α} (fits : (a.insert v).2.Fits) : a.Room := by
  rcases hf : a.free with _ | ⟨i, rest⟩
  · right
    simp only [Fits, insert, hf, Array.size_push] at fits
    omega
  · left
    simp [hf]

/-- The slot of a handle that was just issued: it was vacant, or there was none. -/
lemma insert_slot (hs : a.Sound) (v : α) (room : a.Room) :
    (a.insert v).2.slots[(a.insert v).1.index.toNat]? =
        some ⟨(a.insert v).1.generation, some v⟩ ∧
      (∀ s, a.slots[(a.insert v).1.index.toNat]? = some s → s.value = none) ∧
      ∀ i ≠ (a.insert v).1.index.toNat, (a.insert v).2.slots[i]? = a.slots[i]? := by
  rcases hf : a.free with _ | ⟨i, rest⟩
  · have hlt : a.slots.size < UInt32.size := room.resolve_left (by simp [hf])
    have hi : (UInt32.ofNat a.slots.size).toNat = a.slots.size :=
      UInt32.toNat_ofNat_of_lt' hlt
    simp only [insert, hf, hi]
    refine ⟨by simp, by simp, fun i hi => ?_⟩
    rw [Array.getElem?_push, if_neg hi]
  · obtain ⟨n, hn⟩ := hs.vacant i (by simp [hf])
    have hlt : i.toNat < a.slots.size := (Array.getElem?_eq_some_iff.mp hn).1
    simp only [insert, hf]
    refine ⟨by simp [hlt], fun s h => ?_, fun j hj => ?_⟩
    · rw [hn] at h
      cases h
      rfl
    · rw [Array.getElem?_setIfInBounds_ne (Ne.symm hj)]

/-- The handle of a new value found nothing before. -/
lemma get?_issued (hs : a.Sound) (v : α) (room : a.Room) : a.get? (a.insert v).1 = none := by
  obtain ⟨-, hv, -⟩ := insert_slot hs v room
  rw [Option.eq_none_iff_forall_not_mem]
  intro w hw
  have := hv _ (get?_eq_some.mp hw)
  simp at this

lemma get?_insert (hs : a.Sound) (v : α) (room : a.Room) (g : Handle) :
    (a.insert v).2.get? g = if g = (a.insert v).1 then some v else a.get? g := by
  obtain ⟨hnew, hv, hother⟩ := insert_slot hs v room
  split
  · subst g
    exact get?_eq_some.mpr hnew
  · rename_i hg
    ext w
    rw [get?_eq_some, get?_eq_some]
    by_cases hi : g.index.toNat = (a.insert v).1.index.toNat
    · rw [hi, hnew]
      constructor
      · intro h
        have hgen : g.generation = (a.insert v).1.generation := by
          simpa using (congrArg Slot.generation (Option.some.inj h)).symm
        exact absurd (Handle.eq_of_index hi hgen) hg
      · intro h
        have := hv _ h
        simp at this
    · rw [hother _ hi]

/-- A slot that no handle can name changes nothing for any handle. -/
lemma get?_insert_of_full (full : ¬ a.Room) (v : α) (g : Handle) :
    (a.insert v).2.get? g = a.get? g := by
  obtain ⟨hfree, hsize⟩ := not_or.mp full
  have hlt : g.index.toNat < a.slots.size :=
    Nat.lt_of_lt_of_le g.index.toNat_lt (Nat.le_of_not_lt hsize)
  have hf : a.free = [] := not_not.mp hfree
  simp only [insert, hf, get?, Array.getElem?_push_lt hlt, Array.getElem?_eq_getElem hlt]

/-- What a new value changes, if anything, is what its own handle finds, which found nothing. -/
lemma get?_insert_cases (hs : a.Sound) (v : α) (g : Handle) :
    (a.insert v).2.get? g = a.get? g ∨ g = (a.insert v).1 ∧ a.get? g = none := by
  by_cases room : a.Room
  · rw [get?_insert hs v room]
    split
    · rename_i hg
      exact .inr ⟨hg, hg ▸ get?_issued hs v room⟩
    · exact .inl rfl
  · exact .inl (get?_insert_of_full room v g)

/-! ### What every operation keeps -/

/-- Whatever is found after an insertion was found before it or is what was inserted. -/
lemma eq_or_of_get?_insert (hs : a.Sound) {v w : α} {g : Handle}
    (h : (a.insert v).2.get? g = some w) : w = v ∨ a.get? g = some w := by
  by_cases room : a.Room
  · rw [get?_insert hs v room] at h
    split at h
    · exact .inl (Option.some.inj h).symm
    · exact .inr h
  · rw [get?_insert_of_full room] at h
    exact .inr h

lemma sound_insert (hs : a.Sound) (v : α) : (a.insert v).2.Sound := by
  rcases hf : a.free with _ | ⟨i, rest⟩
  · simp only [insert, hf]
    exact ⟨by simp, by simp, by simp [hs.size]⟩
  · obtain ⟨n, hn⟩ := hs.vacant i (by simp [hf])
    obtain ⟨hlt, hval⟩ := Array.getElem?_eq_some_iff.mp hn
    have hnd := hs.nodup
    rw [hf, List.nodup_cons] at hnd
    simp only [insert, hf]
    refine ⟨hnd.2, fun j hj => ?_, ?_⟩
    · have hij : i ≠ j := fun h => hnd.1 (h ▸ hj)
      obtain ⟨m, hm⟩ := hs.vacant j (by simp [hf, hj])
      exact ⟨m, by rwa [Array.getElem?_setIfInBounds_ne (fun h => hij (UInt32.toNat_inj.mp h))]⟩
    · rw [Array.setIfInBounds, dif_pos hlt, Array.countP_set, hval, hs.size]
      simp

lemma sound_erase (hs : a.Sound) (h : Handle) : (a.erase h).Sound := by
  by_cases hc : a.contains h
  · obtain ⟨v, hv⟩ := Option.isSome_iff_exists.mp hc
    have hslot := get?_eq_some.mp hv
    obtain ⟨hlt, hval⟩ := Array.getElem?_eq_some_iff.mp hslot
    have hout : h.index ∉ a.free := fun hi => by
      obtain ⟨n, hn⟩ := hs.vacant _ hi
      rw [hslot] at hn
      simp at hn
    simp only [erase, hc, if_true]
    refine ⟨List.nodup_cons.mpr ⟨hout, hs.nodup⟩, fun j hj => ?_, ?_⟩
    · by_cases hij : h.index = j
      · exact ⟨h.generation + 1, by rw [← hij]; simp [hlt]⟩
      · obtain ⟨n, hn⟩ := hs.vacant j ((List.mem_cons.mp hj).resolve_left (Ne.symm hij))
        exact ⟨n, by rwa [Array.getElem?_setIfInBounds_ne (fun h => hij (UInt32.toNat_inj.mp h))]⟩
    · rw [Array.setIfInBounds, dif_pos hlt, Array.countP_set, hval, hs.size]
      simp
  · simpa [erase, hc] using hs

/-- Values may be exchanged where they lie. -/
lemma sound_modify (hs : a.Sound) (h : Handle) (f : α → α) : (a.modify h f).Sound := by
  rcases hv : a.get? h with _ | v
  · simpa [modify, hv] using hs
  · have hslot := get?_eq_some.mp hv
    obtain ⟨hlt, hval⟩ := Array.getElem?_eq_some_iff.mp hslot
    simp only [modify, hv]
    refine ⟨hs.nodup, fun j hj => ?_, ?_⟩
    · obtain ⟨n, hn⟩ := hs.vacant j hj
      have hij : h.index.toNat ≠ j.toNat := fun hij => by
        rw [← hij, hslot] at hn
        simp at hn
      exact ⟨n, by rwa [Array.getElem?_setIfInBounds_ne hij]⟩
    · have hpos : 0 < a.slots.countP (·.value.isSome) :=
        Array.countP_pos_iff.mpr ⟨_, Array.mem_of_getElem? hslot, rfl⟩
      rw [Array.setIfInBounds, dif_pos hlt, Array.countP_set, hval, hs.size]
      simp only [Option.isSome_some, if_true]
      omega

lemma sound_map (hs : a.Sound) (f : α → α) : (a.map f).Sound where
  nodup := hs.nodup
  vacant i hi := by
    obtain ⟨n, hn⟩ := hs.vacant i hi
    exact ⟨n, by simp [map, hn]⟩
  size := by
    simp only [map, hs.size, Array.countP_map]
    exact Array.countP_congr (by simp)

/-! ### The entries -/

lemma mem_entries (fits : a.Fits) {h : Handle} {v : α} :
    (h, v) ∈ a.entries ↔ a.get? h = some v := by
  rw [get?_eq_some]
  simp only [entries, List.mem_filterMap, List.mem_zipIdx_iff_getElem?, Prod.exists,
    Option.map_eq_some_iff, Prod.mk.injEq, Array.getElem?_toList]
  constructor
  · rintro ⟨s, i, hs, w, hw, rfl, rfl⟩
    have hlt := (Array.getElem?_eq_some_iff.mp hs).1
    have hi : (UInt32.ofNat i).toNat = i := UInt32.toNat_ofNat_of_lt' (Nat.lt_of_lt_of_le hlt fits)
    rw [hi, hs, ← hw]
  · intro hs
    exact ⟨_, _, hs, v, rfl, by simp, rfl⟩

/-- The entries stand in the order of their slots. -/
lemma sorted_entries (fits : a.Fits) :
    (a.entries.map (·.1.index.toNat)).Pairwise (· < ·) := by
  have hidx : (a.slots.toList.zipIdx).Pairwise (fun x y => x.2 < y.2) := by
    have := List.pairwise_lt_range' (s := 0) (n := a.slots.toList.length)
    rw [← List.zipIdx_map_snd 0 a.slots.toList] at this
    exact List.pairwise_map.mp this
  simp only [entries, List.pairwise_map, List.pairwise_filterMap]
  refine hidx.imp_of_mem fun {x y} hx hy hlt e he e' he' => ?_
  have hy' := (Array.getElem?_eq_some_iff.mp (by
    simpa using List.mem_zipIdx_iff_getElem?.mp hy)).1
  obtain ⟨v, -, rfl⟩ := Option.map_eq_some_iff.mp he
  obtain ⟨w, -, rfl⟩ := Option.map_eq_some_iff.mp he'
  have hb : y.2 < UInt32.size := Nat.lt_of_lt_of_le hy' fits
  rw [UInt32.toNat_ofNat_of_lt' (Nat.lt_trans hlt hb), UInt32.toNat_ofNat_of_lt' hb]
  exact hlt

lemma nodup_entries (fits : a.Fits) : (a.entries.map (·.1)).Nodup := by
  refine List.Nodup.of_map (·.index.toNat) ?_
  rw [List.map_map]
  exact (sorted_entries fits).imp Nat.ne_of_lt

lemma length_entries (hs : a.Sound) : a.entries.length = a.size := by
  rw [hs.size, entries, List.length_filterMap_eq_countP, ← Array.countP_toList]
  have : (fun x : Slot α × ℕ => (x.1.value.map
      (⟨UInt32.ofNat x.2, x.1.generation⟩, ·) : Option (Handle × α)).isSome) =
      (·.value.isSome) ∘ Prod.fst := by
    funext x
    simp
  rw [this, ← List.countP_map, List.zipIdx_map_fst]

end Barrage.Arena
