import Barrage.Engine
import Barrage.Proofs.Creation
import Mathlib.Data.List.Nodup

/-!
The numbers of shots grow.

The live shots stand in the order of their numbers, those of the queue come behind all of them, and
no number is above the one issued last. So a queue that joins the live shots simply goes to their
end, and what is true of one number is true of one shot.
-/

namespace Barrage

variable {K : Type}

namespace Registry

structure InOrder (r : Registry K) : Prop where
  sorted : (r.shots.map (·.id.raw)).Pairwise (· < ·)
  issued : ∀ s ∈ r.shots, 1 ≤ s.id.raw ∧ s.id.raw ≤ r.queue.issued

variable {r : Registry K}

lemma inOrder_empty : (empty : Registry K).InOrder :=
  ⟨by simp [empty, shots], by simp [empty, shots]⟩

lemma InOrder.nodup (h : r.InOrder) : (r.shots.map (·.id)).Nodup := by
  refine List.Nodup.of_map ShotId.raw ?_
  rw [List.map_map]
  exact h.sorted.imp Nat.ne_of_lt

/-- Shots of one number are one shot. -/
lemma InOrder.eq_of_id (h : r.InOrder) {s t : Shot K} (hs : s ∈ r.shots) (ht : t ∈ r.shots)
    (hid : s.id = t.id) : s = t :=
  List.inj_on_of_nodup_map h.nodup hs ht hid

/-- Order is kept by whatever only takes shots away, and changes nothing about their numbers. -/
lemma InOrder.of_sublist {r' : Registry K} (h : r.InOrder)
    (hsub : (r'.shots.map (·.id.raw)).Sublist (r.shots.map (·.id.raw)))
    (hissued : r.queue.issued ≤ r'.queue.issued) : r'.InOrder where
  sorted := h.sorted.sublist hsub
  issued s hs := by
    obtain ⟨t, ht, hid⟩ := List.mem_map.mp (hsub.subset (List.mem_map_of_mem hs))
    have := h.issued t ht
    omega

lemma InOrder.removeWhere (h : r.InOrder) (p : Shot K → Bool) : (r.removeWhere p).InOrder := by
  refine h.of_sublist ?_ (Nat.le_refl _)
  rw [shots_removeWhere]
  exact List.filter_sublist.map _

/-! ### The start of a tick -/

lemma settle_of_lt {s : Shot K} {live : List (Shot K)} (h : ∀ t ∈ live, t.id.raw < s.id.raw) :
    settle s live = live ++ [s] := by
  induction live with
  | nil => rfl
  | cons t ts ih =>
    have ht := h t (by simp)
    have hne : s.id ≠ t.id := fun he => by
      rw [he] at ht
      omega
    rw [settle, if_neg (by omega), if_neg hne, ih fun u hu => h u (by simp [hu])]
    rfl

lemma foldl_settle {live pending : List (Shot K)}
    (h : ((live ++ pending).map (·.id.raw)).Pairwise (· < ·)) :
    pending.foldl (fun live s => settle s live) live = live ++ pending := by
  induction pending generalizing live with
  | nil => simp
  | cons s ss ih =>
    have hlt : ∀ t ∈ live, t.id.raw < s.id.raw := by
      rw [List.map_append, List.pairwise_append] at h
      exact fun t ht => h.2.2 _ (List.mem_map_of_mem ht) _ (by simp)
    rw [List.foldl_cons, settle_of_lt hlt, ih (by simpa using h)]
    simp

/-- **The queue joins behind the live shots.** -/
theorem live_advance (h : r.InOrder) :
    r.advance.live = r.live.map Shot.aged ++ r.queue.pending.toList := by
  rw [advance, ← Array.foldl_toList, foldl_settle]
  simpa [shots, Shot.aged, Function.comp_def] using h.sorted

lemma ids_live_advance (h : r.InOrder) :
    r.advance.live.map (·.id.raw) = r.shots.map (·.id.raw) := by
  simp [live_advance h, shots, Shot.aged, Function.comp_def]

/-! ### One shot removed -/

lemma eraseP_eq_filter {l : List (Shot K)} (h : (l.map (·.id)).Nodup) (id : ShotId) :
    l.eraseP (·.id == id) = l.filter fun s => !(s.id == id) := by
  induction l with
  | nil => rfl
  | cons s ss ih =>
    rw [List.map_cons, List.nodup_cons] at h
    by_cases hs : s.id = id
    · have hno : ∀ t ∈ ss, t.id ≠ id := fun t ht ht' =>
        h.1 (List.mem_map.mpr ⟨t, ht, ht'.trans hs.symm⟩)
      rw [List.eraseP_cons_of_pos (by simpa using hs), List.filter_cons_of_neg (by simpa using hs)]
      exact (List.filter_eq_self.mpr fun t ht => by simpa using hno t ht).symm
    · rw [List.eraseP_cons_of_neg (by simpa using hs), List.filter_cons_of_pos (by simpa using hs),
        ih h.2]

/-- Removing the shot of a number is removing the shots of that number. -/
lemma erase_eq (h : r.InOrder) (id : ShotId) : r.erase id = r.removeWhere (·.id == id) := by
  obtain ⟨live, ⟨⟨pending⟩, issued⟩⟩ := r
  have hnd := h.nodup
  rw [shots, List.map_append] at hnd
  have hlive := eraseP_eq_filter hnd.of_append_left id
  have hpending := eraseP_eq_filter hnd.of_append_right id
  by_cases hany : live.any (·.id == id)
  · obtain ⟨s, hs, hid⟩ := List.any_eq_true.mp hany
    have hout : ∀ t ∈ pending, ¬ (t.id == id) = true := fun t ht ht' =>
      List.disjoint_of_nodup_append hnd (List.mem_map_of_mem hs)
        (List.mem_map.mpr ⟨t, ht, by rw [beq_iff_eq.mp ht', beq_iff_eq.mp hid]⟩)
    rw [List.eraseP_of_forall_not hout] at hpending
    simp [erase, removeWhere, hany, hlive, ← hpending]
  · have hstay : ∀ t ∈ live, ¬ (t.id == id) = true := by simpa using hany
    rw [List.eraseP_of_forall_not hstay] at hlive
    simp [erase, removeWhere, hany, ← hlive, hpending]

end Registry

namespace Engine

lemma matching_id {e : Engine K} (h : e.registry.InOrder) {id : ShotId} {s : Shot K}
    (hs : e.registry.find? id = some s) : e.registry.matching (·.id == id) = [s] := by
  have hmem := List.mem_of_find?_eq_some hs
  have hid : s.id = id := by simpa using List.find?_some hs
  have hnd : (e.registry.matching (·.id == id)).Nodup := (h.nodup.of_map _).filter _
  refine List.perm_singleton.mp ((List.perm_ext_iff_of_nodup hnd (by simp)).mpr fun t => ?_)
  rw [List.mem_singleton, Registry.matching, List.mem_filter]
  refine ⟨fun ⟨ht, hti⟩ => h.eq_of_id ht hmem ?_, fun ht => ht ▸ ⟨hmem, by simpa using hid⟩⟩
  rw [hid]
  exact beq_iff_eq.mp hti

/-- Removing one shot is removing all shots of its number. -/
lemma remove_eq {e : Engine K} (h : e.registry.InOrder) (id : ShotId) :
    (e.remove id).2 = (e.removeWhere (·.id == id)).2 := by
  rcases hf : e.registry.find? id with _ | s
  · have hno : ∀ s ∈ e.registry.shots, ¬ (s.id == id) = true := List.find?_eq_none.mp hf
    have hnone : e.registry.matching (·.id == id) = [] := List.filter_eq_nil_iff.mpr hno
    have hsame : e.registry.removeWhere (·.id == id) = e.registry := by
      rw [← Registry.erase_eq h]
      simp only [Registry.shots, List.mem_append, Array.mem_toList_iff] at hno
      have hlive : ¬ e.registry.live.any (·.id == id) = true := by
        simpa using fun s hs => by simpa using hno s (Or.inl hs)
      have hpending : e.registry.queue.pending.eraseP (·.id == id) = e.registry.queue.pending :=
        Array.eraseP_of_forall_mem_not fun s hs => hno s (Or.inr hs)
      simp [Registry.erase, hlive, hpending]
    simp [remove, removeWhere, hf, hnone, hsame, release]
  · simp [remove, removeWhere, hf, matching_id h hf, Registry.erase_eq h]

end Engine

/-! ### Creating -/

variable [Scalar K]

lemma Engine.shots_addAll (e : Engine K) (side : Side) (bs : List (Birth K)) :
    (e.withStage (e.stage.addAll side bs)).registry.shots =
      e.registry.shots ++ e.stage.newborns side bs := by
  simp [withStage, Registry.shots, Stage.pending_addAll, stage]

lemma Engine.inOrder_addAll {e : Engine K} (h : e.registry.InOrder) (side : Side)
    (bs : List (Birth K)) : (e.withStage (e.stage.addAll side bs)).registry.InOrder := by
  have hshots := e.shots_addAll side bs
  have hids := Stage.ids_newborns e.stage side bs
  have hissued : (e.withStage (e.stage.addAll side bs)).registry.queue.issued =
      e.registry.queue.issued + bs.length := Stage.issued_addAll e.stage side bs
  have hnew : ∀ n ∈ (e.stage.newborns side bs).map (·.id.raw),
      e.registry.queue.issued < n ∧ n ≤ e.registry.queue.issued + bs.length := by
    intro n hn
    rw [hids, List.mem_range'_1] at hn
    simp only [stage] at hn
    omega
  refine ⟨?_, fun s hs => ?_⟩
  · rw [hshots, List.map_append, List.pairwise_append]
    refine ⟨h.sorted, by rw [hids]; exact List.pairwise_lt_range', fun n hn m hm => ?_⟩
    obtain ⟨s, hs, rfl⟩ := List.mem_map.mp hn
    have := (h.issued s hs).2
    have := (hnew m hm).1
    omega
  · rw [hshots, List.mem_append] at hs
    rw [hissued]
    rcases hs with hs | hs
    · have := h.issued s hs
      omega
    · have := hnew _ (List.mem_map_of_mem hs)
      omega

end Barrage
