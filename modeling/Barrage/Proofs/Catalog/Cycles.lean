import Barrage.Catalog.Load
import Mathlib.Data.List.Nodup
import Mathlib.Logic.Relation
import Mathlib.Tactic.Common

/-!
The search for cycles is exact.

The templates that were visited are *settled*: with a template everything below it is there too, and
none of them reaches itself. Whatever is on the path reaches the template that is visited next, so
to meet it again is a cycle; and a template whose sub-shots are all settled, and which is not below
any of them, is settled as well. No template is twice on a path, so the depth that is allowed for is
never used up.
-/

namespace Barrage.Catalog

open Relation (TransGen ReflTransGen)

variable {K : Type} {c : Catalog K}

/-- One template has another among its sub-shots. -/
def Edge (c : Catalog K) (i j : Nat) : Prop := j ∈ c.children i

/-- Sub-shots name templates that are there. -/
def InRange (c : Catalog K) : Prop := ∀ i j, c.Edge i j → j < c.size

lemma Edge.lt {i j : Nat} (h : c.Edge i j) : i < c.size := by
  rw [Edge, children] at h
  split at h
  · rename_i t ht
    exact (Array.getElem?_eq_some_iff.mp ht).1
  · simp at h

lemma inRange_iff : c.InRange ↔ ∀ t ∈ c.templates, ∀ s ∈ t.subShots, s.template < c.size := by
  constructor
  · intro h t ht s hs
    obtain ⟨i, hi⟩ := List.mem_iff_getElem?.mp (Array.mem_toList_iff.mpr ht)
    refine h i _ ?_
    rw [Edge, children, ← Array.getElem?_toList, hi]
    exact List.mem_map_of_mem hs
  · intro h i j hedge
    rw [Edge, children] at hedge
    split at hedge
    · rename_i t ht
      obtain ⟨s, hs, rfl⟩ := List.mem_map.mp hedge
      exact h t (Array.mem_of_getElem? ht) s hs
    · simp at hedge

structure Settled (c : Catalog K) (done : List Nat) : Prop where
  closed : ∀ i ∈ done, ∀ j, c.Edge i j → j ∈ done
  acyclic : ∀ i ∈ done, ¬ TransGen c.Edge i i

lemma settled_nil : c.Settled [] := ⟨by simp, by simp⟩

lemma Settled.below {done : List Nat} (h : c.Settled done) {i j : Nat} (hi : i ∈ done)
    (hij : ReflTransGen c.Edge i j) : j ∈ done := by
  induction hij with
  | refl => exact hi
  | tail _ hedge ih => exact h.closed _ ih _ hedge

/-- A template that is not below its sub-shots is settled after them. -/
lemma Settled.cons {done : List Nat} (h : c.Settled done) {i : Nat} (hi : i ∉ done)
    (hsub : c.children i ⊆ done) : c.Settled (i :: done) := by
  refine ⟨fun k hk j hedge => ?_, fun k hk hcycle => ?_⟩
  · rcases List.mem_cons.mp hk with rfl | hk
    · exact List.mem_cons_of_mem _ (hsub hedge)
    · exact List.mem_cons_of_mem _ (h.closed k hk j hedge)
  · rcases List.mem_cons.mp hk with rfl | hk
    · obtain ⟨j, hedge, hback⟩ := TransGen.head'_iff.mp hcycle
      exact hi (h.below (hsub hedge) hback)
    · exact h.acyclic k hk hcycle

/-- What a search finds that visits `is` below `path`: a template that reaches itself, or all of
`is` settled, and nothing of the path. -/
def Finds (c : Catalog K) (path done is : List Nat) : Except Nat (List Nat) → Prop
  | .error k => TransGen c.Edge k k
  | .ok done' => done ⊆ done' ∧ is ⊆ done' ∧ c.Settled done' ∧ ∀ p ∈ path, p ∉ done'

lemma finds_foldlM {path is : List Nat} {search : List Nat → Nat → Except Nat (List Nat)}
    (hsearch : ∀ i ∈ is, ∀ done, c.Settled done → (∀ p ∈ path, p ∉ done) →
      c.Finds path done [i] (search done i))
    {done : List Nat} (hdone : c.Settled done) (hapart : ∀ p ∈ path, p ∉ done) :
    c.Finds path done is (is.foldlM search done) := by
  induction is generalizing done with
  | nil => exact ⟨fun _ h => h, by simp, hdone, hapart⟩
  | cons i is ih =>
    have hi := hsearch i (by simp) done hdone hapart
    rw [List.foldlM_cons]
    rcases hr : search done i with k | done₁
    · rw [hr] at hi
      exact hi
    · rw [hr] at hi
      obtain ⟨hsub, hmem, hsettled, hout⟩ := hi
      have hrest := ih (fun j hj => hsearch j (by simp [hj])) hsettled hout
      change c.Finds path done (i :: is) (is.foldlM search done₁)
      rcases hr' : is.foldlM search done₁ with k | done₂
      · rw [hr'] at hrest
        exact hrest
      · rw [hr'] at hrest
        obtain ⟨hsub', hmem', hsettled', hout'⟩ := hrest
        refine ⟨fun _ h => hsub' (hsub h), fun j hj => ?_, hsettled', hout'⟩
        rcases List.mem_cons.mp hj with rfl | hj
        · exact hsub' (hmem (by simp))
        · exact hmem' hj

/-- A path without repetitions that leads to a template. -/
structure Leads (c : Catalog K) (path : List Nat) (i : Nat) : Prop where
  lt : i < c.size
  nodup : path.Nodup
  bound : ∀ p ∈ path, p < c.size
  reach : ∀ p ∈ path, TransGen c.Edge p i

lemma leads_nil {i : Nat} (hi : i < c.size) : c.Leads [] i := ⟨hi, by simp, by simp, by simp⟩

lemma Leads.cons {path : List Nat} {i j : Nat} (h : c.Leads path i) (hi : i ∉ path)
    (hedge : c.Edge i j) (hj : j < c.size) : c.Leads (i :: path) j where
  lt := hj
  nodup := List.nodup_cons.mpr ⟨hi, h.nodup⟩
  bound := by simpa using ⟨h.lt, h.bound⟩
  reach p hp := by
    rcases List.mem_cons.mp hp with rfl | hp
    · exact .single hedge
    · exact (h.reach p hp).tail hedge

/-- No path is longer than the number of templates. -/
lemma Leads.length_lt {path : List Nat} {i : Nat} (h : c.Leads path i) (hi : i ∉ path) :
    path.length < c.size := by
  have hsub : i :: path ⊆ List.range c.size := fun p hp => by
    rcases List.mem_cons.mp hp with rfl | hp
    · exact List.mem_range.mpr h.lt
    · exact List.mem_range.mpr (h.bound p hp)
  have hle := List.Nodup.length_le_of_subset (List.nodup_cons.mpr ⟨hi, h.nodup⟩) hsub
  rw [List.length_cons, List.length_range] at hle
  omega

/-- **A search finds what there is.** -/
theorem finds_visit (hrange : c.InRange) {fuel : Nat} {path done : List Nat} {i : Nat}
    (hlead : c.Leads path i) (hfuel : c.size ≤ path.length + fuel)
    (hdone : c.Settled done) (hapart : ∀ p ∈ path, p ∉ done) :
    c.Finds path done [i] (c.visit fuel path done i) := by
  induction fuel generalizing path done i with
  | zero =>
    rw [visit]
    split
    · rename_i hin
      exact ⟨fun _ h => h, by simpa using hin, hdone, hapart⟩
    · split
      · rename_i hin
        exact hlead.reach i (by simpa using hin)
      · rename_i hout
        have := hlead.length_lt (by simpa using hout)
        omega
  | succ fuel ih =>
    rw [visit]
    split
    · rename_i hin
      exact ⟨fun _ h => h, by simpa using hin, hdone, hapart⟩
    · rename_i hnew
      split
      · rename_i hin
        exact hlead.reach i (by simpa using hin)
      · rename_i hout
        have hnew : i ∉ done := by simpa using hnew
        have hout : i ∉ path := by simpa using hout
        have hbelow : c.Finds (i :: path) done (c.children i)
            ((c.children i).foldlM (fun done j => c.visit fuel (i :: path) done j) done) := by
          refine finds_foldlM (fun j hj done hdone hapart => ?_) hdone
            (by simpa using ⟨hnew, hapart⟩)
          exact ih (hlead.cons hout hj (hrange i j hj)) (by rw [List.length_cons]; omega) hdone
            hapart
        rcases hr : (c.children i).foldlM (fun done j => c.visit fuel (i :: path) done j) done
          with k | done'
        · rw [hr] at hbelow
          exact hbelow
        · rw [hr] at hbelow
          obtain ⟨hsub, hmem, hsettled, hout'⟩ := hbelow
          refine ⟨fun _ h => List.mem_cons_of_mem _ (hsub h), by simp,
            hsettled.cons (hout' i (by simp)) hmem, fun p hp hp' => ?_⟩
          rcases List.mem_cons.mp hp' with rfl | hp'
          · exact hout hp
          · exact hout' p (by simp [hp]) hp'

lemma finds_all (hrange : c.InRange) :
    c.Finds [] [] (List.range c.size)
      ((List.range c.size).foldlM (fun done i => c.visit c.size [] done i) []) :=
  finds_foldlM (fun _ hi _ hdone hapart => finds_visit hrange (leads_nil (List.mem_range.mp hi))
    (by simp) hdone hapart) settled_nil (by simp)

/-- The check passes, and then nothing reaches itself, or it names a template that does. -/
lemma checkCycles_cases (hrange : c.InRange) :
    (c.checkCycles = .ok () ∧ ∀ i, ¬ TransGen c.Edge i i) ∨
      ∃ i t, c.templates[i]? = some t ∧ TransGen c.Edge i i ∧
        c.checkCycles = .error (.cycle t.name) := by
  have hfinds := finds_all hrange
  rw [checkCycles]
  rcases hr : (List.range c.size).foldlM (fun done i => c.visit c.size [] done i) []
    with k | done
  · rw [hr] at hfinds
    obtain ⟨j, hedge, -⟩ := TransGen.head'_iff.mp hfinds
    obtain ⟨t, ht⟩ : ∃ t, c.templates[k]? = some t := ⟨_, Array.getElem?_eq_getElem hedge.lt⟩
    exact .inr ⟨k, t, ht, hfinds, by simp [ht]⟩
  · rw [hr] at hfinds
    obtain ⟨-, hmem, hsettled, -⟩ := hfinds
    refine .inl ⟨rfl, fun i hcycle => ?_⟩
    obtain ⟨j, hedge, -⟩ := TransGen.head'_iff.mp hcycle
    exact hsettled.acyclic i (hmem (List.mem_range.mpr hedge.lt)) hcycle

end Barrage.Catalog
