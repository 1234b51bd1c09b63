import Barrage.Catalog.Basic
import Mathlib.Data.List.Nodup
import Mathlib.Tactic.Common

/-!
What a name finds in a catalog: a template that has it, as it stands or in lowercase, and the first
one of those.
-/

namespace Barrage.Catalog

variable {K : Type} {c : Catalog K}

/-- The names of the templates, in order. -/
def names (c : Catalog K) : List String := c.templates.toList.map (·.name)

lemma names_getElem? {i : Nat} {name : String} :
    c.names[i]? = some name ↔ ∃ t, c.templates[i]? = some t ∧ t.name = name := by
  simp [names]

lemma isSome_index? {name : String} : (c.index? name).isSome = true ↔ name ∈ c.names := by
  rw [index?, Array.findIdx?_isSome, Array.any_eq_true']
  simp [names]

/-- A name is found if a template has it, as it stands or in lowercase. -/
lemma isSome_id? {name : String} :
    (c.id? name).isSome = true ↔ name ∈ c.names ∨ Text.lower name ∈ c.names := by
  rw [id?]
  rcases hi : c.index? name with _ | i
  · have hout : name ∉ c.names := by
      rw [← isSome_index?, hi]
      simp
    rw [or_iff_right hout, isSome_index?]
  · have hin : name ∈ c.names := by
      rw [← isSome_index?, hi]
      rfl
    simp [hin]

/-- What a name finds is there. -/
lemma isSome_find? {name : String} : (c.find? name).isSome = (c.id? name).isSome := by
  have hlt : ∀ name i, c.index? name = some i → i < c.templates.size := fun name i hi =>
    (Array.findIdx?_eq_some_iff_getElem.mp hi).1
  rw [find?]
  rcases hi : c.id? name with _ | i
  · rfl
  · have hsize : i < c.templates.size := by
      rw [id?] at hi
      split at hi
      · rename_i j hj
        cases hi
        exact hlt name i hj
      · exact hlt _ i hi
    simp [hsize]

/-- Where names are distinct, a template is found by its own. -/
lemma id?_of_getElem? (h : c.names.Nodup) {i : Nat} {t : Template K}
    (ht : c.templates[i]? = some t) : c.id? t.name = some i := by
  have hindex : c.index? t.name = some i := by
    obtain ⟨hi, rfl⟩ := Array.getElem?_eq_some_iff.mp ht
    refine Array.findIdx?_eq_some_iff_getElem.mpr ⟨hi, by simp, fun j hj hname => ?_⟩
    have hlt : j < c.templates.size := Nat.lt_trans hj hi
    have heq : c.names[j]? = c.names[i]? := by
      simpa [names, hlt, hi] using hname
    have := (List.getElem?_inj (by simpa [names] using hlt) h).mp heq
    omega
  rw [id?, hindex]

lemma index?_eq_some {name : String} {i : Nat} (h : c.index? name = some i) :
    ∃ t, c.templates[i]? = some t ∧ t.name = name := by
  obtain ⟨hi, hname, -⟩ := Array.findIdx?_eq_some_iff_getElem.mp h
  exact ⟨_, Array.getElem?_eq_getElem hi, beq_iff_eq.mp hname⟩

lemma index?_eq_none {name : String} : c.index? name = none ↔ name ∉ c.names := by
  rw [← isSome_index?, Bool.not_eq_true, Option.isSome_eq_false_iff, Option.isNone_iff_eq_none]

/-- **A name finds the template that has it**, and the one that has it in lowercase if there is
none. -/
theorem find?_eq_some (h : c.names.Nodup) {name : String} {t : Template K} :
    c.find? name = some t ↔
      t ∈ c.templates ∧ (t.name = name ∨ name ∉ c.names ∧ t.name = Text.lower name) := by
  rw [find?, Option.bind_eq_some_iff]
  constructor
  · rintro ⟨i, hi, ht⟩
    refine ⟨Array.mem_of_getElem? ht, ?_⟩
    rw [id?] at hi
    split at hi
    · rename_i j hj
      obtain ⟨u, hu, hname⟩ := index?_eq_some hj
      cases hi
      rw [ht] at hu
      cases hu
      exact .inl hname
    · rename_i hnone
      obtain ⟨u, hu, hname⟩ := index?_eq_some hi
      rw [ht] at hu
      cases hu
      exact .inr ⟨index?_eq_none.mp hnone, hname⟩
  · rintro ⟨hmem, hname⟩
    obtain ⟨i, hi⟩ := List.mem_iff_getElem?.mp (Array.mem_toList_iff.mpr hmem)
    have ht : c.templates[i]? = some t := by simpa using hi
    have hid := id?_of_getElem? h ht
    refine ⟨i, ?_, ht⟩
    rcases hname with rfl | ⟨hout, hlower⟩
    · exact hid
    · have hin : Text.lower name ∈ c.names := by
        rw [← hlower]
        exact List.mem_map_of_mem (List.mem_of_getElem? hi)
      obtain ⟨j, hj⟩ := Option.isSome_iff_exists.mp (isSome_index?.mpr hin)
      obtain ⟨u, hu, huname⟩ := index?_eq_some hj
      have hju := id?_of_getElem? h hu
      rw [huname, ← hlower, hid] at hju
      rw [id?, index?_eq_none.mpr hout]
      exact hj.trans hju.symm

lemma index_unique (h : c.names.Nodup) {i j : Nat} {t u : Template K}
    (ht : c.templates[i]? = some t) (hu : c.templates[j]? = some u) (hname : t.name = u.name) :
    i = j := by
  have hi := id?_of_getElem? h ht
  rw [hname, id?_of_getElem? h hu] at hi
  exact (Option.some.inj hi).symm

end Barrage.Catalog
