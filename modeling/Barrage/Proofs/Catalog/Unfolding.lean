import Barrage.Proofs.Catalog.Acceptance

/-!
The tree of a template.

Below a template stand the templates of its sub-shots, one for every entry, and below each of them
those of its own: one that several parents share stands below each of them. The tree is said here by
itself, with no bound on its depth, so there is a tree only where this comes to an end. In a catalog
that was loaded it does: sub-shots name templates that are there, and no template reaches itself, so
no path is longer than the number of templates.
-/

namespace Barrage.Catalog

open Relation (TransGen)

variable {K : Type} [Scalar K] {c : Catalog K}

/-- The nodes below a place for a row of sub-shots, parents first. Each lands at its parent's place
moved by the entry's offset and then by that of its own template. -/
inductive Below (c : Catalog K) : Vec K → List (SubShot K) → List (Template K × Vec K) → Prop where
  | nil (place : Vec K) : Below c place [] []
  | cons {place : Vec K} {s : SubShot K} {ss : List (SubShot K)} {u : Template K}
      {nodes rest : List (Template K × Vec K)} (hu : c.templates[s.template]? = some u)
      (hnodes : Below c (place + s.offset + u.offset) u.subShots nodes)
      (hrest : Below c place ss rest) :
      Below c place (s :: ss) ((u, place + s.offset + u.offset) :: nodes ++ rest)

/-- The nodes of the tree of a template: its own at its offset from `base`, and all below. -/
inductive Unfolds (c : Catalog K) (t : Template K) (base : Vec K) :
    List (Template K × Vec K) → Prop where
  | root {nodes : List (Template K × Vec K)} (h : Below c (base + t.offset) t.subShots nodes) :
      Unfolds c t base ((t, base + t.offset) :: nodes)

lemma Below.unique {place : Vec K} {ss : List (SubShot K)}
    {nodes nodes' : List (Template K × Vec K)} (h : c.Below place ss nodes)
    (h' : c.Below place ss nodes') : nodes = nodes' := by
  induction h generalizing nodes' with
  | nil => cases h' with | nil => rfl
  | cons hu _ _ ihnodes ihrest =>
    cases h' with
    | cons hu' hnodes hrest =>
      obtain rfl := Option.some.inj (hu.symm.trans hu')
      rw [ihnodes hnodes, ihrest hrest]

lemma Unfolds.unique {t : Template K} {base : Vec K} {nodes nodes' : List (Template K × Vec K)}
    (h : c.Unfolds t base nodes) (h' : c.Unfolds t base nodes') : nodes = nodes' := by
  obtain ⟨h⟩ := h
  obtain ⟨h'⟩ := h'
  rw [h.unique h']

/-- The trees of a row of sub-shots, one after the other, are what stands below. -/
lemma below_flatMap {place : Vec K} {ss : List (SubShot K)}
    {trees : SubShot K → List (Template K × Vec K)}
    (h : ∀ s ∈ ss, ∃ u, c.templates[s.template]? = some u ∧
      c.Unfolds u (place + s.offset) (trees s)) : c.Below place ss (ss.flatMap trees) := by
  induction ss with
  | nil => exact .nil place
  | cons s ss ih =>
    obtain ⟨u, hu, htree⟩ := h s (by simp)
    have hrest := ih fun s' hs' => h s' (by simp [hs'])
    rw [List.flatMap_cons]
    generalize trees s = tree at htree
    obtain ⟨hnodes⟩ := htree
    exact .cons hu hnodes hrest

/-- **What is unfolded at the end of a path is the whole tree**, if the depth is enough for the path
to go on through all templates that are left. -/
lemma unfolds_unfold (hrange : c.InRange) (hacyclic : ∀ i, ¬ TransGen c.Edge i i) {fuel i : Nat}
    {path : List Nat} (hlead : c.Leads path i) (hfuel : c.size ≤ path.length + fuel)
    {t : Template K} (ht : c.templates[i]? = some t) (base : Vec K) :
    c.Unfolds t base (c.unfold fuel t base) := by
  have hout : i ∉ path := fun hi => hacyclic i (hlead.reach i hi)
  induction fuel generalizing i path t base with
  | zero =>
    have := hlead.length_lt hout
    omega
  | succ fuel ih =>
    rw [unfold]
    refine .root (below_flatMap fun s hs => ?_)
    have hedge : c.Edge i s.template := by
      rw [Edge, children, ht]
      exact List.mem_map_of_mem hs
    have hlt := hrange i _ hedge
    have hu : c.templates[s.template]? = some c.templates[s.template] :=
      Array.getElem?_eq_getElem hlt
    have hnext := hlead.cons hout hedge hlt
    rw [hu]
    exact ⟨_, rfl, ih hnext (by rw [List.length_cons]; omega) hu _
      fun hi => hacyclic _ (hnext.reach _ hi)⟩

section Loaded

variable {ds : List Definition} {steps : StepLibrary K}

lemma inRange_of_load (h : ofDefinitions ds steps = .ok c) : c.InRange := by
  obtain ⟨named, hresolved⟩ := resolved_of_load h
  exact hresolved.faithful.inRange

/-- No template of a catalog that was loaded reaches itself. -/
lemma acyclic_of_load (h : ofDefinitions ds steps = .ok c) (i : Nat) : ¬ TransGen c.Edge i i := by
  obtain ⟨-, -, -, hcycles, -⟩ := ofDefinitions_ok h
  rcases checkCycles_cases (inRange_of_load h) with ⟨-, hacyclic⟩ | ⟨i, t, -, -, herror⟩
  · exact hacyclic i
  · rw [hcycles] at herror
    cases herror

/-- **Every template of a catalog that was loaded has a tree**, and it is what is unfolded. -/
theorem unfolds_iff (h : ofDefinitions ds steps = .ok c) {t : Template K} (ht : t ∈ c.templates)
    (base : Vec K) (nodes : List (Template K × Vec K)) :
    c.Unfolds t base nodes ↔ nodes = c.tree t base := by
  obtain ⟨i, hi⟩ := List.mem_iff_getElem?.mp (Array.mem_toList_iff.mpr ht)
  rw [Array.getElem?_toList] at hi
  have hlt := (Array.getElem?_eq_some_iff.mp hi).1
  have htree : c.Unfolds t base (c.tree t base) :=
    unfolds_unfold (inRange_of_load h) (acyclic_of_load h) (leads_nil hlt) (by simp) hi base
  constructor
  · exact fun hnodes => hnodes.unique htree
  · rintro rfl
    exact htree

end Loaded

end Barrage.Catalog
