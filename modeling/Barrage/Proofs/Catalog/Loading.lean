import Barrage.Proofs.Catalog.Cycles
import Mathlib.Data.List.Forall2

/-!
What the passes of the loader do.

Loading is a row of passes, each over all that the one before it has left, and the first pass that
fails ends it. Of each pass it is told here what follows when it succeeds and what is wrong when it
fails, in terms of the shot groups and the library alone.
-/

namespace Barrage.Catalog

/-! ### Rows of attempts -/

section Attempts

variable {α β ε : Type} {f : α → Except ε β}

lemma mapM_ok {xs : List α} {ys : List β} (h : xs.mapM f = .ok ys) :
    List.Forall₂ (fun x y => f x = .ok y) xs ys := by
  induction xs generalizing ys with
  | nil =>
    cases h
    exact .nil
  | cons x xs ih =>
    rw [List.mapM_cons] at h
    rcases hx : f x with e | y
    · rw [hx] at h
      cases h
    · rcases hxs : xs.mapM f with e | ys'
      · rw [hx, hxs] at h
        cases h
      · rw [hx, hxs] at h
        cases h
        exact .cons hx (ih hxs)

/-- The first that fails ends the row. -/
lemma mapM_first {xs : List α} {e : ε} (h : xs.mapM f = .error e) :
    ∃ before x after, xs = before ++ x :: after ∧ f x = .error e ∧
      ∀ y ∈ before, ∃ b, f y = .ok b := by
  induction xs with
  | nil => cases h
  | cons x xs ih =>
    rw [List.mapM_cons] at h
    rcases hx : f x with e' | y
    · rw [hx] at h
      cases h
      exact ⟨[], x, xs, rfl, hx, by simp⟩
    · rcases hxs : xs.mapM f with e' | ys
      · rw [hx, hxs] at h
        cases h
        obtain ⟨before, x', after, rfl, hx', hb⟩ := ih hxs
        exact ⟨x :: before, x', after, rfl, hx', List.forall_mem_cons.mpr ⟨⟨y, hx⟩, hb⟩⟩
      · rw [hx, hxs] at h
        cases h

lemma mapM_error {xs : List α} {e : ε} (h : xs.mapM f = .error e) :
    ∃ x ∈ xs, f x = .error e := by
  obtain ⟨before, x, after, rfl, hx, -⟩ := mapM_first h
  exact ⟨x, by simp, hx⟩

lemma forM_ok {g : α → Except ε Unit} {xs : List α} (h : xs.forM g = .ok ()) :
    ∀ x ∈ xs, g x = .ok () := by
  induction xs with
  | nil => simp
  | cons x xs ih =>
    rw [List.forM_eq_forM, List.forM_cons] at h
    rcases hx : g x with e | ⟨⟩
    · rw [hx] at h
      cases h
    · rw [hx] at h
      exact List.forall_mem_cons.mpr ⟨hx, ih h⟩

lemma forM_error {g : α → Except ε Unit} {xs : List α} {e : ε} (h : xs.forM g = .error e) :
    ∃ x ∈ xs, g x = .error e := by
  induction xs with
  | nil => cases h
  | cons x xs ih =>
    rw [List.forM_eq_forM, List.forM_cons] at h
    rcases hx : g x with e' | ⟨⟩
    · rw [hx] at h
      cases h
      exact ⟨x, by simp, hx⟩
    · rw [hx] at h
      obtain ⟨x', hmem, hx'⟩ := ih h
      exact ⟨x', by simp [hmem], hx'⟩

end Attempts

/-! ### Rows side by side -/

section Pairs

variable {α β γ : Type} {R : α → β → Prop} {S : β → γ → Prop} {xs : List α} {ys : List β}
  {zs : List γ}

lemma forall₂_left (h : List.Forall₂ R xs ys) {i : Nat} {x : α} (hx : xs[i]? = some x) :
    ∃ y, ys[i]? = some y ∧ R x y := by
  induction h generalizing i with
  | nil => simp at hx
  | cons hr _ ih =>
    cases i with
    | zero =>
      cases hx
      exact ⟨_, rfl, hr⟩
    | succ i => exact ih hx

lemma forall₂_right (h : List.Forall₂ R xs ys) {i : Nat} {y : β} (hy : ys[i]? = some y) :
    ∃ x, xs[i]? = some x ∧ R x y :=
  forall₂_left h.flip hy

lemma forall₂_trans (h : List.Forall₂ R xs ys) (h' : List.Forall₂ S ys zs) :
    List.Forall₂ (fun x z => ∃ y, R x y ∧ S y z) xs zs := by
  induction h generalizing zs with
  | nil =>
    cases h'
    exact .nil
  | cons hr _ ih =>
    cases h' with
    | cons hs hrest => exact .cons ⟨_, hr, hs⟩ (ih hrest)

lemma map_eq_of_forall₂ {δ : Type} {f : α → δ} {g : β → δ} (h : List.Forall₂ R xs ys)
    (hfg : ∀ x y, R x y → f x = g y) : xs.map f = ys.map g := by
  rw [← List.forall₂_eq_eq_eq, List.forall₂_map_left_iff, List.forall₂_map_right_iff]
  exact h.imp hfg

end Pairs

variable {K : Type}

/-! ### Names -/

lemma resolveStep_ok {steps : StepLibrary K} {name : String} {s : ShotDefinition K}
    {step? : Option (Step K)} (h : resolveStep steps name s = .ok step?) :
    step? = s.gimmick.bind steps.resolve? ∧
      ∀ gimmick, s.gimmick = some gimmick → ∃ step, steps.resolve? gimmick = some step := by
  rw [resolveStep] at h
  rcases hg : s.gimmick with _ | gimmick
  · rw [hg] at h
    cases h
    exact ⟨rfl, by simp⟩
  · rcases hr : steps.resolve? gimmick with _ | step
    · simp [hg, hr] at h
    · simp only [hg, hr, Except.ok.injEq] at h
      subst h
      simp [hr]

lemma resolveStep_error {steps : StepLibrary K} {name : String} {s : ShotDefinition K}
    {e : CatalogError} (h : resolveStep steps name s = .error e) :
    ∃ gimmick, s.gimmick = some gimmick ∧ steps.resolve? gimmick = none ∧
      e = .unknownStep gimmick name := by
  rw [resolveStep] at h
  rcases hg : s.gimmick with _ | gimmick
  · simp [hg] at h
  · rcases hr : steps.resolve? gimmick with _ | step
    · simp only [hg, hr, Except.error.injEq] at h
      exact ⟨gimmick, rfl, hr, h.symm⟩
    · simp [hg, hr] at h

lemma resolveSubShot_ok {named : Named K} {name : String} {entry : SubShotEntry K}
    {sub : SubShot K} (h : resolveSubShot named name entry = .ok sub) :
    sub.offset = entry.offset ∧
      (named.map (·.1))[sub.template]? = some (Text.lower entry.name) := by
  rw [resolveSubShot] at h
  rcases hi : named.findIdx? (·.1 == Text.lower entry.name) with _ | i
  · simp [hi] at h
  · simp only [hi, Except.ok.injEq] at h
    subst h
    obtain ⟨hlt, hname, -⟩ := List.findIdx?_eq_some_iff_getElem.mp hi
    exact ⟨rfl, by simpa [hlt] using hname⟩

lemma resolveSubShot_error {named : Named K} {name : String} {entry : SubShotEntry K}
    {e : CatalogError} (h : resolveSubShot named name entry = .error e) :
    Text.lower entry.name ∉ named.map (·.1) ∧ e = .missingTemplate entry.name name := by
  rw [resolveSubShot] at h
  rcases hi : named.findIdx? (·.1 == Text.lower entry.name) with _ | i
  · simp only [hi, Except.error.injEq] at h
    rw [List.findIdx?_eq_none_iff] at hi
    refine ⟨fun hmem => ?_, h.symm⟩
    obtain ⟨m, hm, hname⟩ := List.mem_map.mp hmem
    simpa [hname] using hi m hm
  · simp [hi] at h

lemma resolve_ok {steps : StepLibrary K} {named : Named K} {name : String} {s : ShotDefinition K}
    {t : Template K} (h : resolve steps named name s = .ok t) :
    ∃ step? subShots, resolveStep steps name s = .ok step? ∧
      s.subShots.mapM (resolveSubShot named name) = .ok subShots ∧
      t = ⟨name, s.visual, s.gimmick, step?, s.offset, subShots⟩ := by
  rw [resolve] at h
  rcases hs : resolveStep steps name s with e | step?
  · rw [hs] at h
    cases h
  · rcases hsub : s.subShots.mapM (resolveSubShot named name) with e | subShots
    · rw [hs, hsub] at h
      cases h
    · rw [hs, hsub] at h
      cases h
      exact ⟨step?, subShots, rfl, rfl, rfl⟩

lemma resolve_error {steps : StepLibrary K} {named : Named K} {name : String}
    {s : ShotDefinition K} {e : CatalogError} (h : resolve steps named name s = .error e) :
    resolveStep steps name s = .error e ∨
      ∃ entry ∈ s.subShots, resolveSubShot named name entry = .error e := by
  rw [resolve] at h
  rcases hs : resolveStep steps name s with e' | step?
  · rw [hs] at h
    cases h
    exact .inl rfl
  · rcases hsub : s.subShots.mapM (resolveSubShot named name) with e' | subShots
    · rw [hs, hsub] at h
      cases h
      exact .inr (mapM_error hsub)
    · rw [hs, hsub] at h
      cases h

lemma checkReferences_ok {c : Catalog K} {t : Template K} (h : c.checkReferences t = .ok ()) :
    ∀ step, t.step = some step → ∀ name ∈ step.references, (c.id? name).isSome = true := by
  intro step hstep name hname
  rw [checkReferences, hstep] at h
  split at h
  · cases h
  · rename_i hnone
    have := List.find?_eq_none.mp hnone name hname
    simpa [Option.isSome_iff_ne_none] using this

lemma checkReferences_error {c : Catalog K} {t : Template K} {e : CatalogError}
    (h : c.checkReferences t = .error e) : ∃ step, t.step = some step ∧
      ∃ name ∈ step.references, (c.id? name).isSome = false ∧ e = .missingTemplate name t.name := by
  rw [checkReferences] at h
  rcases hs : t.step with _ | step
  · simp [hs] at h
  · split at h
    · rename_i name hname
      have hmem := List.mem_of_find?_eq_some hname
      have hnone := List.find?_some hname
      rw [hs] at hmem
      cases h
      exact ⟨step, rfl, name, hmem, by simpa using hnone, rfl⟩
    · cases h

lemma isInert_iff {s : ShotDefinition K} :
    s.isInert = true ↔ s.animation = none ∧ s.gimmick = none := by
  simp [ShotDefinition.isInert]

/-! ### The passes in a row -/

variable [Scalar K] {ds : List Definition} {steps : StepLibrary K}

lemma ofDefinitions_ok {c : Catalog K} (h : ofDefinitions ds steps = .ok c) :
    ∃ named, (ds.flatMap (·.groups)).foldlM collect [] = .ok named ∧
      named.mapM (fun n => resolve steps named n.1 n.2) = .ok c.templates.toList ∧
      c.checkCycles = .ok () ∧ ∀ t ∈ c.templates, c.checkReferences t = .ok () := by
  rw [ofDefinitions] at h
  rcases hn : (ds.flatMap (·.groups)).foldlM collect ([] : Named K) with e | named
  · rw [hn] at h
    cases h
  rcases ht : named.mapM (fun n => resolve steps named n.1 n.2) with e | templates
  · simp [hn, ht, bind, Except.bind] at h
  rcases hc : (⟨templates.toArray⟩ : Catalog K).checkCycles with e | ⟨⟩
  · simp [hn, ht, hc, bind, Except.bind] at h
  rcases hr : templates.forM (⟨templates.toArray⟩ : Catalog K).checkReferences with e | ⟨⟩
  · simp [hn, ht, hc, hr, bind, Except.bind] at h
  simp only [hn, ht, hc, hr, bind, Except.bind, Except.ok.injEq] at h
  subst h
  exact ⟨named, hn, ht, hc, by simpa using forM_ok hr⟩

lemma ofDefinitions_error {e : CatalogError} (h : ofDefinitions ds steps = .error e) :
    (ds.flatMap (·.groups)).foldlM (collect (K := K)) [] = .error e ∨
    ∃ named, (ds.flatMap (·.groups)).foldlM (collect (K := K)) [] = .ok named ∧
      ((∃ n ∈ named, resolve steps named n.1 n.2 = .error e) ∨
      ∃ c : Catalog K, named.mapM (fun n => resolve steps named n.1 n.2) = .ok c.templates.toList ∧
        (c.checkCycles = .error e ∨ ∃ t ∈ c.templates, c.checkReferences t = .error e)) := by
  rw [ofDefinitions] at h
  rcases hn : (ds.flatMap (·.groups)).foldlM collect ([] : Named K) with e' | named
  · rw [hn] at h
    cases h
    exact .inl hn
  refine .inr ⟨named, hn, ?_⟩
  rcases ht : named.mapM (fun n => resolve steps named n.1 n.2) with e' | templates
  · simp only [hn, ht, bind, Except.bind, Except.error.injEq] at h
    subst h
    exact .inl (mapM_error ht)
  refine .inr ⟨⟨templates.toArray⟩, by rw [ht], ?_⟩
  rcases hc : (⟨templates.toArray⟩ : Catalog K).checkCycles with e' | ⟨⟩
  · simp only [hn, ht, hc, bind, Except.bind, Except.error.injEq] at h
    exact .inl (by rw [h])
  rcases hr : templates.forM (⟨templates.toArray⟩ : Catalog K).checkReferences with e' | ⟨⟩
  · simp only [hn, ht, hc, hr, bind, Except.bind, Except.error.injEq] at h
    subst h
    exact .inr (by simpa using forM_error hr)
  · simp [hn, ht, hc, hr, bind, Except.bind] at h

end Barrage.Catalog
