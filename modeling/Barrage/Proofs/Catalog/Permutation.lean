import Barrage.Proofs.Catalog.Acceptance
import Barrage.Scalar.Single
import Mathlib.Data.Option.Basic

/-!
The order of shot groups, and how they are spread over files, do not matter.

What makes a set of shots well formed is said of its groups one by one and of their labels, which
are distinct in any order; so the loader accepts all orders of the groups or none. A template is
what its group describes, and a name finds it by its label. Only the indices of templates come from
the order, and a sub-shot that names its template by another index names the same label.
-/

namespace Barrage.Catalog

open Relation (TransGen)

variable {K : Type}

/-- Sub-shots of two catalogs, for which the templates have the same name. -/
def SubShot.Alike (c c' : Catalog K) (s s' : SubShot K) : Prop :=
  s.offset = s'.offset ∧ ∃ t t', c.templates[s.template]? = some t ∧
    c'.templates[s'.template]? = some t' ∧ t.name = t'.name

/-- Templates of two catalogs that differ in the indices of their sub-shots at most. -/
structure Template.Alike (c c' : Catalog K) (t t' : Template K) : Prop where
  name : t.name = t'.name
  visual : t.visual = t'.visual
  gimmick : t.gimmick = t'.gimmick
  step : t.step = t'.step
  offset : t.offset = t'.offset
  subShots : List.Forall₂ (SubShot.Alike c c') t.subShots t'.subShots

variable [Scalar K]

/-! ### Well formed in any order -/

section Order

variable {groups groups' : List Labelled} (h : groups.Perm groups')

include h

omit [Scalar K] in
lemma labels_perm : (labels groups).Perm (labels groups') := h.map _

omit [Scalar K] in
lemma Known.perm {name : String} (hk : Known groups name) : Known groups' name :=
  hk.imp (labels_perm h).mem_iff.mp (labels_perm h).mem_iff.mp

lemma Contains.perm {a b : String} (hab : Contains K groups a b) : Contains K groups' a b := by
  obtain ⟨n, hn, hrest⟩ := hab
  exact ⟨n, h.mem_iff.mp hn, hrest⟩

lemma WellFormed.perm {steps : StepLibrary K} (hw : WellFormed steps groups) :
    WellFormed steps groups' := by
  have hmem : ∀ n ∈ groups', n ∈ groups := fun n hn => h.mem_iff.mpr hn
  constructor
  case described => exact fun n hn => hw.described n (hmem n hn)
  case active => exact fun n hn => hw.active n (hmem n hn)
  case distinct => exact (labels_perm h).nodup_iff.mp hw.distinct
  case registered => exact fun n hn => hw.registered n (hmem n hn)
  case present =>
    intro n hn s hs sub hsub
    exact (labels_perm h).mem_iff.mp (hw.present n (hmem n hn) s hs sub hsub)
  case acyclic =>
    intro label hcycle
    have hmono : ∀ a b, Contains K groups' a b → Contains K groups a b :=
      fun _ _ hab => hab.perm h.symm
    exact hw.acyclic label (TransGen.mono hmono _ _ hcycle)
  case references =>
    intro n hn step hbinds name hname
    exact (hw.references n (hmem n hn) step hbinds name hname).perm h

end Order

/-! ### The same templates in any order -/

variable {steps : StepLibrary K} {groups groups' : List Labelled} {c c' : Catalog K}
  {named named' : Named K}

/-- A group describes one template, up to the indices of its sub-shots. -/
lemma Template.Of.alike {n : Labelled} {t t' : Template K} (h : Template.Of steps c n t)
    (h' : Template.Of steps c' n t') : Template.Alike c c' t t' := by
  obtain ⟨s, hs, hname, hvisual, hoffset, hgimmick, hstep, hsub⟩ := h
  obtain ⟨s', hs', hname', hvisual', hoffset', hgimmick', hstep', hsub'⟩ := h'
  obtain rfl := hs.unique hs'
  refine ⟨hname.trans hname'.symm, hvisual.trans hvisual'.symm, hgimmick.trans hgimmick'.symm,
    hstep.trans hstep'.symm, hoffset.trans hoffset'.symm, ?_⟩
  refine (forall₂_trans hsub.flip hsub').imp fun sub sub' hentry => ?_
  obtain ⟨entry, ⟨hmoved, u, hu, hlabel⟩, hmoved', u', hu', hlabel'⟩ := hentry
  exact ⟨hmoved.trans hmoved'.symm, u, u', hu, hu', hlabel.trans hlabel'.symm⟩

lemma Resolved.find?_perm (h : Resolved steps groups named c)
    (h' : Resolved steps groups' named' c') (hp : groups.Perm groups') {name : String}
    {t : Template K} (ht : c.find? name = some t) :
    ∃ t', c'.find? name = some t' ∧ Template.Alike c c' t t' := by
  have hnames : c.names.Perm c'.names := by
    rw [h.names_eq, h'.names_eq]
    exact labels_perm hp
  obtain ⟨hmem, hname⟩ := (find?_eq_some (h.names_eq ▸ h.distinct)).mp ht
  obtain ⟨i, hi⟩ := List.mem_iff_getElem?.mp (Array.mem_toList_iff.mpr hmem)
  obtain ⟨n, hn, hof⟩ := forall₂_right h.faithful.templates hi
  -- the same group stands elsewhere in the other order
  obtain ⟨j, hj⟩ := List.mem_iff_getElem?.mp (hp.mem_iff.mp (List.mem_of_getElem? hn))
  obtain ⟨t', ht', hof'⟩ := forall₂_left h'.faithful.templates hj
  have halike := hof.alike hof'
  refine ⟨t', (find?_eq_some (h'.names_eq ▸ h'.distinct)).mpr ⟨?_, ?_⟩, halike⟩
  · exact Array.mem_toList_iff.mp (List.mem_of_getElem? ht')
  · rw [← halike.name, ← hnames.mem_iff]
    exact hname

/-- **Loading does not depend on the order of the groups**, nor on the files that they are in. If
the shot groups of one row of definitions are those of another in some order, then both are loaded
or none is, and every name finds the same in both catalogs. -/
theorem ofDefinitions_perm {ds ds' : List Definition} (steps : StepLibrary K)
    (h : (shotGroups ds).Perm (shotGroups ds')) :
    ((∃ c, ofDefinitions ds steps = .ok c) ↔ ∃ c', ofDefinitions ds' steps = .ok c') ∧
      ∀ c c', ofDefinitions ds steps = .ok c → ofDefinitions ds' steps = .ok c' →
        ∀ name, Option.Rel (Template.Alike c c') (c.find? name) (c'.find? name) := by
  refine ⟨?_, fun c c' hload hload' name => ?_⟩
  · rw [loads_iff, loads_iff]
    exact ⟨fun hw => hw.perm h, fun hw => hw.perm h.symm⟩
  · obtain ⟨named, hresolved⟩ := resolved_of_load hload
    obtain ⟨named', hresolved'⟩ := resolved_of_load hload'
    rcases hc : c.find? name with _ | t
    · rcases hc' : c'.find? name with _ | t'
      · exact .none
      · obtain ⟨t, ht, -⟩ := hresolved'.find?_perm hresolved h.symm hc'
        rw [hc] at ht
        cases ht
    · obtain ⟨t', ht', halike⟩ := hresolved.find?_perm hresolved' h hc
      rw [ht']
      exact .some halike

/-- A shot with a sub-shot that comes behind it in one file, and before it in a file of its own. -/
theorem ofDefinitions_perm_pair :
    let pair : Group :=
      ⟨"Shot Pair", [("gimmick", .string "off"), ("subshot0.name", .string "DOT")]⟩
    let dot : Group := ⟨"shot Dot", [("animation", .integer 7)]⟩
    let ds : List Definition := [⟨[pair, ⟨"Engine", []⟩, dot]⟩]
    let ds' : List Definition := [⟨[dot]⟩, ⟨[pair]⟩]
    let steps : StepLibrary Float32 := .ofList [("off", .launch ⟨⟨1, 0⟩⟩)]
    (shotGroups ds).Perm (shotGroups ds') ∧
      ∃ c c', ofDefinitions ds steps = .ok c ∧ ofDefinitions ds' steps = .ok c' ∧
        (c.id? "PAIR", c'.id? "PAIR") = (some 0, some 1) ∧
        Option.Rel (Template.Alike c c') (c.find? "PAIR") (c'.find? "PAIR") := by
  intro pair dot ds ds' steps
  have hpair : labelled? pair = some ("pair", pair) := by
    rw [labelled?, show pair.label? "shot" = some "Pair" by decide +kernel, Option.map_some,
      show Text.lower "Pair" = "pair" by decide +kernel]
  have hdot : labelled? dot = some ("dot", dot) := by
    rw [labelled?, show dot.label? "shot" = some "Dot" by decide +kernel, Option.map_some,
      show Text.lower "Dot" = "dot" by decide +kernel]
  have hengine : labelled? ⟨"Engine", []⟩ = none := by
    rw [labelled?, show Group.label? ⟨"Engine", []⟩ "shot" = none by decide +kernel,
      Option.map_none]
  have hp : (shotGroups ds).Perm (shotGroups ds') := by
    simpa [shotGroups, ds, ds', hpair, hdot, hengine] using List.Perm.swap _ _ _
  have hok : (ofDefinitions ds steps).toOption.any (·.id? "PAIR" = some 0) = true := by
    decide +kernel
  have hok' : (ofDefinitions ds' steps).toOption.any (·.id? "PAIR" = some 1) = true := by
    decide +kernel
  rcases hload : ofDefinitions ds steps with e | c
  · rw [hload] at hok
    cases hok
  rcases hload' : ofDefinitions ds' steps with e | c'
  · rw [hload'] at hok'
    cases hok'
  rw [hload] at hok
  rw [hload'] at hok'
  refine ⟨hp, c, c', rfl, rfl, ?_, (ofDefinitions_perm steps hp).2 c c' hload hload' "PAIR"⟩
  rw [of_decide_eq_true hok, of_decide_eq_true hok']

end Barrage.Catalog
