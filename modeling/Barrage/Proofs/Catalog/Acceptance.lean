import Barrage.Proofs.Catalog.Loading
import Barrage.Proofs.Catalog.Lookup
import Barrage.Proofs.Definition.Header

/-!
The loader accepts exactly the sets of shots that are well formed.

What makes a set of shot groups well formed is said of the groups and the library alone, with no
catalog in sight: a group refers to another by the lowercased label. Every error names a defect of
this kind that the groups really have, whichever pass finds it, so a set that is refused is not well
formed; and a set that passes is well formed, since each pass has looked at all groups.
-/

namespace Barrage.Catalog

open Relation (TransGen ReflTransGen)

variable {K : Type} [Scalar K]

/-! ### Sets of shots -/

/-- A shot group under its label in lowercase. -/
abbrev Labelled := String × Group

def labelled? (g : Group) : Option Labelled :=
  (g.label? "shot").map fun label => (Text.lower label, g)

/-- The shot groups of definitions, in the order of the files. -/
def shotGroups (ds : List Definition) : List Labelled :=
  (ds.flatMap (·.groups)).filterMap labelled?

omit [Scalar K] in
/-- **The shot groups are those whose header reads `shot` and a label.** -/
theorem mem_shotGroups {ds : List Definition} {n : Labelled} :
    n ∈ shotGroups ds ↔ (∃ d ∈ ds, n.2 ∈ d.groups) ∧
      ∃ label, Group.Header "shot" n.2.name label ∧ n.1 = Text.lower label := by
  obtain ⟨name, g⟩ := n
  simp only [shotGroups, labelled?, List.mem_filterMap, List.mem_flatMap, Option.map_eq_some_iff,
    Group.label?_eq_some, Prod.mk.injEq]
  constructor
  · rintro ⟨g', hmem, label, hheader, rfl, rfl⟩
    exact ⟨hmem, label, hheader, rfl⟩
  · rintro ⟨hmem, label, hheader, rfl⟩
    exact ⟨g, hmem, label, hheader, rfl, rfl⟩

def labels (groups : List Labelled) : List String := groups.map (·.1)

/-- A group describes a shot. -/
def Describes (n : Labelled) (s : ShotDefinition K) : Prop := ShotDefinition.ofGroup n.2 = .ok s

/-- The shot of a group is bound to a step. -/
def Binds (steps : StepLibrary K) (n : Labelled) (step : Step K) : Prop :=
  ∃ (s : ShotDefinition K) (gimmick : String),
    Describes n s ∧ s.gimmick = some gimmick ∧ steps.resolve? gimmick = some step

/-- A name is one of the labels, as it stands or in lowercase. -/
def Known (groups : List Labelled) (name : String) : Prop :=
  name ∈ labels groups ∨ Text.lower name ∈ labels groups

/-- The shot of one label has a sub-shot of another. -/
def Contains (K : Type) [Scalar K] (groups : List Labelled) (a b : String) : Prop :=
  ∃ n ∈ groups, n.1 = a ∧ ∃ s : ShotDefinition K, Describes n s ∧
    ∃ sub ∈ s.subShots, Text.lower sub.name = b

structure WellFormed (steps : StepLibrary K) (groups : List Labelled) : Prop where
  described : ∀ n ∈ groups, ∃ s : ShotDefinition K, Describes n s
  active : ∀ n ∈ groups, ∀ s : ShotDefinition K, Describes n s →
    ¬ (s.animation = none ∧ s.gimmick = none)
  distinct : (labels groups).Nodup
  registered : ∀ n ∈ groups, ∀ s : ShotDefinition K, Describes n s →
    ∀ gimmick, s.gimmick = some gimmick → ∃ step, steps.resolve? gimmick = some step
  present : ∀ n ∈ groups, ∀ s : ShotDefinition K, Describes n s →
    ∀ sub ∈ s.subShots, Text.lower sub.name ∈ labels groups
  acyclic : ∀ label, ¬ TransGen (Contains K groups) label label
  references : ∀ n ∈ groups, ∀ step, Binds steps n step → ∀ name ∈ step.references,
    Known groups name

/-- What an error says is wrong with the groups. -/
def Defect (steps : StepLibrary K) (groups : List Labelled) : CatalogError → Prop
  | .definition e => ∃ n ∈ groups, ∃ fault,
    ShotDefinition.ofGroup (K := K) n.2 = .error fault ∧ e = .invalidValue n.2.name fault
  | .inert label => ∃ n ∈ groups, n.1 = label ∧ ∃ s : ShotDefinition K, Describes n s ∧
    s.animation = none ∧ s.gimmick = none
  | .duplicate label => 2 ≤ (labels groups).count label
  | .unknownStep gimmick label => ∃ n ∈ groups, n.1 = label ∧ ∃ s : ShotDefinition K,
    Describes n s ∧ s.gimmick = some gimmick ∧ steps.resolve? gimmick = none
  | .missingTemplate name label => ∃ n ∈ groups, n.1 = label ∧
    ((∃ s : ShotDefinition K, Describes n s ∧ Text.lower name ∉ labels groups ∧
        ∃ sub ∈ s.subShots, sub.name = name) ∨
      ∃ step, Binds steps n step ∧ name ∈ step.references ∧ ¬ Known groups name)
  | .cycle label => TransGen (Contains K groups) label label
  | .unknownTemplate _ => False

/-- A sub-shot of a template is the entry of the group. -/
def SubShot.Of (c : Catalog K) (entry : SubShotEntry K) (sub : SubShot K) : Prop :=
  sub.offset = entry.offset ∧
    ∃ t, c.templates[sub.template]? = some t ∧ t.name = Text.lower entry.name

/-- A template is what its group describes. -/
def Template.Of (steps : StepLibrary K) (c : Catalog K) (n : Labelled) (t : Template K) : Prop :=
  ∃ s, Describes n s ∧ t.name = n.1 ∧ t.visual = s.visual ∧ t.offset = s.offset ∧
    t.gimmick = s.gimmick ∧ t.step = s.gimmick.bind steps.resolve? ∧
    List.Forall₂ (SubShot.Of c) s.subShots t.subShots

/-- There is one template for each group, in order, and it is found under its label. -/
structure Faithful (steps : StepLibrary K) (groups : List Labelled) (c : Catalog K) : Prop where
  templates : List.Forall₂ (Template.Of steps c) groups c.templates.toList
  found : ∀ i n, groups[i]? = some n → c.id? n.1 = some i

/-- What is well formed has no defect. -/
lemma WellFormed.not_defect {steps : StepLibrary K} {groups : List Labelled}
    (h : WellFormed steps groups) (e : CatalogError) : ¬ Defect steps groups e := by
  intro hd
  cases e with
  | definition e =>
    obtain ⟨n, hn, fault, hfault, -⟩ := hd
    obtain ⟨s, hs⟩ := h.described n hn
    rw [Describes, hfault] at hs
    cases hs
  | inert label =>
    obtain ⟨n, hn, -, s, hs, hinert⟩ := hd
    exact h.active n hn s hs hinert
  | duplicate label =>
    have := List.nodup_iff_count_le_one.mp h.distinct label
    rw [Defect] at hd
    omega
  | unknownStep gimmick label =>
    obtain ⟨n, hn, -, s, hs, hgimmick, hnone⟩ := hd
    obtain ⟨step, hstep⟩ := h.registered n hn s hs gimmick hgimmick
    rw [hnone] at hstep
    cases hstep
  | missingTemplate name label =>
    obtain ⟨n, hn, -, ⟨s, hs, hout, sub, hsub, rfl⟩ | ⟨step, hbinds, hname, hout⟩⟩ := hd
    · exact hout (h.present n hn s hs sub hsub)
    · exact hout (h.references n hn step hbinds name hname)
  | cycle label => exact h.acyclic label hd
  | unknownTemplate name => exact hd

/-! ### Reading the groups -/

/-- A group was read, and its shot is not inert. -/
def Reads (n : Labelled) (m : String × ShotDefinition K) : Prop :=
  m.1 = n.1 ∧ Describes n m.2 ∧ m.2.isInert = false

lemma labels_of_reads {groups : List Labelled} {named : Named K}
    (h : List.Forall₂ Reads groups named) : named.map (·.1) = labels groups :=
  (map_eq_of_forall₂ h fun _ _ hr => hr.1.symm).symm

lemma collect_of_none {named : Named K} {g : Group} (h : labelled? g = none) :
    collect named g = .ok named := by
  have hname : shotName? g = none := by simpa [labelled?, shotName?] using h
  rw [collect, hname]

lemma collect_of_some {named : Named K} {g : Group} {n : Labelled} (h : labelled? g = some n) :
    collect named g =
      match ShotDefinition.ofGroup n.2 with
      | .error fault => .error (.definition (.invalidValue n.2.name fault))
      | .ok s =>
        if s.isInert then .error (.inert n.1)
        else if (named.lookup n.1).isSome then .error (.duplicate n.1)
        else .ok (named ++ [(n.1, s)]) := by
  obtain ⟨label, hlabel, rfl⟩ := Option.map_eq_some_iff.mp h
  have hname : shotName? g = some (Text.lower label) := by rw [shotName?, hlabel]; rfl
  rw [collect, hname]
  rcases hread : ShotDefinition.ofGroup (K := K) g with fault | s <;>
    simp [Group.attempt, hread, Except.mapError]

/-- **Reading finds the groups**, or one that cannot be read, is inert or has a label for the second
time. -/
theorem collect_spec (steps : StepLibrary K) (gs : List Group) {seen : List Labelled}
    {named : Named K} (hread : List.Forall₂ Reads seen named) (hnd : (labels seen).Nodup) :
    match gs.foldlM collect named with
    | .ok named' => List.Forall₂ Reads (seen ++ gs.filterMap labelled?) named' ∧
      (labels (seen ++ gs.filterMap labelled?)).Nodup
    | .error e => Defect steps (seen ++ gs.filterMap labelled?) e := by
  induction gs generalizing seen named with
  | nil => simpa using ⟨hread, hnd⟩
  | cons g gs ih =>
    rw [List.foldlM_cons]
    rcases hl : labelled? g with _ | n
    · rw [collect_of_none hl, List.filterMap_cons_none hl]
      exact ih hread hnd
    · have hmem : n ∈ seen ++ n :: gs.filterMap labelled? := by simp
      rw [collect_of_some hl, List.filterMap_cons_some hl]
      rcases hs : ShotDefinition.ofGroup (K := K) n.2 with fault | s
      · exact ⟨n, hmem, fault, hs, rfl⟩
      by_cases hinert : s.isInert = true
      · simp only [hinert, if_true]
        exact ⟨n, hmem, rfl, s, hs, isInert_iff.mp hinert⟩
      rw [Bool.not_eq_true] at hinert
      have hlookup : (named.lookup n.1).isSome = true ↔ n.1 ∈ labels seen := by
        rw [← labels_of_reads hread]
        simp
      by_cases hdup : n.1 ∈ labels seen
      · simp only [hinert, hlookup.mpr hdup, if_true]
        have hcount : 0 < (labels seen).count n.1 := List.count_pos_iff.mpr hdup
        change 2 ≤ (labels (seen ++ n :: gs.filterMap labelled?)).count n.1
        rw [labels, List.map_append, List.map_cons, List.count_append, List.count_cons_self]
        rw [labels] at hcount
        omega
      · have hnone : (named.lookup n.1).isSome = false := by
          rw [← Bool.not_eq_true, hlookup]
          exact hdup
        have hnext : List.Forall₂ Reads (seen ++ [n]) (named ++ [(n.1, s)]) :=
          List.rel_append hread (.cons ⟨rfl, hs, hinert⟩ .nil)
        have hlabels : (labels (seen ++ [n])).Nodup := by
          rw [labels, List.map_append, List.nodup_append]
          refine ⟨hnd, by simp, fun a ha b hb hab => hdup ?_⟩
          rw [List.map_singleton, List.mem_singleton] at hb
          rw [← hb, ← hab]
          exact ha
        have hrest := ih hnext hlabels
        rw [List.append_assoc] at hrest
        simp only [hinert, hnone, Bool.false_eq_true, if_false]
        exact hrest

/-! ### Resolving the names -/

variable {steps : StepLibrary K} {groups : List Labelled} {named : Named K} {c : Catalog K}

/-- What the groups came to, once their names are resolved. -/
structure Resolved (steps : StepLibrary K) (groups : List Labelled) (named : Named K)
    (c : Catalog K) : Prop where
  reads : List.Forall₂ Reads groups named
  distinct : (labels groups).Nodup
  resolves : List.Forall₂ (fun n t => resolve steps named n.1 n.2 = .ok t) named c.templates.toList

lemma Resolved.names_eq (h : Resolved steps groups named c) : c.names = labels groups := by
  rw [← labels_of_reads h.reads, names]
  refine (map_eq_of_forall₂ h.resolves fun n t ht => ?_).symm
  obtain ⟨step?, subShots, -, -, rfl⟩ := resolve_ok ht
  rfl

lemma Resolved.known_iff (h : Resolved steps groups named c) {name : String} :
    (c.id? name).isSome = true ↔ Known groups name := by
  rw [isSome_id?, h.names_eq, Known]

/-- A group and its template, with the steps between them. -/
lemma Resolved.row (h : Resolved steps groups named c) :
    List.Forall₂ (fun n t => ∃ s step? subShots, Describes n s ∧ s.isInert = false ∧
      resolveStep steps n.1 s = .ok step? ∧
      s.subShots.mapM (resolveSubShot named n.1) = .ok subShots ∧
      t = ⟨n.1, s.visual, s.gimmick, step?, s.offset, subShots⟩) groups c.templates.toList := by
  refine (forall₂_trans h.reads h.resolves).imp fun n t ht => ?_
  obtain ⟨⟨name, s⟩, ⟨hname, hs, hinert⟩, hresolve⟩ := ht
  obtain rfl : name = n.1 := hname
  obtain ⟨step?, subShots, hstep, hsub, ht⟩ := resolve_ok hresolve
  exact ⟨s, step?, subShots, hs, hinert, hstep, hsub, ht⟩

/-- **The catalog is what the groups describe.** -/
theorem Resolved.faithful (h : Resolved steps groups named c) : Faithful steps groups c := by
  refine ⟨h.row.imp fun n t ht => ?_, fun i n hn => ?_⟩
  · obtain ⟨s, step?, subShots, hs, -, hstep, hsub, rfl⟩ := ht
    refine ⟨s, hs, rfl, rfl, rfl, rfl, (resolveStep_ok hstep).1, ?_⟩
    refine (mapM_ok hsub).imp fun entry sub hentry => ?_
    obtain ⟨hoffset, hname⟩ := resolveSubShot_ok hentry
    rw [labels_of_reads h.reads, ← h.names_eq, names_getElem?] at hname
    exact ⟨hoffset, hname⟩
  · obtain ⟨t, ht, s, step?, subShots, -, -, -, -, rfl⟩ := forall₂_left h.row hn
    exact id?_of_getElem? (h.names_eq ▸ h.distinct) (by simpa using ht)

/-! ### Labels and indices -/

lemma Describes.unique {n : Labelled} {s s' : ShotDefinition K} (h : Describes n s)
    (h' : Describes n s') : s = s' := by
  rw [Describes, h] at h'
  cases h'
  rfl

/-- A template among the sub-shots of another is so by their names. -/
lemma Faithful.contains_of_edge (h : Faithful steps groups c) {i j : Nat} (hedge : c.Edge i j) :
    ∃ t u, c.templates[i]? = some t ∧ c.templates[j]? = some u ∧
      Contains K groups t.name u.name := by
  rw [Edge, children] at hedge
  rcases ht : c.templates[i]? with _ | t
  · simp [ht] at hedge
  · rw [ht] at hedge
    obtain ⟨sub, hsub, rfl⟩ := List.mem_map.mp hedge
    obtain ⟨n, hn, s, hs, hname, -, -, -, -, hrow⟩ :=
      forall₂_right h.templates (i := i) (by simpa using ht)
    obtain ⟨k, hk⟩ := List.mem_iff_getElem?.mp hsub
    obtain ⟨entry, hentry, -, u, hu, huname⟩ := forall₂_right hrow hk
    exact ⟨t, u, rfl, hu, n, List.mem_of_getElem? hn, hname.symm, s, hs, entry,
      List.mem_of_getElem? hentry, huname.symm⟩

lemma Faithful.edge_of_contains (h : Faithful steps groups c) {a b : String}
    (hab : Contains K groups a b) :
    ∃ i j t u, c.templates[i]? = some t ∧ c.templates[j]? = some u ∧ t.name = a ∧ u.name = b ∧
      c.Edge i j := by
  obtain ⟨n, hn, rfl, s, hs, entry, hentry, rfl⟩ := hab
  obtain ⟨i, hi⟩ := List.mem_iff_getElem?.mp hn
  obtain ⟨t, ht, s', hs', hname, -, -, -, -, hrow⟩ := forall₂_left h.templates hi
  obtain rfl := hs.unique hs'
  obtain ⟨k, hk⟩ := List.mem_iff_getElem?.mp hentry
  obtain ⟨sub, hsub, -, u, hu, huname⟩ := forall₂_left hrow hk
  have ht : c.templates[i]? = some t := by simpa using ht
  refine ⟨i, sub.template, t, u, ht, hu, hname, huname, ?_⟩
  rw [Edge, children, ht]
  exact List.mem_map_of_mem (List.mem_of_getElem? hsub)

lemma Faithful.inRange (h : Faithful steps groups c) : c.InRange := fun i j hedge => by
  obtain ⟨-, u, -, hu, -⟩ := h.contains_of_edge hedge
  exact (Array.getElem?_eq_some_iff.mp hu).1

lemma Faithful.contains_of_reaches (h : Faithful steps groups c) {i j : Nat}
    (hij : TransGen c.Edge i j) : ∃ t u, c.templates[i]? = some t ∧ c.templates[j]? = some u ∧
      TransGen (Contains K groups) t.name u.name := by
  induction hij with
  | single hedge =>
    obtain ⟨t, u, ht, hu, hcontains⟩ := h.contains_of_edge hedge
    exact ⟨t, u, ht, hu, .single hcontains⟩
  | tail _ hedge ih =>
    obtain ⟨t, u, ht, hu, hpath⟩ := ih
    obtain ⟨u', w, hu', hw, hcontains⟩ := h.contains_of_edge hedge
    rw [hu] at hu'
    cases hu'
    exact ⟨t, w, ht, hw, hpath.tail hcontains⟩

/-- Names are distinct, so a row of sub-shots is one of indices. -/
lemma Faithful.reaches_of_contains (h : Faithful steps groups c) (hnd : c.names.Nodup)
    {a b : String} (hab : TransGen (Contains K groups) a b) :
    ∃ i j t u, c.templates[i]? = some t ∧ c.templates[j]? = some u ∧ t.name = a ∧ u.name = b ∧
      TransGen c.Edge i j := by
  induction hab with
  | single hcontains =>
    obtain ⟨i, j, t, u, ht, hu, hta, hub, hedge⟩ := h.edge_of_contains hcontains
    exact ⟨i, j, t, u, ht, hu, hta, hub, .single hedge⟩
  | tail _ hcontains ih =>
    obtain ⟨i, j, t, u, ht, hu, hta, hub, hpath⟩ := ih
    obtain ⟨j', k, u', w, hu', hw, hub', hwc, hedge⟩ := h.edge_of_contains hcontains
    obtain rfl := index_unique hnd hu hu' (hub.trans hub'.symm)
    exact ⟨i, k, t, w, ht, hw, hta, hwc, hpath.tail hedge⟩

lemma Faithful.acyclic (h : Faithful steps groups c) (hnd : c.names.Nodup)
    (hacyclic : ∀ i, ¬ TransGen c.Edge i i) (label : String) :
    ¬ TransGen (Contains K groups) label label := by
  intro hcycle
  obtain ⟨i, j, t, u, ht, hu, hta, hub, hpath⟩ := h.reaches_of_contains hnd hcycle
  obtain rfl := index_unique hnd ht hu (hta.trans hub.symm)
  exact hacyclic i hpath

/-! ### All passes -/

lemma Template.Of.binds_iff {n : Labelled} {t : Template K} (h : Template.Of steps c n t)
    {step : Step K} : t.step = some step ↔ Binds steps n step := by
  obtain ⟨s, hs, -, -, -, -, hstep, -⟩ := h
  rw [hstep, Option.bind_eq_some_iff]
  constructor
  · rintro ⟨gimmick, hgimmick, hresolve⟩
    exact ⟨s, gimmick, hs, hgimmick, hresolve⟩
  · rintro ⟨s', gimmick, hs', hgimmick, hresolve⟩
    exact ⟨gimmick, hs.unique hs' ▸ hgimmick, hresolve⟩

lemma defect_of_resolve (hreads : List.Forall₂ Reads groups named) {m : String × ShotDefinition K}
    (hm : m ∈ named) {e : CatalogError} (h : resolve steps named m.1 m.2 = .error e) :
    Defect steps groups e := by
  obtain ⟨i, hi⟩ := List.mem_iff_getElem?.mp hm
  obtain ⟨n, hn, hname, hs, -⟩ := forall₂_right hreads hi
  have hmem := List.mem_of_getElem? hn
  rcases resolve_error h with hstep | ⟨entry, hentry, hsub⟩
  · obtain ⟨gimmick, hgimmick, hnone, rfl⟩ := resolveStep_error hstep
    exact ⟨n, hmem, hname.symm, m.2, hs, hgimmick, hnone⟩
  · obtain ⟨hout, rfl⟩ := resolveSubShot_error hsub
    rw [labels_of_reads hreads] at hout
    exact ⟨n, hmem, hname.symm, .inl ⟨m.2, hs, hout, entry, hentry, rfl⟩⟩

lemma Resolved.defect_of_references (h : Resolved steps groups named c) {t : Template K}
    (ht : t ∈ c.templates) {e : CatalogError} (he : c.checkReferences t = .error e) :
    Defect steps groups e := by
  obtain ⟨step, hstep, name, hname, hnone, rfl⟩ := checkReferences_error he
  obtain ⟨i, hi⟩ := List.mem_iff_getElem?.mp (Array.mem_toList_iff.mpr ht)
  obtain ⟨n, hn, hof⟩ := forall₂_right h.faithful.templates hi
  have hunknown : ¬ Known groups name := by
    rw [← h.known_iff, hnone]
    simp
  have hbinds := hof.binds_iff.mp hstep
  obtain ⟨s, -, htname, -⟩ := hof
  exact ⟨n, List.mem_of_getElem? hn, htname.symm, .inr ⟨step, hbinds, hname, hunknown⟩⟩

/-- What passes all checks is well formed. -/
lemma Resolved.wellFormed (h : Resolved steps groups named c) (hcycles : c.checkCycles = .ok ())
    (hreferences : ∀ t ∈ c.templates, c.checkReferences t = .ok ()) :
    WellFormed steps groups := by
  have hrow : ∀ n ∈ groups, ∃ t ∈ c.templates, Template.Of steps c n t ∧
      ∀ s : ShotDefinition K, Describes n s → s.isInert = false ∧
        (∃ step?, resolveStep steps n.1 s = .ok step?) ∧
        ∃ subShots, s.subShots.mapM (resolveSubShot named n.1) = .ok subShots := by
    intro n hn
    obtain ⟨i, hi⟩ := List.mem_iff_getElem?.mp hn
    obtain ⟨t, ht, hof⟩ := forall₂_left h.faithful.templates hi
    obtain ⟨t', -, s', step?, subShots, hs', hinert, hstep, hsub, -⟩ := forall₂_left h.row hi
    refine ⟨t, Array.mem_toList_iff.mp (List.mem_of_getElem? ht), hof, fun s hs => ?_⟩
    obtain rfl := hs.unique hs'
    exact ⟨hinert, ⟨step?, hstep⟩, subShots, hsub⟩
  constructor
  case described =>
    intro n hn
    obtain ⟨t, -, ⟨s, hs, -⟩, -⟩ := hrow n hn
    exact ⟨s, hs⟩
  case active =>
    intro n hn s hs hempty
    obtain ⟨-, -, -, hall⟩ := hrow n hn
    have hinert := (hall s hs).1
    rw [isInert_iff.mpr hempty] at hinert
    cases hinert
  case distinct => exact h.distinct
  case registered =>
    intro n hn s hs
    obtain ⟨-, -, -, hall⟩ := hrow n hn
    obtain ⟨-, ⟨step?, hstep⟩, -⟩ := hall s hs
    exact (resolveStep_ok hstep).2
  case present =>
    intro n hn s hs entry hentry
    obtain ⟨-, -, -, hall⟩ := hrow n hn
    obtain ⟨-, -, subShots, hsub⟩ := hall s hs
    obtain ⟨k, hk⟩ := List.mem_iff_getElem?.mp hentry
    obtain ⟨sub, -, hresolve⟩ := forall₂_left (mapM_ok hsub) hk
    rw [← labels_of_reads h.reads]
    exact List.mem_of_getElem? (resolveSubShot_ok hresolve).2
  case acyclic =>
    rcases checkCycles_cases h.faithful.inRange with ⟨-, hacyclic⟩ | ⟨i, t, -, -, herror⟩
    · exact h.faithful.acyclic (h.names_eq ▸ h.distinct) hacyclic
    · rw [hcycles] at herror
      cases herror
  case references =>
    intro n hn step hbinds name hname
    obtain ⟨t, ht, hof, -⟩ := hrow n hn
    rw [← h.known_iff]
    exact checkReferences_ok (hreferences t ht) step (hof.binds_iff.mpr hbinds) name hname

/-! ### What loading comes to -/

section Loaded

variable {ds : List Definition}

lemma reads_of_collect (h : (ds.flatMap (·.groups)).foldlM collect [] = .ok named) :
    List.Forall₂ Reads (shotGroups ds) named ∧ (labels (shotGroups ds)).Nodup := by
  have hstart : List.Forall₂ Reads [] ([] : Named K) := .nil
  have hcollect := collect_spec .empty (ds.flatMap (·.groups)) hstart List.nodup_nil
  rw [h] at hcollect
  exact hcollect

lemma resolved_of_load (h : ofDefinitions ds steps = .ok c) :
    ∃ named, Resolved steps (shotGroups ds) named c := by
  obtain ⟨named, hnamed, htemplates, -, -⟩ := ofDefinitions_ok h
  obtain ⟨hreads, hdistinct⟩ := reads_of_collect hnamed
  exact ⟨named, hreads, hdistinct, mapM_ok htemplates⟩

lemma wellFormed_of_load (h : ofDefinitions ds steps = .ok c) :
    WellFormed steps (shotGroups ds) := by
  obtain ⟨named, hresolved⟩ := resolved_of_load h
  obtain ⟨-, -, -, hcycles, hreferences⟩ := ofDefinitions_ok h
  exact hresolved.wellFormed hcycles hreferences

/-- Whichever pass fails, it has found a defect. -/
lemma defect_of_load {e : CatalogError} (h : ofDefinitions ds steps = .error e) :
    Defect steps (shotGroups ds) e := by
  rcases ofDefinitions_error h with hread | ⟨named, hnamed, hlater⟩
  · have hstart : List.Forall₂ Reads [] ([] : Named K) := .nil
    have hcollect := collect_spec steps (ds.flatMap (·.groups)) hstart List.nodup_nil
    rw [hread] at hcollect
    exact hcollect
  obtain ⟨hreads, hdistinct⟩ := reads_of_collect hnamed
  rcases hlater with ⟨m, hm, hresolve⟩ | ⟨c, htemplates, hcheck⟩
  · exact defect_of_resolve hreads hm hresolve
  have hresolved : Resolved steps (shotGroups ds) named c :=
    ⟨hreads, hdistinct, mapM_ok htemplates⟩
  rcases hcheck with hcycles | ⟨t, ht, hreferences⟩
  · rcases checkCycles_cases hresolved.faithful.inRange with
      ⟨hok, -⟩ | ⟨i, t, ht, hcycle, herror⟩
    · rw [hok] at hcycles
      cases hcycles
    · rw [herror] at hcycles
      cases hcycles
      obtain ⟨t', u, ht', hu, hpath⟩ := hresolved.faithful.contains_of_reaches hcycle
      rw [ht] at ht' hu
      cases ht'
      cases hu
      exact hpath
  · exact hresolved.defect_of_references ht hreferences

/-- Sets of shots are loaded if they are well formed, and no others. -/
lemma loads_iff : (∃ c, ofDefinitions ds steps = .ok c) ↔ WellFormed steps (shotGroups ds) := by
  constructor
  · rintro ⟨c, h⟩
    exact wellFormed_of_load h
  · intro hwell
    rcases h : ofDefinitions ds steps with e | c
    · exact absurd (defect_of_load h) (hwell.not_defect e)
    · exact ⟨c, rfl⟩

end Loaded

/-- **The loader accepts exactly the sets of shots that are well formed.** On success the catalog
is what the groups describe; on failure the error names a defect that they have. -/
theorem ofDefinitions_exact (ds : List Definition) (steps : StepLibrary K) :
    ((∃ c, ofDefinitions ds steps = .ok c) ↔ WellFormed steps (shotGroups ds)) ∧
      match ofDefinitions ds steps with
      | .ok c => Faithful steps (shotGroups ds) c
      | .error e => Defect steps (shotGroups ds) e := by
  refine ⟨loads_iff, ?_⟩
  rcases h : ofDefinitions ds steps with e | c
  · exact defect_of_load h
  · obtain ⟨named, hresolved⟩ := resolved_of_load h
    exact hresolved.faithful

end Barrage.Catalog
