import Barrage.Proofs.Catalog.Acceptance
import Barrage.Proofs.Text.Lowercase
import Barrage.Scalar.Single

/-!
A name finds the same template in any case of its letters.

A name is looked up as it stands first, and in lowercase only where no template has it. All
templates of a loaded catalog are named in lowercase, and lowercase text is its own lowercase form;
so a name that is found as it stands is one that is in lowercase already, and the first look never
finds what the second would not. The loader looks for the templates of sub-shots by the lowercase
form alone, among names that are those of the templates in their order, and finds the same.
-/

namespace Barrage.Catalog

variable {K : Type}

/-! ### Names in lowercase -/

/-- All templates are named in lowercase. -/
def InLowercase (c : Catalog K) : Prop := ∀ name ∈ c.names, Text.lower name = name

lemma index?_eq_findIdx? {c : Catalog K} {name : String} :
    c.index? name = c.names.findIdx? (· == name) := by
  rw [index?, names, List.findIdx?_map, ← List.findIdx?_toArray, Array.toArray_toList]
  rfl

/-- The first look never finds what the second would not. -/
lemma InLowercase.id?_eq {c : Catalog K} (h : c.InLowercase) (name : String) :
    c.id? name = c.index? (Text.lower name) := by
  rw [id?]
  rcases hi : c.index? name with _ | i
  · rfl
  · have hname : name ∈ c.names := by
      rw [← isSome_index?, hi]
      rfl
    rw [h name hname, hi]

variable [Scalar K] {steps : StepLibrary K} {groups : List Labelled} {named : Named K}
  {c : Catalog K}

omit [Scalar K] in
lemma lower_of_mem_labels {ds : List Definition} {name : String}
    (h : name ∈ labels (shotGroups ds)) : Text.lower name = name := by
  obtain ⟨n, hn, rfl⟩ := List.mem_map.mp h
  obtain ⟨-, label, -, hname⟩ := mem_shotGroups.mp hn
  rw [hname, Text.lower_lower]

/-- The loader looks for a sub-shot as a lookup in the catalog does. -/
lemma Resolved.resolveSubShot_eq (h : Resolved steps groups named c) (hlower : c.InLowercase)
    (label : String) (entry : SubShotEntry K) :
    resolveSubShot named label entry =
      match c.id? entry.name with
      | some i => .ok ⟨i, entry.offset⟩
      | none => .error (.missingTemplate entry.name label) := by
  have hindex : named.findIdx? (·.1 == Text.lower entry.name) = c.id? entry.name := by
    rw [hlower.id?_eq, index?_eq_findIdx?, h.names_eq, ← labels_of_reads h.reads,
      List.findIdx?_map]
    rfl
  rcases hid : c.id? entry.name with _ | i <;> simp [resolveSubShot, hindex, hid]

/-! ### Loaded catalogs -/

/-- Lookup in a catalog that comes from the shot groups of definitions. -/
structure CaseBlind (ds : List Definition) (c : Catalog K) : Prop where
  /-- What is found depends on the lowercase form alone. -/
  alike : ∀ a b, Text.lower a = Text.lower b → c.id? a = c.id? b
  /-- What is found is what some shot group is labelled, in any case. -/
  found : ∀ a, (c.id? a).isSome = true ↔ ∃ d ∈ ds, ∃ g ∈ d.groups, ∃ label,
    Group.Header "shot" g.name label ∧ Text.lower label = Text.lower a
  /-- The template that is found has the lowercase form as its name. -/
  named : ∀ a i, c.id? a = some i → ∃ t, c.templates[i]? = some t ∧ c.find? a = some t ∧
    t.name = Text.lower a
  /-- A name that is found as it stands is found under its lowercase form. -/
  asWritten : ∀ a i, c.index? a = some i → c.index? (Text.lower a) = some i
  /-- The loader finds the template of a sub-shot, or misses it, as a lookup does. -/
  resolves : ∀ named : Named K, (ds.flatMap (·.groups)).foldlM collect [] = .ok named →
    ∀ label entry, resolveSubShot named label entry =
      match c.id? entry.name with
      | some i => .ok ⟨i, entry.offset⟩
      | none => .error (.missingTemplate entry.name label)
  /-- The sub-shots of a template are those that lookups find for the entries of its group. -/
  subShots : List.Forall₂ (fun n t => ∃ s : ShotDefinition K, Describes n s ∧
    List.Forall₂ (fun entry sub => c.id? entry.name = some sub.template ∧
      sub.offset = entry.offset) s.subShots t.subShots) (shotGroups ds) c.templates.toList

/-- **A name finds the same template in any case of its letters**, in every catalog that was
loaded: the one whose name is its lowercase form, if a shot group has a label of that form. The
loader finds the templates of sub-shots by the same rule. -/
theorem caseBlind_of_load {ds : List Definition} (hload : ofDefinitions ds steps = .ok c) :
    CaseBlind ds c := by
  obtain ⟨named, hcollect, htemplates, -, -⟩ := ofDefinitions_ok hload
  obtain ⟨hreads, hdistinct⟩ := reads_of_collect hcollect
  have h : Resolved steps (shotGroups ds) named c := ⟨hreads, hdistinct, mapM_ok htemplates⟩
  have hlower : c.InLowercase := fun name hname => lower_of_mem_labels (h.names_eq ▸ hname)
  have hresolve := h.resolveSubShot_eq hlower
  constructor
  case alike =>
    intro a b hab
    rw [hlower.id?_eq, hlower.id?_eq, hab]
  case found =>
    intro a
    rw [hlower.id?_eq, isSome_index?, h.names_eq, labels, List.mem_map]
    constructor
    · rintro ⟨n, hn, hname⟩
      obtain ⟨⟨d, hd, hg⟩, label, hheader, hlabel⟩ := mem_shotGroups.mp hn
      exact ⟨d, hd, n.2, hg, label, hheader, hlabel.symm.trans hname⟩
    · rintro ⟨d, hd, g, hg, label, hheader, hlabel⟩
      exact ⟨(Text.lower label, g), mem_shotGroups.mpr ⟨⟨d, hd, hg⟩, label, hheader, rfl⟩, hlabel⟩
  case named =>
    intro a i hi
    have hindex := hi
    rw [hlower.id?_eq] at hindex
    obtain ⟨t, ht, hname⟩ := index?_eq_some hindex
    exact ⟨t, ht, by rw [find?, hi]; exact ht, hname⟩
  case asWritten =>
    intro a i hi
    rw [← hlower.id?_eq, id?, hi]
  case resolves =>
    intro named' hcollect'
    rw [hcollect] at hcollect'
    cases hcollect'
    exact hresolve
  case subShots =>
    refine h.row.imp fun n t ht => ?_
    obtain ⟨s, -, subShots, hs, -, -, hsub, rfl⟩ := ht
    refine ⟨s, hs, (mapM_ok hsub).imp fun entry sub hentry => ?_⟩
    rw [hresolve] at hentry
    rcases hi : c.id? entry.name with _ | i
    · rw [hi] at hentry
      cases hentry
    · rw [hi] at hentry
      cases hentry
      exact ⟨rfl, rfl⟩

/-- A shot that is looked up under other spellings than its group has, and by a sub-shot. -/
theorem caseBlind_of_load_pair :
    let ds : List Definition := [⟨[
      ⟨"Shot Enemy_Mid", [("gimmick", .string "off"), ("subshot0.name", .string "DOT")]⟩,
      ⟨"shot Dot", [("animation", .integer 7)]⟩]⟩]
    let steps : StepLibrary Float32 := .ofList [("off", .launch ⟨⟨1, 0⟩⟩)]
    ∃ c, ofDefinitions ds steps = .ok c ∧ CaseBlind ds c ∧
      (c.id? "enemy_mid", c.id? "ENEMY_MID", c.id? "dOT", c.id? "enemy") =
        (some 0, some 0, some 1, none) := by
  intro ds steps
  have hok : (ofDefinitions ds steps).toOption.any (fun c =>
      (c.id? "enemy_mid", c.id? "ENEMY_MID", c.id? "dOT", c.id? "enemy") =
        (some 0, some 0, some 1, none)) = true := by
    decide +kernel
  rcases hload : ofDefinitions ds steps with e | c
  · rw [hload] at hok
    cases hok
  · rw [hload] at hok
    exact ⟨c, rfl, caseBlind_of_load hload, of_decide_eq_true hok⟩

end Barrage.Catalog
