import Barrage.Proofs.Catalog.Loading
import Barrage.Proofs.Catalog.Lookup
import Barrage.Proofs.Heredity
import Barrage.Proofs.Mentions
import Barrage.Scalar.Single

/-!
References stay closed.

The loader looks at the list of each template's own step and no further. That is enough: a step is
*grounded* when the catalog has all templates on its list, and the list covers all that can ever
come of the step. So the shots that a grounded step creates run grounded steps, those of a template
are grounded by the check of the loader, and those from outside by what callers promise. In no
generation does a step ever ask for a template that is not there.
-/

namespace Barrage

open Engine (Admitted Change Reached)

variable {K : Type}

/-- The catalog has every template that the step lists. -/
def Step.Grounded (c : Catalog K) (step : Step K) : Prop :=
  ∀ name ∈ step.references, (c.id? name).isSome = true

/-- The steps of all templates are grounded. -/
def Catalog.Closed (c : Catalog K) : Prop :=
  ∀ t ∈ c.templates, ∀ step, t.step = some step → step.Grounded c

def Shot.Grounded (c : Catalog K) (s : Shot K) : Prop :=
  ∀ step, s.step = some step → step.Grounded c

def Birth.Grounded (c : Catalog K) (b : Birth K) : Prop :=
  ∀ step, b.step = some step → step.Grounded c

variable [Scalar K] {c : Catalog K}

/-- What the loader returns is closed. -/
lemma Catalog.closed_of_load {ds : List Definition} {steps : StepLibrary K}
    (h : ofDefinitions ds steps = .ok c) : c.Closed := by
  obtain ⟨-, -, -, -, hreferences⟩ := ofDefinitions_ok h
  exact fun t ht => checkReferences_ok (hreferences t ht)

omit [Scalar K] in
lemma Catalog.find?_of_isSome {name : String} (h : (c.id? name).isSome = true) :
    ∃ t, c.find? name = some t := by
  rw [← Option.isSome_iff_exists, isSome_find?]
  exact h

/-! ### Orders -/

section Within

variable {names : List String} (hnames : ∀ name ∈ names, (c.id? name).isSome = true)
include hnames

/-- An order within names that are there comes to births. -/
lemma Order.births_of_within {o : Order K} (ho : o.Within names) : ∃ bs, o.births c = .ok bs := by
  rcases o with ⟨name, count, each⟩ | ⟨name, place⟩ | ⟨count, each⟩
  · obtain ⟨t, ht⟩ := Catalog.find?_of_isSome (hnames name ho.1)
    exact ⟨_, births_shots ht count each⟩
  · obtain ⟨t, ht⟩ := Catalog.find?_of_isSome (hnames name ho)
    rw [births, ht]
    exact ⟨_, rfl⟩
  · exact ⟨_, rfl⟩

lemma Order.birthsAll_of_within {os : List (Order K)} (hos : ∀ o ∈ os, o.Within names) :
    (Order.birthsAll c os).2 = none := by
  induction os with
  | nil => rfl
  | cons o os ih =>
    obtain ⟨bs, hbs⟩ := Order.births_of_within hnames (hos o (by simp))
    simp only [birthsAll, hbs]
    exact ih fun o ho => hos o (by simp [ho])

omit [Scalar K] in
lemma Order.Within.stepsIn {o : Order K} (ho : o.Within names) : o.StepsIn (Step.Grounded c) := by
  rcases o with ⟨name, count, each⟩ | ⟨name, place⟩ | ⟨count, each⟩
  · exact fun i n hn => hnames n (ho.2 i hn)
  · trivial
  · exact fun i n hn => hnames n (ho i hn)

end Within

/-- Neither a grounded step nor what it creates loses its ground. -/
lemma Step.handsOn_grounded : HandsOn (Step.Grounded c) := fun step v r hg => by
  have hwithin := step.within_run v r
  exact ⟨fun name hname => hg name (hwithin.step hname),
    fun o ho => (hwithin.orders o ho).stepsIn hg⟩

namespace Engine

variable (config : Config K) (world : World K)

/-! ### Every tick -/

/-- **A grounded step does not fail.** -/
theorem act_unfailing (scene : Scene K) {s : Shot K} (hs : s.Grounded c) (err : SpawnError) :
    (act c config world scene s).1.answer ≠ some (.error err) := by
  rcases hstep : s.step with _ | step
  · rw [act_of_none hstep]
    simp [judge]
  · have hwithin := step.within_run (view config world scene.stage.bodies s) scene.random
    have hnone : (birthsOf c config world scene s step).2 = none :=
      Order.birthsAll_of_within (hs step hstep) hwithin.orders
    rw [act_of_some hstep, runStep_eq, hnone]
    simp [judge]

lemma actAll_unfailing {ss : List (Shot K)} (hss : ∀ s ∈ ss, s.Grounded c) (scene : Scene K) :
    ∀ o ∈ (actAll c config world scene ss).1, ∀ err, o.answer ≠ some (.error err) := by
  induction ss generalizing scene with
  | nil => simp [actAll]
  | cons s ss ih =>
    rw [actAll_cons, List.forall_mem_cons]
    exact ⟨act_unfailing config world scene (hss s (by simp)),
      ih (fun t ht => hss t (by simp [ht])) _⟩

variable {config} {e : Engine K}

lemma pass_grounded (hc : e.catalog.Closed) (ho : e.registry.InOrder)
    (h : ∀ s ∈ e.shots, s.Grounded e.catalog) :
    (∀ o ∈ (e.pass world).1,
        (∀ err, o.answer ≠ some (.error err)) ∧ o.shot.Grounded e.catalog) ∧
      ∀ t ∈ (e.pass world).2.stage.queue.pending.toList, t.Grounded e.catalog := by
  have hlive : ∀ s ∈ e.registry.advance.live, s.Grounded e.catalog := by
    intro s hs
    rw [Registry.live_advance ho] at hs
    rcases List.mem_append.mp hs with hs | hs
    · obtain ⟨t, ht, rfl⟩ := List.mem_map.mp hs
      exact h t (List.mem_append_left _ ht)
    · exact h s (List.mem_append_right _ hs)
  obtain ⟨hshots, hqueue⟩ := stepIn_actAll e.config world hc Step.handsOn_grounded
    ⟨⟨e.registry.advance.queue, e.bodies⟩, e.random⟩ hlive (by simp [Registry.advance])
  exact ⟨fun o ho' => ⟨actAll_unfailing e.config world hlive _ o ho', hshots o ho'⟩, hqueue⟩

lemma Change.grounded {e' : Engine K} (hchange : Change (Step.Grounded e.catalog) e e')
    (hc : e.catalog.Closed) (h : ∀ s ∈ e.shots, s.Grounded e.catalog) :
    ∀ s ∈ e'.shots, s.Grounded e.catalog := by
  cases hchange with
  | create side bs hadmitted =>
    have hbirths : ∀ b ∈ bs, b.Grounded e.catalog := fun b hb step hstep => by
      cases hadmitted b hb step hstep with
      | brought h => exact h
      | bound ht h => exact hc _ ht step h
      | angled s | aimed s => exact fun _ h => absurd h List.not_mem_nil
    intro s hs
    rw [shots, shots_addAll] at hs
    rcases List.mem_append.mp hs with hs | hs
    · exact h s hs
    · exact Stage.stepIn_newborns hbirths s hs
  | tick world => exact stepIn_tick world hc Step.handsOn_grounded h
  | advance world =>
    exact stepIn_tick (e := { e with bodies := e.bodies.integrate }) world hc
      Step.handsOn_grounded h
  | remove p =>
    intro s hs
    rw [shots, removeWhere, Registry.shots_removeWhere] at hs
    exact h s (List.mem_filter.mp hs).1
  | move body m => exact h

/-- The steps of all shots are grounded, if those are that come from outside. -/
theorem Reached.grounded (hc : c.Closed) (h : Reached c config (Step.Grounded c) e) :
    ∀ s ∈ e.shots, s.Grounded c := by
  refine h.induct (P := fun e => ∀ s ∈ e.shots, s.Grounded c) (fun s hs => by cases hs) ?_
  intro e e' hr hchange hs
  obtain rfl := hr.setting.1
  exact hchange.grounded hc hs

/-- No step fails when it is run, and a template that has a name is created under it. -/
structure Unfailing (e : Engine K) : Prop where
  tick : ∀ world, ∀ o ∈ (e.pass world).1, ∀ err, o.answer ≠ some (.error err)
  advance : ∀ world, ∀ o ∈ (({ e with bodies := e.bodies.integrate } : Engine K).pass world).1,
    ∀ err, o.answer ≠ some (.error err)
  addShot : ∀ side place name, (e.catalog.id? name).isSome = true →
    ∃ r, e.addShot side place name = .ok r
  addAngledShot : ∀ side place name heading speed, (e.catalog.id? name).isSome = true →
    ∃ r, e.addAngledShot side place name heading speed = .ok r
  addAimedShot : ∀ side place name offset speed, (e.catalog.id? name).isSome = true →
    ∃ r, e.addAimedShot side place name offset speed = .ok r

/-- **References stay closed**: over a catalog that was loaded nothing ever fails, in any engine
that is reached with steps whose templates the catalog has. -/
theorem Reached.unfailing {ds : List Definition} {steps : StepLibrary K}
    (hload : Catalog.ofDefinitions ds steps = .ok c)
    (h : Reached c config (fun step => ∀ name ∈ step.references, (c.id? name).isSome = true) e) :
    Unfailing e := by
  have hc := Catalog.closed_of_load hload
  have hs := Reached.grounded hc h
  have ho := h.inOrder
  obtain rfl := h.setting.1
  have hdynamic : ∀ side place name step, (e.catalog.id? name).isSome = true →
      ∃ r, e.spawnDynamic side place name step = .ok r := by
    intro side place name step hname
    obtain ⟨t, ht⟩ := Catalog.find?_of_isSome hname
    rw [spawnDynamic, Stage.spawnDynamic, ht]
    exact ⟨_, rfl⟩
  constructor
  case tick => exact fun world o ho' => ((pass_grounded world hc ho hs).1 o ho').1
  case advance =>
    exact fun world o ho' =>
      ((pass_grounded (e := { e with bodies := e.bodies.integrate }) world hc ho hs).1 o ho').1
  case addShot =>
    intro side place name hname
    obtain ⟨t, ht⟩ := Catalog.find?_of_isSome hname
    rw [addShot, Stage.spawnTree, ht]
    exact ⟨_, rfl⟩
  case addAngledShot => exact fun side place name _ _ => hdynamic side place name _
  case addAimedShot => exact fun side place name _ _ => hdynamic side place name _

/-- A ring of pellets that was loaded, and a fractal of pellets from outside. -/
theorem unfailing_pellets :
    let ds : List Definition := [⟨[⟨"Shot Ring", [("gimmick", .string "ring")]⟩]⟩,
      ⟨[⟨"Shot Pellet", [("animation", .integer 7)]⟩]⟩]
    let steps : StepLibrary Float32 := .ofList [("ring", .burst ⟨"pellet", 8, 0, 1⟩)]
    let calls : List (Op Float32) :=
      [.addShot ⟨.none, .enemyShot⟩ Vec.zero "ring", .tick .empty,
        .spawnDynamic ⟨.none, .enemyShot⟩ Vec.zero "ring" (.fractal (.of "Pellet" 2 0 1)),
        .advance .empty]
    ∃ c, Catalog.ofDefinitions ds steps = .ok c ∧ (c.id? "Pellet").isSome = true ∧
      Unfailing (calls.foldl apply (.new c Config.default)) := by
  intro ds steps calls
  have hok : (Catalog.ofDefinitions ds steps).toOption.any (fun c => (c.id? "Pellet").isSome) =
      true := by decide +kernel
  rcases hload : Catalog.ofDefinitions ds steps with err | c
  · rw [hload] at hok
    cases hok
  · rw [hload] at hok
    have hpellet : (c.id? "Pellet").isSome = true := hok
    refine ⟨c, rfl, hpellet,
      Reached.unfailing hload (Reached.new.calls fun op hop step hstep => ?_)⟩
    have hfractal : step = .fractal (.of "Pellet" 2 0 1) := by
      simp only [calls, List.mem_cons, List.not_mem_nil, or_false] at hop
      rcases hop with rfl | rfl | rfl | rfl <;> cases hstep
      rfl
    rw [hfractal]
    exact List.forall_mem_singleton.mpr hpellet

end Engine

end Barrage
