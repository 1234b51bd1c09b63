import Barrage.Proofs.Catalog.Acceptance
import Barrage.Proofs.Descent

/-!
No stray shots.

Every shot has a body or a step. The loader sees to it that a template gives its shots one of the
two, whoever creates a shot otherwise brings a step along, and a tick drops what has been left with
neither, which only comes of a step that lets go of a shot without a body. And every shot that a
tick leaves is within bounds: it was judged where its own turn had left its body, and nobody moves
the body of another shot.
-/

namespace Barrage

open Engine (Reached)

variable {K : Type}

/-- The shot has a body or a step. -/
def Shot.Present (s : Shot K) : Prop := s.body.isSome = true ∨ s.step.isSome = true

/-- Every template gives its shots a body or a step. -/
def Catalog.Active (c : Catalog K) : Prop :=
  ∀ t ∈ c.templates, t.visual.isSome = true ∨ t.step.isSome = true

variable [Scalar K] {c : Catalog K}

namespace Catalog

variable {ds : List Definition} {steps : StepLibrary K}

/-- What the loader returns is active: what gives neither is inert, and refused. -/
lemma active_of_load (h : ofDefinitions ds steps = .ok c) : c.Active := by
  obtain ⟨named, hresolved⟩ := resolved_of_load h
  intro t ht
  obtain ⟨i, hi⟩ := List.mem_iff_getElem?.mp (Array.mem_toList_iff.mpr ht)
  obtain ⟨n, -, s, step?, subShots, -, hinert, hstep, -, rfl⟩ := forall₂_right hresolved.row hi
  rcases ha : s.animation with _ | animation
  · right
    rcases hg : s.gimmick with _ | gimmick
    · rw [isInert_iff.mpr ⟨ha, hg⟩] at hinert
      cases hinert
    · obtain ⟨hbound, hfound⟩ := resolveStep_ok hstep
      obtain ⟨step, hresolve⟩ := hfound gimmick hg
      simp [hbound, hg, hresolve]
  · left
    simp [ShotDefinition.visual, ha]

end Catalog

/-! ### Births -/

lemma Order.Bears.founded {o : Order K} {b : Birth K} (h : o.Bears c b) : b.Founded c := by
  cases h with
  | node ht hn => exact Birth.founded_tree ht _ _ (List.mem_map_of_mem hn)
  | shot | carrier => exact .inl rfl

/-- The births of orders bring steps along or are those of templates. -/
lemma Order.founded_birthsAll (os : List (Order K)) :
    ∀ b ∈ (Order.birthsAll c os).1, b.Founded c := by
  intro b hb
  obtain ⟨o, -, hbears⟩ := exists_bears hb
  exact hbears.founded

lemma Stage.present_newborns (hc : c.Active) {st : Stage K} {side : Side} {bs : List (Birth K)}
    (h : ∀ b ∈ bs, b.Founded c) : ∀ s ∈ st.newborns side bs, s.Present := by
  induction bs generalizing st with
  | nil => simp [newborns]
  | cons b bs ih =>
    rw [newborns, List.forall_mem_cons]
    refine ⟨?_, ih fun b' hb' => h b' (by simp [hb'])⟩
    have hbody : (st.newborn side b).body.isSome = b.visual.isSome := by
      rcases hv : b.visual with _ | v <;> simp [newborn, embody, hv]
    rw [Shot.Present, hbody]
    rcases h b (by simp) with hstep | ⟨t, ht, hvisual, hstep⟩
    · exact .inr hstep
    · rw [hvisual]
      exact (hc t ht).imp id fun ht' => by rw [newborn, hstep]; exact ht'

namespace Engine

variable {config : Config K} {A : Step K → Prop} {e : Engine K} {world : World K} {v : Visit K}

/-! ### Every shot -/

/-- Whoever stays after a visit has a body or a step. -/
lemma present_visit (h : act c config world v.before v.met = (v.outcome, v.after))
    (hkept : v.outcome.retired = false) : v.outcome.shot.Present := by
  by_contra hstray
  rw [Shot.Present, not_or, Bool.not_eq_true, Bool.not_eq_true, Option.isSome_eq_false_iff,
    Option.isSome_eq_false_iff, Option.isNone_iff_eq_none, Option.isNone_iff_eq_none] at hstray
  have hretired := (lawful_act h).retired.mpr (.inr (.inr hstray.symm))
  rw [hkept] at hretired
  cases hretired

/-- So has whoever is created in a visit. -/
lemma present_born (hc : c.Active)
    (h : act c config world v.before v.met = (v.outcome, v.after)) :
    ∀ s ∈ v.born, s.Present := by
  rcases hstep : v.met.step with _ | step
  · have hscene := ((lawful_act h).idle hstep).scene
    have hborn : v.born = [] := by
      rw [Visit.born, hscene, ← Array.length_toList, List.drop_length]
    simp [hborn]
  · obtain ⟨t, r, bs, failure, answer, -, hbirths, -, hstage, -, -⟩ := turned h hstep
    rw [born_of_stage hstage]
    refine Stage.present_newborns hc ?_
    have hfounded := Order.founded_birthsAll (c := c) t.orders
    rwa [hbirths] at hfounded

lemma present_tick (hc : e.catalog.Active) (world : World K) :
    ∀ s ∈ (e.tick world).2.shots, s.Present := by
  intro s hs
  rcases List.mem_append.mp hs with hs | hs
  · obtain ⟨v, hv, hkept, rfl⟩ := mem_live_tick.mp hs
    exact present_visit (act_tickVisits hv) hkept
  · rw [queue_tick] at hs
    obtain ⟨v, hv, hs⟩ := List.mem_flatMap.mp hs
    exact present_born hc (act_tickVisits hv) s hs

/-- **Every shot has a body or a step**, over a catalog whose templates give one of the two. -/
theorem Reached.present (hc : c.Active) (h : Reached c config A e) : ∀ s ∈ e.shots, s.Present := by
  induction h with
  | new => exact fun s hs => by cases hs
  | @call e op h hstep ih =>
    obtain rfl := h.setting.1
    rcases hside : op.side? with _ | side
    · rcases apply_of_side_none h.inOrder hside with ⟨b, rfl⟩ | hsub
      · rw [apply_op]
        exact present_tick (e := e.poised b) (by rwa [catalog_poised]) b.world
      · exact fun s hs => ih s (hsub hs)
    · obtain ⟨bs, heq, hfounded⟩ := apply_of_side (e := e) hside
      intro s hs
      rw [heq, shots, shots_addAll] at hs
      rcases List.mem_append.mp hs with hs | hs
      · exact ih s hs
      · exact Stage.present_newborns hc hfounded s hs

/-- Shots are met with the body and the step that they have. -/
lemma present_turns (ho : e.registry.InOrder) (h : ∀ s ∈ e.shots, s.Present) {b : Beat K}
    (hv : v ∈ e.turns b) : v.met.Present := by
  have hmet := List.mem_map_of_mem (f := fun v : Visit K => v.met) hv
  rw [turns, met_tickVisits, registry_poised, Registry.live_advance ho] at hmet
  rcases List.mem_append.mp hmet with hmet | hmet
  · obtain ⟨s, hs, hsv⟩ := List.mem_map.mp hmet
    rw [← hsv]
    exact h s (List.mem_append_left _ hs)
  · exact h _ (List.mem_append_right _ hmet)

/-- A shot that is left with neither had a step that has let go of it in this turn. -/
lemma detached_of_stray (h : act c config world v.before v.met = (v.outcome, v.after))
    (hmet : v.met.Present) (hbody : v.outcome.shot.body = none)
    (hstep : v.outcome.shot.step = none) : v.outcome.answer = some (.ok .detach) := by
  have hlaw := lawful_act h
  rw [shot_visit h] at hbody
  rcases hbound : v.met.step with _ | step
  · rcases hmet with hmet | hmet
    · rw [hbody] at hmet
      cases hmet
    · rw [hbound] at hmet
      cases hmet
  · obtain ⟨step', answer, hran⟩ := hlaw.ran step hbound
    by_contra hother
    rw [hran.answered, Option.some.injEq] at hother
    rw [hran.bound hother] at hstep
    cases hstep

/-! ### Within bounds -/

/-- A turn that keeps a shot leaves it within bounds. -/
lemma inside_act {l : Likeness K} {r : Random}
    (hkept : (l.act c config world r).1.retired = false) :
    (l.act c config world r).1.shot.position?.any config.isCulled = false := by
  have hjudge : ∀ (l' : Likeness K) (answer : Option Answer) (children : List (Likeness K)),
      (l'.judge config answer children).retired = false →
        (l'.judge config answer children).shot.position?.any config.isCulled = false := by
    intro l' answer children h
    simp only [Likeness.judge, Bool.or_eq_false_iff] at h
    exact h.1.2
  rw [Likeness.act] at hkept ⊢
  split at hkept <;> exact hjudge _ _ _ hkept

/-- **Whoever stays after a tick is within bounds**, whatever the others did in it. -/
theorem inside_tick (hb : Balanced e) (ho : e.registry.InOrder)
    (fits : (e.tick world).2.bodies.Fits) {s : Shot K} (hs : s ∈ (e.tick world).2.registry.live) :
    isOutside e.config (e.tick world).2.bodies s = false := by
  have hshots : s ∈ (e.tick world).2.shots := List.mem_append_left _ hs
  have hsame := likeness_tick hb ho fits hshots
  obtain ⟨v, hv, hkept, rfl⟩ := mem_live_tick.mp hs
  -- what the turn has left of the shot is what is to be seen of it after the tick
  have hfate : ((e.likeness v.met).act e.catalog e.config world v.before.random).1 =
      v.fate (e.pass world).2.stage.bodies := by rw [tick_likeness hb ho fits v hv]
  have hretired : (v.fate (e.pass world).2.stage.bodies).retired = false := hkept
  rw [← hfate] at hretired
  have hinside := inside_act hretired
  have hshot : (v.fate (e.pass world).2.stage.bodies).shot =
      (e.tick world).2.likeness v.outcome.shot := hsame
  rw [hfate, hshot, likeness, Shot.position?_likeness] at hinside
  exact hinside

lemma inside_beat (hb : Balanced e) (ho : e.registry.InOrder) {b : Beat K}
    (fits : (e.beat b).bodies.Fits) {s : Shot K} (hs : s ∈ (e.beat b).registry.live) :
    isOutside e.config (e.beat b).bodies s = false := by
  have hinside := inside_tick (balanced_poised hb b) (by rwa [registry_poised]) fits hs
  rwa [config_poised] at hinside

/-- No shot is a stray. -/
structure Unstrayed (e : Engine K) : Prop where
  /-- Every shot, live or queued, has a body or a step, -/
  present : ∀ s ∈ e.shots, s.body ≠ none ∨ s.step ≠ none
  /-- and its body is there. -/
  whole : e.bodies.Fits → ∀ s ∈ e.shots, ∀ b, s.body = some b →
    ∃ p, e.bodies.position? b = some p
  /-- A shot that is left with neither in a tick has lost its step in its turn there. -/
  detached : ∀ b : Beat K, ∀ v ∈ e.turns b, v.outcome.shot.body = none →
    v.outcome.shot.step = none → v.outcome.answer = some (.ok .detach)
  /-- After a tick no live shot has a body that lies too far outside of the playfield. -/
  inside : ∀ b : Beat K, (e.beat b).bodies.Fits → ∀ s ∈ (e.beat b).registry.live,
    ∀ body, s.body = some body →
      ∃ p, (e.beat b).bodies.position? body = some p ∧ e.config.isCulled p = false

lemma whole_of_balanced (hb : Balanced e) (ho : e.registry.InOrder) (fits : e.bodies.Fits)
    {s : Shot K} (hs : s ∈ e.shots) {b : BodyId} (hbody : s.body = some b) :
    ∃ p, e.bodies.position? b = some p := by
  obtain ⟨body, hget, -⟩ := (hb.oneToOne_of_fits ho fits).resolves s hs b hbody
  exact ⟨body.position, by rw [Bodies.position?, hget]; rfl⟩

/-- **No shot is a stray**, in any engine that is reached over a catalog that was loaded; and there
are handles enough as long as no more than `2 ^ 32` shots were created. -/
theorem Reached.unstrayed {ds : List Definition} {steps : StepLibrary K}
    (hload : Catalog.ofDefinitions ds steps = .ok c) (h : Reached c config A e) :
    Unstrayed e ∧ (e.registry.queue.issued ≤ UInt32.size → e.bodies.Fits) := by
  have ho := h.inOrder
  have hpresent := h.present (Catalog.active_of_load hload)
  refine ⟨?_, h.fits⟩
  constructor
  case present =>
    intro s hs
    rw [← Option.isSome_iff_ne_none, ← Option.isSome_iff_ne_none]
    exact hpresent s hs
  case whole => exact fun fits s hs b hbody => whole_of_balanced h.balanced ho fits hs hbody
  case detached =>
    exact fun b v hv => detached_of_stray (act_tickVisits hv) (present_turns ho hpresent hv)
  case inside =>
    intro b fits s hs body hbody
    have hb := h.beat b
    obtain ⟨p, hp⟩ :=
      whole_of_balanced hb.balanced hb.inOrder fits (List.mem_append_left _ hs) hbody
    have hinside := inside_beat h.balanced ho fits hs
    rw [isOutside, hbody, Option.bind_some, hp] at hinside
    exact ⟨p, hp, hinside⟩

/-- Over a catalog that was loaded, a dot that is sent off, a carrier whose step lets go of it, and
a dot that rests. The carrier is dropped in the first tick, and in the second the dot that flies,
which leaves the playfield. -/
theorem unstrayed_dots :
    let ds : List Definition := [⟨[⟨"Shot Dot", [("animation", .integer 7)]⟩,
      ⟨"Shot Quiet", [("gimmick", .string "off")]⟩]⟩]
    let steps : StepLibrary Float32 := .ofList [("off", .launch ⟨⟨400, 0⟩⟩)]
    let calls : List (Op Float32) :=
      [.spawnDynamic ⟨.none, .enemyShot⟩ Vec.zero "dot" (.launch ⟨⟨400, 0⟩⟩),
        .addShot ⟨.none, .enemyShot⟩ Vec.zero "quiet", .addShot ⟨.none, .enemyShot⟩ Vec.zero "dot",
        .tick .empty]
    ∃ c, Catalog.ofDefinitions ds steps = .ok c ∧
      let e := calls.foldl apply (.new c Config.default)
      let e' := e.beat (.advance .empty)
      Unstrayed e ∧ e'.bodies.Fits ∧ e.shots.map (·.id.raw) = [1, 3] ∧
        e'.shots.map (·.id.raw) = [3] := by
  intro ds steps calls
  have hok : (Catalog.ofDefinitions ds steps).toOption.any (fun c =>
      let e := calls.foldl apply (.new c Config.default)
      let e' := e.beat (.advance .empty)
      e.shots.map (·.id.raw) = [1, 3] ∧ e'.shots.map (·.id.raw) = [3] ∧
        e'.registry.queue.issued ≤ UInt32.size) = true := by decide +kernel
  rcases hload : Catalog.ofDefinitions ds steps with err | c
  · rw [hload] at hok
    cases hok
  · rw [hload] at hok
    simp only [Except.toOption, Option.any_some, decide_eq_true_eq] at hok
    obtain ⟨hfirst, hsecond, hissued⟩ := hok
    have hreached : Reached c Config.default (fun _ => True)
        (calls.foldl apply (.new c Config.default)) := Reached.new.calls fun _ _ _ _ => trivial
    exact ⟨c, rfl, (hreached.unstrayed hload).1,
      ((hreached.beat (.advance .empty)).unstrayed hload).2 hissued, hfirst, hsecond⟩

end Engine

end Barrage
