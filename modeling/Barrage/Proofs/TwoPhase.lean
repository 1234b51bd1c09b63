import Barrage.Proofs.Runs
import Barrage.Scalar.Single

/-!
A tick is a pass in two phases.

In the first phase every shot is visited once, in the order of the numbers, and runs its step if it
has one; nothing is removed, and what is created waits in the queue. In the second phase the shots
that are done with are removed along with their bodies. Every visit is judged by the same law, and
what is left of the shots, what waits in the queue and the figures of the summary are read off the
visits.
-/

namespace Barrage.Engine

variable {K : Type} [Scalar K]

/-! ### The law of a visit -/

namespace Visit

/-- The step finished its shot, or it failed. -/
def Finished (v : Visit K) : Prop :=
  v.outcome.answer = some (.ok .finish) ∨ ∃ err, v.outcome.answer = some (.error err)

/-- The body of the shot lies too far outside of the playfield after the step has run. -/
def Outside (config : Config K) (v : Visit K) : Prop :=
  ∃ b p, v.met.body = some b ∧ v.after.stage.bodies.position? b = some p ∧ config.isCulled p = true

/-- The shots that were created in a visit. -/
def born (v : Visit K) : List (Shot K) :=
  v.after.stage.queue.pending.toList.drop v.before.stage.queue.pending.size

/-- A shot without a step is left alone. -/
structure Idle (v : Visit K) : Prop where
  answer : v.outcome.answer = none
  shot : v.outcome.shot = v.met
  scene : v.after = v.before

/-- A step is run once, for its shot, and only its answer decides whether it stays bound. -/
structure Ran (c : Catalog K) (config : Config K) (world : World K) (v : Visit K)
    (step step' : Step K) (answer : Answer) : Prop where
  run : runStep c config world v.before v.met step = (v.after, step', answer)
  answered : v.outcome.answer = some answer
  detached : answer = .ok .detach → v.outcome.shot = { v.met with step := none }
  bound : answer ≠ .ok .detach → v.outcome.shot = { v.met with step := some step' }

/-- The law that every visit of a tick follows. -/
structure Lawful (c : Catalog K) (config : Config K) (world : World K) (v : Visit K) : Prop where
  idle : v.met.step = none → v.Idle
  ran : ∀ step, v.met.step = some step → ∃ step' answer, v.Ran c config world step step' answer
  retired : v.outcome.retired = true ↔
    v.Finished ∨ v.Outside config ∨ (v.outcome.shot.step = none ∧ v.outcome.shot.body = none)
  culled : v.outcome.culled = true ↔ v.Outside config ∧ ¬ v.Finished
  /-- What is created goes to the end of the queue. -/
  queued : v.after.stage.queue.pending.toList = v.before.stage.queue.pending.toList ++ v.born
  numbered : v.born.map (·.id.raw) = List.range' (v.before.stage.queue.issued + 1) v.born.length
  issued : v.after.stage.queue.issued = v.before.stage.queue.issued + v.born.length
  /-- What is created is on the side of the shot and starts at frame zero. -/
  fresh : ∀ s ∈ v.born, s.frame = 0 ∧ s.owner = v.met.owner ∧ s.list = v.met.list

end Visit

variable {c : Catalog K} {config : Config K} {world : World K}

omit [Scalar K] in
lemma isLast_iff {a : Answer} : a.isLast = true ↔ a = .ok .finish ∨ ∃ err, a = .error err := by
  rcases a with err | signal
  · simp [Answer.isLast]
  · cases signal <;> simp [Answer.isLast]

lemma isOutside_iff {bodies : Bodies K} {s : Shot K} : isOutside config bodies s = true ↔
    ∃ b p, s.body = some b ∧ bodies.position? b = some p ∧ config.isCulled p = true := by
  rcases hb : s.body with _ | b
  · simp [isOutside, hb]
  · rcases hp : bodies.position? b with _ | p <;> simp [isOutside, hb, hp]

variable {v : Visit K}

/-- A visit is judged by the answer of the step and by the shot and the bodies as they are then. -/
lemma judged (h : act c config world v.before v.met = (v.outcome, v.after)) :
    v.outcome = judge config v.after.stage.bodies v.outcome.shot v.outcome.answer := by
  rcases hs : v.met.step with _ | step
  · rw [act_of_none hs, Prod.mk.injEq] at h
    obtain ⟨ho, ha⟩ := h
    rw [← ho, ← ha]
    rfl
  · rw [act_of_some hs, Prod.mk.injEq] at h
    obtain ⟨ho, ha⟩ := h
    rw [← ho, ← ha]
    rfl

lemma idle_of_none (h : act c config world v.before v.met = (v.outcome, v.after))
    (hs : v.met.step = none) : v.Idle := by
  rw [act_of_none hs, Prod.mk.injEq] at h
  obtain ⟨ho, ha⟩ := h
  exact ⟨by rw [← ho]; rfl, by rw [← ho]; rfl, ha.symm⟩

lemma ran_of_some (h : act c config world v.before v.met = (v.outcome, v.after)) {step : Step K}
    (hs : v.met.step = some step) : ∃ step' answer, v.Ran c config world step step' answer := by
  rcases hr : runStep c config world v.before v.met step with ⟨scene, step', answer⟩
  rw [act_of_some hs, hr, Prod.mk.injEq] at h
  obtain ⟨ho, ha⟩ := h
  have hshot : v.outcome.shot = { v.met with step := leftBound step' answer } := by rw [← ho]; rfl
  refine ⟨step', answer, by rw [hr, ← ha], by rw [← ho]; rfl, fun hd => ?_, fun hd => ?_⟩
  · rw [hshot, hd]
    rfl
  · rw [hshot]
    rcases answer with err | signal
    · rfl
    · cases signal
      · rfl
      · rfl
      · exact absurd rfl hd

/-- What a visit adds to the queue. -/
lemma born_act (h : act c config world v.before v.met = (v.outcome, v.after)) :
    v.after.stage.queue.pending.toList = v.before.stage.queue.pending.toList ++ v.born ∧
      v.born.map (·.id.raw) = List.range' (v.before.stage.queue.issued + 1) v.born.length ∧
      v.after.stage.queue.issued = v.before.stage.queue.issued + v.born.length ∧
      ∀ s ∈ v.born, s.frame = 0 ∧ s.owner = v.met.owner ∧ s.list = v.met.list := by
  obtain ⟨motions, bs, hstage⟩ := stage_act c config world v.before v.met
  rw [h] at hstage
  have hpending := congrArg (fun st : Stage K => st.queue.pending.toList) hstage
  have hissued := congrArg (fun st : Stage K => st.queue.issued) hstage
  simp only [Stage.pending_addAll, Stage.issued_addAll] at hpending hissued
  have hborn : v.born = Stage.newborns
      ⟨v.before.stage.queue, moveAll v.before.stage.bodies v.met.body motions⟩
      ⟨v.met.owner, v.met.list⟩ bs := by
    rw [Visit.born, hpending, ← Array.length_toList, List.drop_left]
  have hids := Stage.ids_newborns
    ⟨v.before.stage.queue, moveAll v.before.stage.bodies v.met.body motions⟩
    ⟨v.met.owner, v.met.list⟩ bs
  have hlength : v.born.length = bs.length := by
    rw [hborn]
    simpa using congrArg List.length hids
  refine ⟨by rw [hborn, hpending], ?_, by rw [hissued, hlength], fun s hs => ?_⟩
  · rw [hlength, hborn, hids]
  · rw [hborn] at hs
    exact Stage.of_mem_newborns hs

/-- **Every visit follows the law.** -/
theorem lawful_act (h : act c config world v.before v.met = (v.outcome, v.after)) :
    v.Lawful c config world := by
  obtain ⟨hqueued, hnumbered, hissued, hfresh⟩ := born_act h
  have hj := judged h
  have hbody : v.outcome.shot.body = v.met.body := by
    have := shot_act c config world v.before v.met
    rw [h] at this
    rw [this]
  have hfinished : v.outcome.answer.any Answer.isLast = true ↔ v.Finished := by
    rcases ha : v.outcome.answer with _ | a
    · simp [Visit.Finished, ha]
    · simp [Visit.Finished, ha, isLast_iff]
  have houtside : isOutside config v.after.stage.bodies v.outcome.shot = true ↔
      v.Outside config := by
    rw [isOutside_iff, hbody]
    rfl
  refine ⟨idle_of_none h, fun step => ran_of_some h, ?_, ?_, hqueued, hnumbered, hissued, hfresh⟩
  · have hretired : v.outcome.retired = (v.outcome.answer.any Answer.isLast ||
        isOutside config v.after.stage.bodies v.outcome.shot ||
        (v.outcome.shot.body.isNone && v.outcome.shot.step.isNone)) := congrArg Outcome.retired hj
    rw [hretired]
    simp only [Bool.or_eq_true, Bool.and_eq_true, Option.isNone_iff_eq_none, hfinished, houtside,
      or_assoc, and_comm]
  · have hculled : v.outcome.culled = (isOutside config v.after.stage.bodies v.outcome.shot &&
        !v.outcome.answer.any Answer.isLast) := congrArg Outcome.culled hj
    rw [hculled, Bool.and_eq_true, houtside, Bool.not_eq_true', ← Bool.not_eq_true, hfinished]

lemma Visit.Lawful.isSome_answer (h : v.Lawful c config world) :
    v.outcome.answer.isSome = v.met.step.isSome := by
  rcases hs : v.met.step with _ | step
  · rw [(h.idle hs).answer]
    rfl
  · obtain ⟨step', answer, hran⟩ := h.ran step hs
    rw [hran.answered]
    rfl

/-! ### The tick -/

/-- What waits in the queue after linked visits is what they have created, in order. -/
lemma Linked.queue {start final : Scene K} {vs : List (Visit K)} (h : Linked start vs final)
    (hl : ∀ v ∈ vs, v.Lawful c config world) :
    final.stage.queue.pending.toList =
        start.stage.queue.pending.toList ++ vs.flatMap Visit.born ∧
      (vs.flatMap Visit.born).map (·.id.raw) =
        List.range' (start.stage.queue.issued + 1) (vs.flatMap Visit.born).length ∧
      final.stage.queue.issued = start.stage.queue.issued + (vs.flatMap Visit.born).length := by
  induction vs generalizing start with
  | nil =>
    obtain rfl : final = start := h
    simp
  | cons v vs ih =>
    obtain ⟨rfl, hrest⟩ := h
    have hv := hl v (by simp)
    obtain ⟨hpending, hids, hissued⟩ := ih hrest fun w hw => hl w (by simp [hw])
    rw [List.flatMap_cons, List.map_append, List.length_append]
    refine ⟨?_, ?_, ?_⟩
    · rw [hpending, hv.queued, List.append_assoc]
    · rw [hv.numbered, hids, hv.issued, ← List.range'_append_1]
      congr 2
      omega
    · rw [hissued, hv.issued]
      omega

/-- A tick of an engine, as the visits of its shots. -/
structure TwoPhase (e : Engine K) (world : World K) (vs : List (Visit K)) (final : Scene K)
    (result : TickSummary × Engine K) : Prop where
  /-- Every live shot and every queued one is visited, once. -/
  visited : vs.map (·.met) = e.registry.live.map Shot.aged ++ e.registry.queue.pending.toList
  increasing : (vs.map (·.met.id.raw)).Pairwise (· < ·)
  linked : Linked ⟨⟨⟨#[], e.registry.queue.issued⟩, e.bodies⟩, e.random⟩ vs final
  lawful : ∀ v ∈ vs, v.Lawful e.catalog e.config world
  live : result.2.registry.live = (vs.filter (!·.outcome.retired)).map (·.outcome.shot)
  queue : result.2.registry.queue.pending.toList = vs.flatMap Visit.born
  numbered : (vs.flatMap Visit.born).map (·.id.raw) =
    List.range' (e.registry.queue.issued + 1) (vs.flatMap Visit.born).length
  issued : result.2.registry.queue.issued =
    e.registry.queue.issued + (vs.flatMap Visit.born).length
  /-- What is created in the tick is not visited in it. -/
  unvisited : ∀ v ∈ vs, ∀ s ∈ vs.flatMap Visit.born, v.met.id.raw < s.id.raw
  bodies : result.2.bodies =
    release final.stage.bodies ((vs.filter (·.outcome.retired)).map (·.outcome.shot))
  rest : result.2.catalog = e.catalog ∧ result.2.config = e.config ∧
    result.2.random = final.random ∧ result.2.ticks = e.ticks + 1
  summary : result.1 = {
    merged := e.registry.queue.pending.size
    stepped := e.shots.countP (·.step.isSome)
    culled := vs.countP (·.outcome.culled)
    retired := vs.countP (·.outcome.retired)
    live := result.2.size }

/-- **A tick is a pass in two phases**, in every engine that is reached and whatever the world. -/
theorem tick_twoPhase {A : Step K → Prop} {e : Engine K} (h : Reached c config A e)
    (world : World K) : ∃ vs final, TwoPhase e world vs final (e.tick world) := by
  have ho := h.inOrder
  let start : Scene K := ⟨⟨e.registry.advance.queue, e.bodies⟩, e.random⟩
  let vs := visits e.catalog e.config world start e.registry.advance.live
  have houtcomes : vs.map (·.outcome) = (e.pass world).1 := outcomes_visits ..
  have hmet : vs.map (·.met) = e.registry.advance.live := met_visits ..
  have hlinked : Linked start vs (e.pass world).2 := linked_visits ..
  have hlawful : ∀ v ∈ vs, v.Lawful e.catalog e.config world := fun v hv =>
    lawful_act (act_of_mem_visits hv)
  obtain ⟨hqueue, hnumbered, hissued⟩ := hlinked.queue hlawful
  have hids : vs.map (·.met.id.raw) = e.registry.shots.map (·.id.raw) := by
    rw [← Registry.ids_live_advance ho, ← hmet, List.map_map]
    rfl
  have hfilter : ∀ p : Outcome K → Bool, ((e.pass world).1.filter p).map (·.shot) =
      (vs.filter fun v => p v.outcome).map (·.outcome.shot) := fun p => by
    rw [← houtcomes, List.filter_map, List.map_map]
    rfl
  have hcount : ∀ p : Outcome K → Bool, (e.pass world).1.countP p =
      vs.countP fun v => p v.outcome := fun p => by
    rw [← houtcomes, List.countP_map]
    rfl
  refine ⟨vs, (e.pass world).2, ?_⟩
  constructor
  case visited => rw [hmet, Registry.live_advance ho]
  case increasing => exact hids ▸ ho.sorted
  case linked => exact hlinked
  case lawful => exact hlawful
  case live =>
    rw [tick_eq]
    exact hfilter _
  case queue =>
    rw [tick_eq]
    simpa [start, Registry.advance] using hqueue
  case numbered => exact hnumbered
  case issued =>
    rw [tick_eq]
    exact hissued
  case unvisited =>
    intro v hv s hs
    have hs' := List.mem_map_of_mem (f := fun s : Shot K => s.id.raw) hs
    have hv' : v.met.id.raw ∈ e.registry.shots.map (·.id.raw) :=
      hids ▸ List.mem_map_of_mem (f := fun v : Visit K => v.met.id.raw) hv
    obtain ⟨t, ht, hid⟩ := List.mem_map.mp hv'
    have hle := (ho.issued t ht).2
    rw [hnumbered, List.mem_range'_1] at hs'
    simp only [start, Registry.advance] at hs'
    omega
  case bodies =>
    rw [bodies_tick]
    exact congrArg _ (hfilter _)
  case rest =>
    rw [tick_eq]
    exact ⟨rfl, rfl, rfl, rfl⟩
  case summary =>
    have hstepped : vs.countP (·.outcome.answer.isSome) = e.shots.countP (·.step.isSome) := by
      calc vs.countP (·.outcome.answer.isSome)
          = vs.countP (·.met.step.isSome) :=
            List.countP_congr fun v hv => by rw [(hlawful v hv).isSome_answer]
        _ = e.registry.advance.live.countP (·.step.isSome) := by
            rw [← hmet, List.countP_map]
            rfl
        _ = e.shots.countP (·.step.isSome) := by
            rw [Registry.live_advance ho, shots, Registry.shots, List.countP_append,
              List.countP_append, List.countP_map]
            rfl
    rw [summary_tick, hcount, hcount, hcount, hstepped]

/-- An engine with a bullet of the player, which is live, and a carrier, which is queued. -/
theorem tick_twoPhase_bullet :
    let look : Template Float32 := ⟨"pellet", some ⟨7, 1, 2⟩, none, none, Vec.zero, []⟩
    let calls : List (Op Float32) :=
      [.addAngledShot ⟨.player, .playerShot⟩ ⟨160, 120⟩ "pellet" 0 3, .tick .empty,
        .spawnCarrier ⟨.none, .enemyShot⟩ Vec.zero (.angled ⟨90, 1⟩)]
    let e := calls.foldl apply (.new ⟨#[look]⟩ Config.default)
    (∃ vs final, TwoPhase e .empty vs final (e.tick .empty)) ∧
      e.registry.queue.pending.size = 1 := by
  intro look calls e
  have hreached : Reached ⟨#[look]⟩ Config.default (fun _ => True) e :=
    Reached.new.calls fun _ _ _ _ => trivial
  exact ⟨tick_twoPhase hreached .empty, by decide +kernel⟩

end Barrage.Engine
