import Barrage.Engine
import Barrage.Proofs.Creation

/-!
The visits of a pass.

A pass goes from shot to shot. Each visit begins with the scene that the one before it has left,
and all that it can do to the scene is to move the shot's own body, to draw random numbers and to
add a row of births on the side of the shot; of the shot itself only the step changes.
-/

namespace Barrage.Engine

variable {K : Type} [Scalar K]

structure Visit (K : Type) where
  /-- The shot as it is met. -/
  met : Shot K
  before : Scene K
  after : Scene K
  outcome : Outcome K

variable (c : Catalog K) (config : Config K) (world : World K)

/-- The visits of a pass over shots, in order. -/
def visits : Scene K → List (Shot K) → List (Visit K)
  | _, [] => []
  | scene, s :: ss =>
    ⟨s, scene, (act c config world scene s).2, (act c config world scene s).1⟩ ::
      visits (act c config world scene s).2 ss

/-- Each visit begins with the scene that the one before it has left. -/
def Linked (start : Scene K) : List (Visit K) → Scene K → Prop
  | [], final => final = start
  | v :: vs, final => v.before = start ∧ Linked v.after vs final

lemma actAll_cons (scene : Scene K) (s : Shot K) (ss : List (Shot K)) :
    actAll c config world scene (s :: ss) =
      ((act c config world scene s).1 ::
          (actAll c config world (act c config world scene s).2 ss).1,
        (actAll c config world (act c config world scene s).2 ss).2) := rfl

lemma outcomes_visits (scene : Scene K) (ss : List (Shot K)) :
    (visits c config world scene ss).map (·.outcome) = (actAll c config world scene ss).1 := by
  induction ss generalizing scene with
  | nil => rfl
  | cons s ss ih => rw [visits, List.map_cons, ih, actAll_cons]

lemma met_visits (scene : Scene K) (ss : List (Shot K)) :
    (visits c config world scene ss).map (·.met) = ss := by
  induction ss generalizing scene with
  | nil => rfl
  | cons s ss ih => rw [visits, List.map_cons, ih]

lemma linked_visits (scene : Scene K) (ss : List (Shot K)) :
    Linked scene (visits c config world scene ss) (actAll c config world scene ss).2 := by
  induction ss generalizing scene with
  | nil => rfl
  | cons s ss ih => exact ⟨rfl, ih _⟩

variable {c config world}

lemma act_of_mem_visits {scene : Scene K} {ss : List (Shot K)} {v : Visit K}
    (h : v ∈ visits c config world scene ss) :
    act c config world v.before v.met = (v.outcome, v.after) := by
  induction ss generalizing scene with
  | nil => simp [visits] at h
  | cons s ss ih =>
    rcases List.mem_cons.mp h with rfl | h'
    · rfl
    · exact ih h'

/-! ### One visit -/

/-- The turn of a shot's step, and the random numbers after it. -/
def turn (config : Config K) (world : World K) (scene : Scene K) (s : Shot K) (step : Step K) :
    Turn K × Random :=
  step.run (view config world scene.stage.bodies s) scene.random

/-- The births that come of the turn of a shot's step, and what it fails for. -/
def birthsOf (c : Catalog K) (config : Config K) (world : World K) (scene : Scene K) (s : Shot K)
    (step : Step K) : List (Birth K) × Option SpawnError :=
  Order.birthsAll c (turn config world scene s step).1.orders

lemma runStep_eq (scene : Scene K) (s : Shot K) (step : Step K) :
    runStep c config world scene s step =
      (⟨Stage.addAll ⟨scene.stage.queue,
            moveAll scene.stage.bodies s.body (turn config world scene s step).1.motions⟩
          ⟨s.owner, s.list⟩ (birthsOf c config world scene s step).1,
          (turn config world scene s step).2⟩,
        (turn config world scene s step).1.step,
        match (birthsOf c config world scene s step).2 with
        | some e => .error e
        | none => .ok (turn config world scene s step).1.signal) := by
  simp only [runStep, Stage.obeyAll_eq]
  rfl

lemma act_of_none {scene : Scene K} {s : Shot K} (h : s.step = none) :
    act c config world scene s = (judge config scene.stage.bodies s none, scene) := by
  rw [act, h]

lemma act_of_some {scene : Scene K} {s : Shot K} {step : Step K} (h : s.step = some step) :
    act c config world scene s =
      (judge config (runStep c config world scene s step).1.stage.bodies
          { s with
            step := leftBound (runStep c config world scene s step).2.1
              (runStep c config world scene s step).2.2 }
          (some (runStep c config world scene s step).2.2),
        (runStep c config world scene s step).1) := by
  rw [act, h]

variable (c config world) in
/-- What a visit does to the stage. -/
lemma stage_act (scene : Scene K) (s : Shot K) : ∃ motions bs,
    (act c config world scene s).2.stage =
      Stage.addAll ⟨scene.stage.queue, moveAll scene.stage.bodies s.body motions⟩
        ⟨s.owner, s.list⟩ bs := by
  rcases hs : s.step with _ | step
  · refine ⟨[], [], ?_⟩
    rw [act_of_none hs]
    rcases hb : s.body with _ | b <;> simp [moveAll]
  · rw [act_of_some hs, runStep_eq]
    exact ⟨_, _, rfl⟩

variable (c config world) in
/-- What a visit does to its shot. -/
lemma shot_act (scene : Scene K) (s : Shot K) :
    (act c config world scene s).1.shot =
      { s with step := (act c config world scene s).1.shot.step } := by
  rcases hs : s.step with _ | step
  · rw [act_of_none hs]
    rfl
  · rw [act_of_some hs]
    rfl

/-- What a pass keeps of the shots that it visits: all but the steps. -/
lemma map_shot_actAll {β : Type} (f : Shot K → β) (hf : ∀ s step, f { s with step } = f s)
    (scene : Scene K) (ss : List (Shot K)) :
    (actAll c config world scene ss).1.map (fun o => f o.shot) = ss.map f := by
  induction ss generalizing scene with
  | nil => rfl
  | cons s ss ih => rw [actAll_cons, List.map_cons, List.map_cons, ih, shot_act, hf]

/-- What every visit keeps, a pass keeps. -/
lemma actAll_induct {P : Stage K → Prop}
    (move : ∀ st body motions, P st → P ⟨st.queue, moveAll st.bodies body motions⟩)
    (add : ∀ st side b, P st → P (st.add side b))
    (scene : Scene K) (ss : List (Shot K)) (h : P scene.stage) :
    P (actAll c config world scene ss).2.stage := by
  have addAll : ∀ (bs : List (Birth K)) (side : Side) (st : Stage K), P st →
      P (st.addAll side bs) := by
    intro bs side
    induction bs with
    | nil => exact fun _ h => h
    | cons b bs ih => exact fun st h => ih _ (add st side b h)
  induction ss generalizing scene with
  | nil => exact h
  | cons s ss ih =>
    obtain ⟨motions, bs, hst⟩ := stage_act c config world scene s
    rw [actAll_cons]
    refine ih _ ?_
    rw [hst]
    exact addAll bs _ _ (move _ _ _ h)

/-! ### A tick -/

variable (e : Engine K)

/-- The visited shots that a tick removes. -/
def gone (world : World K) : List (Shot K) :=
  ((e.pass world).1.filter fun o => o.retired).map (·.shot)

/-- The visited shots that a tick leaves. -/
def kept (world : World K) : List (Shot K) :=
  ((e.pass world).1.filter fun o => !o.retired).map (·.shot)

lemma perm_gone_kept (world : World K) :
    ((e.pass world).1.map (·.shot)).Perm (e.gone world ++ e.kept world) := by
  rw [gone, kept, ← List.map_append]
  exact ((List.filter_append_perm _ _).map _).symm

lemma map_shot_pass {β : Type} (f : Shot K → β) (hf : ∀ s step, f { s with step } = f s)
    (world : World K) :
    (e.pass world).1.map (fun o => f o.shot) = e.registry.advance.live.map f :=
  map_shot_actAll f hf _ _

/-- What stays of a tick. -/
lemma tick_eq (world : World K) : (e.tick world).2 =
    { e with
      registry := ⟨e.kept world, (e.pass world).2.stage.queue⟩
      bodies := release (e.pass world).2.stage.bodies (e.gone world)
      random := (e.pass world).2.random
      ticks := e.ticks + 1 } := by
  simp only [tick, List.partition_eq_filter_filter]
  rfl

lemma summary_tick (world : World K) : (e.tick world).1 = {
    merged := e.registry.queue.pending.size
    stepped := (e.pass world).1.countP (·.answer.isSome)
    culled := (e.pass world).1.countP (·.culled)
    retired := (e.pass world).1.countP (·.retired)
    live := (e.tick world).2.size } := by
  have hgone : (e.pass world).1.countP (·.retired) =
      ((e.pass world).1.filter (·.retired)).length := List.countP_eq_length_filter
  rw [hgone]
  simp only [tick, List.partition_eq_filter_filter]
  rfl

lemma shots_tick (world : World K) :
    (e.tick world).2.shots = e.kept world ++ (e.pass world).2.stage.queue.pending.toList := by
  rw [tick_eq]
  rfl

lemma bodies_tick (world : World K) :
    (e.tick world).2.bodies = release (e.pass world).2.stage.bodies (e.gone world) := by
  rw [tick_eq]

/-- The shots that a tick creates are numbered on from the last number issued before it. -/
lemma numbered_pass (world : World K) : ∃ k,
    (e.pass world).2.stage.queue.pending.toList.map (·.id.raw) =
        List.range' (e.registry.queue.issued + 1) k ∧
      (e.pass world).2.stage.queue.issued = e.registry.queue.issued + k := by
  refine actAll_induct (P := fun st => ∃ k,
    st.queue.pending.toList.map (·.id.raw) = List.range' (e.registry.queue.issued + 1) k ∧
      st.queue.issued = e.registry.queue.issued + k) ?_ ?_ _ _ ⟨0, ?_⟩
  · exact fun _ _ _ h => h
  · rintro st side b ⟨k, hids, hissued⟩
    refine ⟨k + 1, ?_, ?_⟩
    · rw [Stage.add_eq, Array.toList_push, List.map_append, hids, List.range'_concat]
      simp only [List.map_cons, List.map_nil, Stage.newborn, hissued]
      congr 2
      omega
    · rw [Stage.add_eq, hissued, Nat.add_assoc]
  · simp [Registry.advance]

end Barrage.Engine
