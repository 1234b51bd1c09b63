import Barrage.Proofs.Identity
import Barrage.Proofs.Likeness
import Barrage.Scalar.Single

/-!
What a bomb clears.

A bomb clears the bullets of a list and spares its hazards, and which of the two a shot is, it asks
the step. The step answers by its kind, but what counts is what it does: a step that is not
persistent lets go of its shot in its first turn, whatever it finds there, and one that goes on is
persistent and stays so. So the two accounts agree. A live shot that has kept its step is a hazard,
and a bullet has a step only as long as it waits in the queue.
-/

namespace Barrage

variable {K : Type}

/-! ### The turn of a step -/

/-- The steps that send a shot off and are done with it. -/
inductive Step.Launching : Step K → Prop where
  | launch (s : Launch K) : Launching (.launch s)
  | angled (s : Angled K) : Launching (.angled s)
  | aimed (s : Aimed K) : Launching (.aimed s)
  | scatter (s : Scatter K) : Launching (.scatter s)
  /-- A fractal that has nothing left to split into. -/
  | leaf (s : Fractal K) (h : s.depth = 0) : Launching (.fractal s)

/-- The steps that are not persistent are those that send a shot off. -/
lemma Step.isPersistent_eq_false {s : Step K} : s.isPersistent = false ↔ s.Launching := by
  constructor
  · intro h
    cases s with
    | launch s => exact .launch s
    | angled s => exact .angled s
    | aimed s => exact .aimed s
    | scatter s => exact .scatter s
    | fractal s =>
      refine .leaf s (UInt32.toNat_inj.mp ?_)
      simpa [Step.isPersistent, UInt32.lt_iff_toNat_lt] using h
    | _ => cases h
  · rintro (s | s | s | s | ⟨s, h⟩)
    case leaf => simp [Step.isPersistent, h]
    all_goals rfl

variable [Scalar K]

/-- A step that sends a shot off lets go of it, on whatever frame it is run. -/
lemma Step.Launching.detach {s : Step K} (h : s.Launching) (v : View K) (r : Random) :
    (s.run v r).1.signal = .detach := by
  cases h with
  | launch s | angled s | aimed s | scatter s => rfl
  | leaf s h =>
    show (s.run v).signal = .detach
    simp only [Fractal.run, h, if_true]

omit [Scalar K] in
lemma step_emit (v : View K) (step : Step K) (orders : Vec K → List (Order K)) :
    (emit v step orders).step = step := by
  rw [emit]
  split <;> rfl

lemma Homing.isPersistent_run (s : Homing K) (v : View K) :
    (s.run v).step.isPersistent = true := by
  simp only [Homing.run]
  split
  · rfl
  · split <;> rfl

lemma Wobble.step_run (s : Wobble K) (v : View K) (r : Random) :
    (s.run v r).1.step = .wobble s := by
  rw [Wobble.run]
  split
  · rfl
  · split <;> rfl

lemma Orbit.isPersistent_run (s : Orbit K) (v : View K) :
    (s.run v).step.isPersistent = true := by
  have hrelease : (s.release v).step = .orbit s := by
    rw [Orbit.release]
    split <;> rfl
  rw [Orbit.run]
  split
  · rw [hrelease]
    rfl
  · split
    · rfl
    · rw [hrelease]
      rfl

lemma Rain.step_run (s : Rain K) (v : View K) (r : Random) : (s.run v r).1.step = .rain s := by
  rw [Rain.run]
  split <;> rfl

lemma Fractal.step_run (s : Fractal K) (v : View K) : (s.run v).step = .fractal s := by
  rw [Fractal.run]
  split
  · rfl
  · split <;> rfl

/-- A turn makes no hazard of a bullet, and no bullet of a hazard. -/
lemma Step.isPersistent_run (s : Step K) (v : View K) (r : Random) :
    (s.run v r).1.step.isPersistent = s.isPersistent := by
  cases s with
  | launch s | accelerate s | angled s | aimed s | scatter s | sway s | curve s | zigzag s
  | burst s | fan s | volley s | laser s | segment s | laserBurst s => rfl
  | homing s => exact s.isPersistent_run v
  | wobble s => exact congrArg isPersistent (s.step_run v r)
  | orbit s => exact s.isPersistent_run v
  | flower s | spiral s | stream s | cascade s => exact congrArg isPersistent (step_emit v _ _)
  | rain s => exact congrArg isPersistent (s.step_run v r)
  | fractal s => exact congrArg isPersistent (s.step_run v)

/-- **A step that goes on after its turn is persistent.** -/
theorem Step.isPersistent_of_keep {s : Step K} {v : View K} {r : Random}
    (h : (s.run v r).1.signal = .keep) : (s.run v r).1.step.isPersistent = true := by
  rw [s.isPersistent_run v r]
  by_contra hbullet
  rw [Bool.not_eq_true, isPersistent_eq_false] at hbullet
  rw [hbullet.detach v r] at h
  cases h

/-! ### Live shots -/

/-- A shot that goes on working tick by tick. -/
def Shot.Hazard (s : Shot K) : Prop := ∃ step, s.step = some step ∧ step.isPersistent = true

omit [Scalar K] in
lemma Shot.isSimple_eq_false {s : Shot K} : s.isSimple = false ↔ s.Hazard := by
  rcases hs : s.step with _ | step <;> simp [isSimple, Hazard, hs]

namespace Engine

variable {c : Catalog K} {config : Config K} {A : Step K → Prop} {e : Engine K}
  {world : World K} {v : Visit K}

/-- If a visit leaves a shot its step, and leaves the shot, the step is persistent. -/
lemma hazard_visit (h : act c config world v.before v.met = (v.outcome, v.after))
    (hkept : v.outcome.retired = false) (hstep : v.outcome.shot.step.isSome = true) :
    v.outcome.shot.Hazard := by
  have hlaw := lawful_act h
  rcases hmet : v.met.step with _ | step
  · rw [(hlaw.idle hmet).shot, hmet] at hstep
    cases hstep
  · obtain ⟨step', answer, hran⟩ := hlaw.ran step hmet
    have hgoes : ¬ v.Finished := fun hfinished => by
      rw [hlaw.retired.mpr (.inl hfinished)] at hkept
      cases hkept
    rw [Visit.Finished, hran.answered, not_or, not_exists] at hgoes
    have hbound : answer ≠ .ok .detach := fun hdetach => by
      rw [hran.detached hdetach] at hstep
      cases hstep
    have hkeep : answer = .ok .keep := by
      rcases answer with err | signal
      · exact absurd rfl (hgoes.2 err)
      · cases signal with
        | keep => rfl
        | finish => exact absurd rfl hgoes.1
        | detach => exact absurd rfl hbound
    have hrun := hran.run
    rw [runStep_eq, Prod.mk.injEq, Prod.mk.injEq] at hrun
    obtain ⟨-, hturn, hanswer⟩ := hrun
    have hsignal : (turn config world v.before v.met step).1.signal = .keep := by
      rw [hkeep] at hanswer
      split at hanswer
      · cases hanswer
      · exact Except.ok.inj hanswer
    rw [hran.bound hbound]
    exact ⟨step', rfl, hturn ▸ Step.isPersistent_of_keep hsignal⟩

/-- **A live shot that still has a step is a hazard.** -/
theorem Reached.hazard (h : Reached c config A e) :
    ∀ s ∈ e.registry.live, s.step.isSome = true → s.Hazard := by
  have htick : ∀ (e : Engine K) (world : World K), ∀ s ∈ (e.tick world).2.registry.live,
      s.step.isSome = true → s.Hazard := by
    intro e world s hs hstep
    obtain ⟨v, hv, hkept, rfl⟩ := mem_live_tick.mp hs
    exact hazard_visit (act_tickVisits hv) hkept hstep
  refine h.induct (P := fun e => ∀ s ∈ e.registry.live, s.step.isSome = true → s.Hazard)
    (fun s hs => by cases hs) fun e e' _ hc ih => ?_
  cases hc with
  | create side bs => exact ih
  | tick world => exact htick e world
  | advance world => exact htick _ world
  | remove p => exact fun s hs => ih s (List.mem_filter.mp hs).1
  | move body m => exact ih

/-! ### Clearing -/

/-- What is left when the bullets of a list are cleared away. -/
structure Cleared (e : Engine K) (list : CollisionList) (n : Nat) (e' : Engine K) : Prop where
  /-- A live shot that has a step stays. -/
  spared : ∀ s ∈ e.registry.live, s.step.isSome = true → s ∈ e'.registry.live
  /-- A shot of the list that has lost its step goes, -/
  unbound : ∀ s ∈ e.shots, s.list = list → s.step = none → e'.find? s.id = none
  /-- and so does one that has not been sent off yet. -/
  launching : ∀ s ∈ e.registry.queue.pending.toList, s.list = list →
    ∀ step, s.step = some step → step.Launching → e'.find? s.id = none
  /-- The live shots and the queue of the other lists are as they were, -/
  others : e'.registry.live.filter (·.list ≠ list) = e.registry.live.filter (·.list ≠ list) ∧
    e'.registry.queue.pending.toList.filter (·.list ≠ list) =
      e.registry.queue.pending.toList.filter (·.list ≠ list)
  /-- and of the list itself the hazards are left, live and queued. -/
  rest : ∀ s, s.list = list →
    (s ∈ e'.registry.live ↔ s ∈ e.registry.live ∧ s.Hazard) ∧
      (s ∈ e'.registry.queue.pending.toList ↔
        s ∈ e.registry.queue.pending.toList ∧ s.Hazard)
  /-- Whoever stays keeps its body, where it is and as it flies. -/
  bodies : e.bodies.Fits → ∀ s ∈ e'.shots, ∀ b, s.body = some b →
    ∃ body, e.bodies.get? b = some body ∧ e'.bodies.get? b = some body
  count : n + e'.size = e.size

/-- The bullets of a list. -/
def bulletOf (list : CollisionList) (s : Shot K) : Bool := s.list == list && s.isSimple

omit [Scalar K] in
lemma bulletOf_eq_true {list : CollisionList} {s : Shot K} :
    bulletOf list s = true ↔ s.list = list ∧ s.isSimple = true := by
  simp [bulletOf]

omit [Scalar K] in
lemma bulletOf_eq_false {list : CollisionList} {s : Shot K} :
    bulletOf list s = false ↔ (s.list = list → s.Hazard) := by
  rw [bulletOf, Bool.and_eq_false_imp, beq_iff_eq, Shot.isSimple_eq_false]

omit [Scalar K] in
/-- Whoever is removed is not found any more. -/
lemma find?_removeWhere (ho : e.registry.InOrder) {p : Shot K → Bool} {s : Shot K}
    (hs : s ∈ e.shots) (hp : p s = true) : (e.removeWhere p).2.find? s.id = none := by
  refine Option.eq_none_iff_forall_ne_some.mpr fun t ht => ?_
  obtain ⟨hmem, hid⟩ := (find?_eq_some (ho.removeWhere p)).mp ht
  rw [removeWhere, shots, Registry.shots_removeWhere, List.mem_filter] at hmem
  obtain rfl := ho.eq_of_id hmem.1 hs hid
  rw [hp] at hmem
  exact absurd hmem.2 Bool.false_ne_true

omit [Scalar K] in
lemma size_removeWhere (e : Engine K) (p : Shot K → Bool) :
    (e.removeWhere p).1 + (e.removeWhere p).2.size = e.size := by
  have hperm := (List.filter_append_perm p e.registry.shots).length_eq
  rw [List.length_append, ← Registry.shots_removeWhere, Registry.length_shots,
    Registry.length_shots] at hperm
  exact hperm

/-- Whoever is not removed keeps its body. -/
lemma get?_removeWhere (hb : Balanced e) (ho : e.registry.InOrder) (fits : e.bodies.Fits)
    {p : Shot K → Bool} {s : Shot K} (hs : s ∈ (e.removeWhere p).2.shots) {b : BodyId}
    (hbody : s.body = some b) :
    ∃ body, e.bodies.get? b = some body ∧ (e.removeWhere p).2.bodies.get? b = some body := by
  have hnext : Balanced (e.removeWhere p).2 := (Change.remove (A := fun _ => True) p).balanced ho hb
  have hone := hnext.oneToOne_of_fits (ho.removeWhere p) ((fits_release _ _).mpr fits)
  obtain ⟨body, hget, -⟩ := hone.resolves s hs b hbody
  exact ⟨body, get?_of_release hget, hget⟩

omit [Scalar K] in
/-- Where only shots of one list are removed, all others stay. -/
lemma filter_filter_other {list : CollisionList} (ss : List (Shot K)) :
    (ss.filter (!bulletOf list ·)).filter (·.list ≠ list) = ss.filter (·.list ≠ list) := by
  rw [List.filter_filter]
  refine List.filter_congr fun s _ => ?_
  by_cases hs : s.list = list
  · simp [hs]
  · simp [hs, bulletOf]

omit [Scalar K] in
lemma mem_filter_bulletOf {list : CollisionList} {s : Shot K} (hs : s.list = list)
    (ss : List (Shot K)) : s ∈ ss.filter (!bulletOf list ·) ↔ s ∈ ss ∧ s.Hazard := by
  rw [List.mem_filter, Bool.not_eq_true', bulletOf_eq_false]
  exact and_congr_right fun _ => ⟨fun h => h hs, fun h _ => h⟩

/-- **What a bomb clears**, in every engine that is reached: bullets, and nothing but bullets. -/
theorem Reached.cleared (h : Reached c config A e) :
    (∀ s ∈ e.registry.live, s.step.isSome = true → s.Hazard) ∧
      ∀ list, Cleared e list (e.removeAllSimpleOwnedBy list).1
        (e.removeAllSimpleOwnedBy list).2 := by
  have ho := h.inOrder
  refine ⟨h.hazard, fun list => ?_⟩
  have hclear : e.removeAllSimpleOwnedBy list = e.removeWhere (bulletOf list) := rfl
  have hlive : (e.removeWhere (bulletOf list)).2.registry.live =
      e.registry.live.filter (!bulletOf list ·) := rfl
  have hqueue : (e.removeWhere (bulletOf list)).2.registry.queue.pending.toList =
      e.registry.queue.pending.toList.filter (!bulletOf list ·) := Array.toList_filter
  rw [hclear]
  constructor
  case spared =>
    intro s hs hstep
    rw [hlive, List.mem_filter, Bool.not_eq_true', bulletOf_eq_false]
    exact ⟨hs, fun _ => h.hazard s hs hstep⟩
  case unbound =>
    intro s hs hlist hstep
    refine find?_removeWhere ho hs (bulletOf_eq_true.mpr ⟨hlist, ?_⟩)
    rw [Shot.isSimple, hstep]
  case launching =>
    intro s hs hlist step hstep hlaunching
    refine find?_removeWhere ho (List.mem_append_right _ hs) (bulletOf_eq_true.mpr ⟨hlist, ?_⟩)
    rw [Shot.isSimple, hstep, Bool.not_eq_true']
    exact Step.isPersistent_eq_false.mpr hlaunching
  case others =>
    rw [hlive, hqueue]
    exact ⟨filter_filter_other _, filter_filter_other _⟩
  case rest =>
    intro s hlist
    rw [hlive, hqueue]
    exact ⟨mem_filter_bulletOf hlist _, mem_filter_bulletOf hlist _⟩
  case bodies =>
    exact fun fits s hs b hb => get?_removeWhere h.balanced ho fits hs hb
  case count => exact size_removeWhere e (bulletOf list)

/-- Four shots of the enemies and one of the player. A pellet and a fractal have flown for a tick:
the one has let go of its step, the other has not. A scattered shot and an orbit are queued. A bomb
takes the pellet and the scattered shot. -/
theorem cleared_orbit :
    let dot : Template Float32 := ⟨"dot", some ⟨7, 1, 2⟩, none, none, Vec.zero, []⟩
    let enemies : Side := ⟨.none, .enemyShot⟩
    let calls : List (Op Float32) :=
      [.addAngledShot enemies ⟨160, 120⟩ "dot" 0 1,
        .spawnDynamic enemies ⟨160, 120⟩ "dot" (.fractal (.of "dot" 1 0 1)),
        .addAngledShot ⟨.player, .playerShot⟩ ⟨160, 200⟩ "dot" 0 3, .tick .empty,
        .spawnDynamic enemies ⟨160, 120⟩ "dot" (.scatter ⟨0, 5, 1⟩),
        .spawnDynamic enemies ⟨160, 120⟩ "dot" (.orbit ⟨8, 1, 60, 1, 0⟩)]
    let e := calls.foldl apply (.new ⟨#[dot]⟩ Config.default)
    let (n, e') := e.removeAllSimpleOwnedBy .enemyShot
    (∃ s ∈ e.registry.live, s.id = ⟨2⟩ ∧ s.Hazard) ∧ Cleared e .enemyShot n e' ∧ n = 2 ∧
      e'.shots.map (·.id.raw) = [2, 3, 5] := by
  intro dot enemies calls e
  have hreached : Reached ⟨#[dot]⟩ Config.default (fun _ => True) e :=
    Reached.new.calls fun _ _ _ _ => trivial
  have hcleared := hreached.cleared
  have hlive : ∃ s ∈ e.registry.live, s.id = ⟨2⟩ ∧ s.step.isSome = true := by decide +kernel
  obtain ⟨s, hs, hid, hstep⟩ := hlive
  exact ⟨⟨s, hs, hid, hcleared.1 s hs hstep⟩, hcleared.2 .enemyShot, by decide +kernel,
    by decide +kernel⟩

end Engine

end Barrage
