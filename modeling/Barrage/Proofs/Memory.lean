import Barrage.Proofs.Scripts

/-!
What a step remembers.

Between two turns of a shot nobody writes to its step: the calls that come between create other
shots, remove some or move a body. So in each turn a step is as its last turn has left it, and what
every turn keeps, whatever it sees, holds of the step for as long as the shot is there.
-/

namespace Barrage

variable {K : Type} [Scalar K]

/-- The answer of a turn over a catalog. -/
def Turn.answer (c : Catalog K) (t : Turn K) : Answer :=
  match (Order.birthsAll c t.orders).2 with
  | some err => .error err
  | none => .ok t.signal

namespace Engine

/-- The engines that come after one, and the number of ticks between. What is called between the
ticks is one of `C`, and the beat of the tick `n` is one of `B n`. -/
inductive Span (C : Engine K → Op K → Prop) (B : Nat → Engine K → Beat K → Prop)
    (e : Engine K) : Nat → Engine K → Prop where
  | start : Span C B e 0 e
  | call {n : Nat} {e' : Engine K} (op : Op K) (h : Span C B e n e') (hticks : op.ticks = 0)
      (hcall : C e' op) : Span C B e n (e'.apply op)
  | beat {n : Nat} {e' : Engine K} (b : Beat K) (h : Span C B e n e') (hbeat : B n e' b) :
      Span C B e (n + 1) (e'.beat b)

variable {e e' : Engine K} {s t : Shot K} {id : ShotId} {b : Beat K} {op : Op K} {n : Nat}
  {C : Engine K → Op K → Prop} {B : Nat → Engine K → Beat K → Prop}

lemma Span.later (h : Span C B e n e') : Later e n e' := by
  induction h with
  | start => exact .refl
  | call op h hticks hcall ih =>
    have hlater := ih.call op
    rwa [hticks] at hlater
  | beat b h hbeat ih =>
    have hlater := ih.call b.op
    rwa [b.ticks_op, apply_op] at hlater

lemma Span.settled (h : Span C B e n e') (he : Settled e) : Settled e' := by
  induction h with
  | start => exact he
  | call op h hticks hcall ih => exact ih.apply op
  | beat b h hbeat ih => exact apply_op _ b ▸ ih.apply b.op

/-- A call between ticks brings about no shot of an old number. -/
lemma mem_of_apply (ho : e.registry.InOrder) (hticks : op.ticks = 0)
    (hissued : t.id.raw ≤ e.registry.queue.issued) (ht : t ∈ (e.apply op).shots) :
    t ∈ e.shots := by
  cases kind ho op with
  | beat b => cases b.ticks_op.symm.trans hticks
  | move body m => exact ht
  | create _ side bs _ heq =>
    rw [heq, shots, shots_addAll] at ht
    refine (List.mem_append.mp ht).resolve_right fun hnew => ?_
    have hlt := issued_lt_newborns hnew
    omega
  | remove _ p _ heq =>
    rw [heq, shots, removeWhere, Registry.shots_removeWhere] at ht
    exact (List.mem_filter.mp ht).1

/-- A shot that was there before a beat is afterwards as its turn has left it. -/
lemma Ages.of_beat (h : Ages e s n) (ht : t ∈ (e.beat b).shots) (hid : t.id = s.id) :
    ∃ v ∈ e.turns b, v.met.id = s.id ∧ v.outcome.retired = false ∧ v.outcome.shot = t := by
  rcases List.mem_append.mp ht with hlive | hqueue
  · obtain ⟨v, hv, hkept, hvt⟩ := mem_live_tick.mp hlive
    exact ⟨v, hv, by rw [← id_tickVisits hv, hvt, hid], hkept, hvt⟩
  · obtain ⟨v, hv, ht⟩ := List.mem_flatMap.mp (queue_tick (e.poised b) b.world ▸ hqueue)
    have hlt := issued_lt_born hv ht
    have hle := h.issued
    rw [registry_poised, hid] at hlt
    omega

/-! ### One turn -/

/-- The visit `v` is the one turn that the shot `s` has in a beat, its tick `n`, and its step is run
there. -/
structure Runs (e : Engine K) (b : Beat K) (s : Shot K) (n : Nat) (step : Step K) (v : Visit K) :
    Prop where
  mem : v ∈ e.turns b
  unique : ∀ w ∈ e.turns b, w.met.id = s.id → w = v
  lawful : v.Lawful e.catalog e.config b.world
  met : v.met = { s with frame := .ofNat n, step := some step }
  answer : v.outcome.answer =
    some ((Engine.turn e.config b.world v.before v.met step).1.answer e.catalog)
  left : v.outcome.shot.step = leftBound (Engine.turn e.config b.world v.before v.met step).1.step
    ((Engine.turn e.config b.world v.before v.met step).1.answer e.catalog)

variable {step : Step K} {v : Visit K}

lemma Ages.runs (h : Ages e s n) (ho : e.registry.InOrder) (ht : t ∈ e.shots) (hid : t.id = s.id)
    (hstep : t.step = some step) (b : Beat K) : ∃ v, Runs e b s n step v := by
  obtain ⟨v, hv, hmet, hlawful, hunique⟩ := h.turn ho ht hid b
  have hvstep : v.met.step = some step := by rw [hmet, hstep]
  have hmet' : v.met = { s with frame := .ofNat n, step := some step } := by
    rw [hmet, (h.aged t ht hid).same, ← hstep]
  obtain ⟨t, r, births, failure, answer, hrun, hbirths, hanswer, -, -, houtcome⟩ :=
    turned (act_turns hv) hvstep
  have hsame : answer = (Engine.turn e.config b.world v.before v.met step).1.answer e.catalog := by
    rw [Engine.turn, hrun, Turn.answer, hbirths]
    exact hanswer
  refine ⟨v, hv, hunique, hlawful, hmet', ?_, ?_⟩
  · rw [houtcome, ← hsame]
    rfl
  · rw [houtcome, ← hsame, Engine.turn, hrun]
    rfl

lemma Runs.met_id (h : Runs e b s n step v) : v.met.id = s.id := by rw [h.met]

lemma Runs.sees (h : Runs e b s n step v) :
    s.Sees e.config b.world n (view e.config b.world v.before.stage.bodies v.met) := by
  rw [h.met]
  exact ⟨rfl, rfl, rfl, rfl, fun hbody => by simp [view, hbody]⟩

/-- The shot of a number, if it is there, has a step of which `P` holds. -/
def Bound (e : Engine K) (id : ShotId) (P : Step K → Prop) : Prop :=
  ∀ t ∈ e.shots, t.id = id → ∃ step, t.step = some step ∧ P step

variable {P Q : Step K → Prop}

lemma Bound.apply (h : Bound e id P) (ho : e.registry.InOrder)
    (hissued : id.raw ≤ e.registry.queue.issued) (op : Op K) (hticks : op.ticks = 0) :
    Bound (e.apply op) id P :=
  fun t ht hid => h t (mem_of_apply ho hticks (by rwa [hid]) ht) hid

/-- One turn takes the step of a shot on, unless it lets go of the shot. -/
lemma Bound.beat (h : Bound e s.id P) (hage : Ages e s n) (ho : e.registry.InOrder)
    (hturn : ∀ step v, Runs e b s n step v → P step →
      (Engine.turn e.config b.world v.before v.met step).1.signal ≠ .detach ∧
        Q (Engine.turn e.config b.world v.before v.met step).1.step) :
    Bound (e.beat b) s.id Q := by
  intro t ht hid
  obtain ⟨w, hw, hwid, -, rfl⟩ := hage.of_beat ht hid
  obtain ⟨r, hr, hrid⟩ := exists_shot_turns ho hw
  obtain ⟨step, hstep, hP⟩ := h r hr (hrid.trans hwid)
  obtain ⟨v, hv⟩ := hage.runs ho hr (hrid.trans hwid) hstep b
  obtain rfl := hv.unique w hw hwid
  obtain ⟨hkeep, hQ⟩ := hturn step w hv hP
  refine ⟨_, hv.left.trans ?_, hQ⟩
  rw [Turn.answer]
  split
  · rfl
  · cases hsignal : (Engine.turn e.config b.world w.before w.met step).1.signal with
    | keep | finish => rfl
    | detach => exact absurd hsignal hkeep

/-- **What every turn keeps, a step keeps**, whatever is called and whatever the worlds are. -/
theorem Later.bound {P : Nat → Step K → Prop} (hl : Later e n e') (ho : e.registry.InOrder)
    (hage : Ages e s 0) (h : Bound e s.id (P 0))
    (hturn : ∀ n step v r, s.Sees e.config v.world n v → P n step →
      (step.run v r).1.signal ≠ .detach ∧ P (n + 1) (step.run v r).1.step) :
    Bound e' s.id (P n) := by
  induction hl with
  | refl => exact h
  | @call n e₁ op hl ih =>
    have ho' := hl.inOrder ho
    have hage' := hl.ages ho hage
    cases kind ho' op with
    | beat b =>
      rw [apply_op, b.ticks_op]
      refine ih.beat hage' ho' fun step v hv hP => hturn n step _ _ ?_ hP
      rw [← (hl.setting ho).2]
      exact hv.sees
    | move body m => exact ih.apply ho' hage'.issued _ rfl
    | create _ _ _ hticks | remove _ _ hticks =>
      rw [hticks]
      exact ih.apply ho' hage'.issued op hticks
  | disturb bodies hl ih => exact ih

end Engine

end Barrage
