import Barrage.Proofs.Runs

/-!
What steps hand on.

A property of steps is handed on if a turn keeps it: the step has it that a turn leaves, and so have
the steps of all shots that the turn orders. If the steps of the templates have it besides, a tick
brings about no step that is without it.
-/

namespace Barrage

variable {K : Type}

/-- The step of the shot has the property, if there is one. -/
def Shot.StepIn (P : Step K → Prop) (s : Shot K) : Prop := ∀ step, s.step = some step → P step

def Birth.StepIn (P : Step K → Prop) (b : Birth K) : Prop := ∀ step, b.step = some step → P step

/-- The steps that an order brings along have the property. -/
def Order.StepsIn (P : Step K → Prop) : Order K → Prop
  | .shots _ _ each => ∀ i, P (each i).2
  | .tree _ _ => True
  | .carriers _ each => ∀ i, P (each i).2

/-- The steps of all templates have the property. -/
def Catalog.StepsIn (P : Step K → Prop) (c : Catalog K) : Prop :=
  ∀ t ∈ c.templates, ∀ step, t.step = some step → P step

variable [Scalar K]

/-- A turn leaves and orders none but steps with the property. -/
structure Turn.StepsIn (P : Step K → Prop) (t : Turn K) : Prop where
  step : P t.step
  orders : ∀ o ∈ t.orders, o.StepsIn P

omit [Scalar K] in
/-- A turn that orders nothing. -/
lemma Turn.StepsIn.quiet {P : Step K → Prop} {t : Turn K} (hs : P t.step) (ho : t.orders = []) :
    t.StepsIn P :=
  ⟨hs, by simp [ho]⟩

/-- Whatever a step with the property does in a turn, it hands the property on. -/
def HandsOn (P : Step K → Prop) : Prop :=
  ∀ (step : Step K) (v : View K) (r : Random), P step → (step.run v r).1.StepsIn P

variable {P : Step K → Prop} {c : Catalog K}

/-! ### Orders -/

lemma Order.Bears.stepIn {o : Order K} {b : Birth K} (h : o.Bears c b) (hc : c.StepsIn P)
    (ho : o.StepsIn P) : b.StepIn P := by
  intro step hstep
  cases h with
  | node ht hn => exact hc _ (Catalog.unfold_mem ht hn) step hstep
  | shot | carrier =>
    cases hstep
    exact ho _

lemma Order.stepIn_birthsAll (hc : c.StepsIn P) {os : List (Order K)}
    (hos : ∀ o ∈ os, o.StepsIn P) : ∀ b ∈ (birthsAll c os).1, b.StepIn P := by
  intro b hb
  obtain ⟨o, ho, hbears⟩ := exists_bears hb
  exact hbears.stepIn hc (hos o ho)

lemma Stage.stepIn_newborns {st : Stage K} {side : Side} {bs : List (Birth K)}
    (h : ∀ b ∈ bs, b.StepIn P) : ∀ s ∈ st.newborns side bs, s.StepIn P := by
  intro s hs step hstep
  obtain ⟨b, hb, -, hbs, -⟩ := exists_birth hs
  exact h b hb step (hbs ▸ hstep)

/-! ### A tick -/

namespace Registry

variable {r : Registry K} {s t : Shot K}

omit [Scalar K] in
lemma mem_settle {live : List (Shot K)} (h : t ∈ settle s live) : t = s ∨ t ∈ live := by
  induction live with
  | nil => exact .inl (List.mem_singleton.mp h)
  | cons u us ih =>
    rw [settle] at h
    split_ifs at h
    · exact List.mem_cons.mp h
    · exact (List.mem_cons.mp h).imp id (List.mem_cons_of_mem u)
    · rcases List.mem_cons.mp h with rfl | h
      · exact .inr (by simp)
      · exact (ih h).imp id (List.mem_cons_of_mem u)

omit [Scalar K] in
/-- What a tick meets has been there, be it in order or not. -/
lemma mem_live_advance (h : s ∈ r.advance.live) :
    (∃ t ∈ r.live, s = t.aged) ∨ s ∈ r.queue.pending.toList := by
  have hfold (pending live : List (Shot K))
      (h : s ∈ pending.foldl (fun live s => settle s live) live) : s ∈ live ∨ s ∈ pending := by
    induction pending generalizing live with
    | nil => exact .inl h
    | cons u us ih =>
      rcases ih _ h with h | h
      · exact (mem_settle h).symm.imp id fun he => by simp [he]
      · exact .inr (List.mem_cons_of_mem u h)
  rw [advance, ← Array.foldl_toList] at h
  refine (hfold _ _ h).imp (fun h => ?_) id
  obtain ⟨t, ht, rfl⟩ := List.mem_map.mp h
  exact ⟨t, ht, rfl⟩

end Registry

namespace Engine

variable (config : Config K) (world : World K)

/-- **A visit hands the property on**, to its shot and to all that it creates. -/
theorem stepIn_act (hc : c.StepsIn P) (hP : HandsOn P) {scene : Scene K} {s : Shot K}
    (hs : s.StepIn P) (hq : ∀ t ∈ scene.stage.queue.pending.toList, t.StepIn P) :
    (act c config world scene s).1.shot.StepIn P ∧
      ∀ t ∈ (act c config world scene s).2.stage.queue.pending.toList, t.StepIn P := by
  rcases hstep : s.step with _ | step
  · rw [act_of_none hstep]
    exact ⟨hs, hq⟩
  · have hturn : (turn config world scene s step).1.StepsIn P := hP _ _ _ (hs step hstep)
    rw [act_of_some hstep, runStep_eq]
    refine ⟨fun step' hstep' => ?_, fun t ht => ?_⟩
    · have hleft : step' = (turn config world scene s step).1.step := by
        simp only [judge, leftBound] at hstep'
        split at hstep'
        · cases hstep'
        · exact (Option.some.inj hstep').symm
      rw [hleft]
      exact hturn.step
    · rw [Stage.pending_addAll] at ht
      rcases List.mem_append.mp ht with ht | ht
      · exact hq t ht
      · exact Stage.stepIn_newborns (Order.stepIn_birthsAll hc hturn.orders) t ht

lemma stepIn_actAll (hc : c.StepsIn P) (hP : HandsOn P) (scene : Scene K) {ss : List (Shot K)}
    (hss : ∀ s ∈ ss, s.StepIn P) (hq : ∀ t ∈ scene.stage.queue.pending.toList, t.StepIn P) :
    (∀ o ∈ (actAll c config world scene ss).1, o.shot.StepIn P) ∧
      ∀ t ∈ (actAll c config world scene ss).2.stage.queue.pending.toList, t.StepIn P := by
  induction ss generalizing scene with
  | nil => exact ⟨by simp [actAll], hq⟩
  | cons s ss ih =>
    obtain ⟨hshot, hqueue⟩ := stepIn_act config world hc hP (hss s (by simp)) hq
    obtain ⟨hrest, hend⟩ := ih _ (fun t ht => hss t (by simp [ht])) hqueue
    rw [actAll_cons]
    refine ⟨fun o ho => ?_, hend⟩
    rcases List.mem_cons.mp ho with rfl | ho
    · exact hshot
    · exact hrest o ho

variable {e : Engine K}

omit [Scalar K] in
/-- A tick meets the shots of the engine, each with its step. -/
lemma stepIn_advance (h : ∀ s ∈ e.shots, s.StepIn P) :
    ∀ s ∈ e.registry.advance.live, s.StepIn P := by
  intro s hs
  rcases Registry.mem_live_advance hs with ⟨t, ht, rfl⟩ | hs
  · exact h t (List.mem_append_left _ ht)
  · exact h s (List.mem_append_right _ hs)

/-- **A tick hands the property on.** -/
theorem stepIn_tick (hc : e.catalog.StepsIn P) (hP : HandsOn P) (h : ∀ s ∈ e.shots, s.StepIn P) :
    ∀ s ∈ (e.tick world).2.shots, s.StepIn P := by
  obtain ⟨houtcomes, hqueue⟩ := stepIn_actAll e.config world hc hP
    ⟨⟨e.registry.advance.queue, e.bodies⟩, e.random⟩ (stepIn_advance h) (by simp [Registry.advance])
  intro s hs
  rw [shots_tick] at hs
  rcases List.mem_append.mp hs with hs | hs
  · obtain ⟨o, ho, rfl⟩ := List.mem_map.mp hs
    exact houtcomes o (List.mem_filter.mp ho).1
  · exact hqueue s hs

end Engine

end Barrage
