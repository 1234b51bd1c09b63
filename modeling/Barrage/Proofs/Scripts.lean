import Barrage.Proofs.Bullets

/-!
Shots that follow a script.

What a shot sees in a tick is its own frame, its owner, the world and the place of its body. A
*script* says for each of its ticks which step is bound to it, what may come of the tick, and
whether it is the last. A shot plays its script tick by tick, whatever is called in between, as long
as nobody takes it away and it does not leave the playfield; after its last tick it is not there any
more, creates nothing and has no turn. A carrier has no body, and cannot leave.
-/

namespace Barrage

variable {K : Type}

/-- A program for the ticks of a shot. -/
structure Script (K : Type) where
  /-- The step that is bound to the shot as a tick begins. -/
  step : Nat → Step K
  /-- The births that may come of a tick. -/
  Fires : Nat → List (Birth K) → Prop
  /-- The shot is retired in this tick, if it is still there. -/
  Last : Nat → Prop

/-- None of the first `n` ticks is the last. -/
def Script.Lasts (p : Script K) (n : Nat) : Prop := ∀ k < n, ¬ p.Last k

lemma Script.lasts_succ {p : Script K} {n : Nat} :
    p.Lasts (n + 1) ↔ p.Lasts n ∧ ¬ p.Last n := Nat.forall_lt_succ_right

/-- What a shot can see in its tick `n`. Only the place of a body is open. -/
structure Shot.Sees (s : Shot K) (config : Config K) (world : World K) (n : Nat) (v : View K) :
    Prop where
  frame : v.frame = UInt32.ofNat n
  owner : v.owner = s.owner
  world : v.world = world
  config : v.config = config
  place : s.body = none → v.position = s.origin ∧ v.hasBody = false

/-- What a carrier sees in its tick `n`. -/
def Shot.outlook (s : Shot K) (config : Config K) (world : Nat → World K) (n : Nat) : View K where
  frame := UInt32.ofNat n
  owner := s.owner
  position := s.origin
  hasBody := false
  world := world n
  config := config

lemma Shot.Sees.eq_outlook {s : Shot K} {config : Config K} {world : Nat → World K} {n : Nat}
    {v : View K} (h : s.Sees config (world n) n v) (hbody : s.body = none) :
    v = s.outlook config world n := by
  obtain ⟨hframe, howner, hworld, hconfig, hplace⟩ := h
  obtain ⟨hposition, hnone⟩ := hplace hbody
  cases v
  subst hframe howner hworld hconfig hposition hnone
  rfl

variable [Scalar K]

/-- A turn is what the script says for the tick `k`. -/
structure Script.Directs (p : Script K) (c : Catalog K) (k : Nat) (t : Turn K) : Prop where
  fires : ∃ births, p.Fires k births ∧ Order.birthsAll c t.orders = (births, none)
  last : p.Last k → t.signal = .finish
  goesOn : ¬ p.Last k → t.signal = .keep ∧ t.step = p.step (k + 1)

/-- Every turn is what the script says, whatever the random numbers are. -/
def Script.Fits (p : Script K) (c : Catalog K) (config : Config K) (s : Shot K)
    (world : Nat → World K) : Prop :=
  ∀ k v r, s.Sees config (world k) k v → p.Directs c k ((p.step k).run v r).1

namespace Engine

/-- What the shot of a number creates in its turn; nothing, if it has none. -/
def fired (e : Engine K) (id : ShotId) (b : Beat K) : List (Shot K) :=
  (((e.turns b).find? (·.met.id == id)).map Visit.born).getD []

/-- A call does not take the shot of a number away. -/
def Keeps (e : Engine K) (op : Op K) (id : ShotId) : Prop :=
  ∀ t ∈ e.shots, t.id = id → t ∈ (e.apply op).shots

/-- The engines that come after one, and the number of ticks between. The tick `k` shows `world k`,
and the shot of a number creates `born k` in it; whatever is called between the ticks, nobody takes
that shot away. -/
inductive Watch (id : ShotId) (world : Nat → World K) (born : Nat → List (Shot K))
    (e : Engine K) : Nat → Engine K → Prop where
  | start : Watch id world born e 0 e
  | call {n : Nat} {e' : Engine K} (op : Op K) (h : Watch id world born e n e')
      (hticks : op.ticks = 0) (hkeeps : e'.Keeps op id) : Watch id world born e n (e'.apply op)
  | beat {n : Nat} {e' : Engine K} (b : Beat K) (h : Watch id world born e n e')
      (hworld : b.world = world n) (hborn : e'.fired id b = born n) :
      Watch id world born e (n + 1) (e'.beat b)

variable {e e' : Engine K} {s t : Shot K} {id : ShotId} {b : Beat K} {v : Visit K} {n : Nat}
  {world : Nat → World K} {born : Nat → List (Shot K)} {p : Script K}

lemma Watch.later (h : Watch id world born e n e') : Later e n e' := by
  induction h with
  | start => exact .refl
  | call op h hticks hkeeps ih =>
    have hcall := ih.call op
    rwa [hticks] at hcall
  | beat b h hworld hborn ih =>
    have hcall := ih.call b.op
    rwa [b.ticks_op, apply_op] at hcall

lemma Reached.setting_apply {c : Catalog K} {config : Config K} {A : Step K → Prop}
    (h : Reached c config A e) (op : Op K) :
    (e.apply op).catalog = c ∧ (e.apply op).config = config := by
  obtain ⟨hcatalog, hconfig⟩ := (Later.refl.call op).setting h.inOrder
  exact ⟨hcatalog.trans h.setting.1, hconfig.trans h.setting.2⟩

lemma run_range_succ (e : Engine K) (beats : Nat → Beat K) (n : Nat) :
    e.run ((List.range (n + 1)).map beats) =
      (e.run ((List.range n).map beats)).beat (beats n) := by
  rw [List.range_succ, List.map_append, Engine.run, List.foldl_append]
  rfl

/-- Every run of beats is watched. -/
lemma watch_run (e : Engine K) (id : ShotId) (beats : Nat → Beat K) (n : Nat) :
    Watch id (fun k => (beats k).world)
      (fun k => (e.run ((List.range k).map beats)).fired id (beats k)) e n
      (e.run ((List.range n).map beats)) := by
  induction n with
  | zero => exact .start
  | succ n ih =>
    rw [run_range_succ]
    exact ih.beat (beats n) rfl rfl

/-! ### One tick -/

lemma fired_of_turn (hv : v ∈ e.turns b) (hid : v.met.id = id)
    (hunique : ∀ w ∈ e.turns b, w.met.id = id → w = v) : e.fired id b = v.born := by
  have hsome : ((e.turns b).find? (·.met.id == id)).isSome = true :=
    List.find?_isSome.mpr ⟨v, hv, beq_iff_eq.mpr hid⟩
  obtain ⟨w, hw⟩ := Option.isSome_iff_exists.mp hsome
  obtain rfl := hunique w (List.mem_of_find?_eq_some hw) (by simpa using List.find?_some hw)
  rw [fired, hw]
  rfl

lemma exists_visit_of_fired (hs : s ∈ e.fired id b) : ∃ v ∈ e.turns b, s ∈ v.born := by
  rw [fired] at hs
  rcases hfind : (e.turns b).find? (·.met.id == id) with _ | v
  · simp [hfind] at hs
  · rw [hfind] at hs
    exact ⟨v, List.mem_of_find?_eq_some hfind, hs⟩

/-- What a shot creates has new numbers. -/
lemma ids_fired (e : Engine K) (id : ShotId) (b : Beat K) :
    ((e.fired id b).map (·.id.raw)).Nodup ∧
      ∀ s ∈ e.fired id b, e.registry.queue.issued < s.id.raw := by
  rw [← registry_poised e b]
  constructor
  · rcases hfind : (e.turns b).find? (·.met.id == id) with _ | v
    · rw [fired, hfind]
      exact List.nodup_nil
    · rw [fired, hfind]
      have hlawful := lawful_act (act_tickVisits (List.mem_of_find?_eq_some hfind))
      have hnodup : (v.born.map (·.id.raw)).Nodup := by
        rw [hlawful.numbered]
        exact List.nodup_range'
      exact hnodup
  · intro s hs
    obtain ⟨v, hv, hs⟩ := exists_visit_of_fired hs
    exact issued_lt_born hv hs

/-- A number that is not in use has no turn. -/
lemma unmet_of_gone (ho : e.registry.InOrder) (hgone : e.find? id = none) (b : Beat K) :
    ∀ v ∈ e.turns b, v.met.id ≠ id := by
  intro v hv hid
  obtain ⟨t, ht, htid⟩ := exists_shot_turns ho hv
  exact List.find?_eq_none.mp hgone t ht (beq_iff_eq.mpr (htid.trans hid))

lemma fired_of_gone (ho : e.registry.InOrder) (hgone : e.find? id = none) (b : Beat K) :
    e.fired id b = [] := by
  have hnone : (e.turns b).find? (·.met.id == id) = none :=
    List.find?_eq_none.mpr fun v hv => by simpa using unmet_of_gone ho hgone b v hv
  rw [fired, hnone]
  rfl

/-- A turn of a shot in its tick `n`, as the script has it. -/
structure Plays (p : Script K) (s : Shot K) (n : Nat) (v : Visit K) : Prop where
  met : v.met.id = s.id
  born : ∃ births st, p.Fires n births ∧ v.born = Stage.newborns st ⟨s.owner, s.list⟩ births
  culled : v.outcome.culled = false
  retired : v.outcome.retired = true ↔ p.Last n
  step : ¬ p.Last n → v.outcome.shot.step = some (p.step (n + 1))

/-- In a beat a shot has one turn, as the script has it. -/
def HasTurn (p : Script K) (s : Shot K) (n : Nat) (e : Engine K) (b : Beat K) : Prop :=
  ∃ v ∈ e.turns b, Plays p s n v ∧ ∀ w ∈ e.turns b, w.met.id = s.id → w = v

/-- A shot stays that goes on with a step and is not culled. -/
lemma Visit.Lawful.stays {c : Catalog K} {config : Config K} {world : World K} {step : Step K}
    (h : v.Lawful c config world) (hsaid : v.outcome.answer = some (.ok .keep))
    (hstep : v.outcome.shot.step = some step) (hculled : v.outcome.culled = false) :
    v.outcome.retired = false := by
  have hunfinished : ¬ v.Finished := by
    rintro (hfinish | ⟨err, hfail⟩)
    · cases hsaid.symm.trans hfinish
    · cases hsaid.symm.trans hfail
  rw [Bool.eq_false_iff]
  intro hretired
  rcases h.retired.mp hretired with hfinished | hout | ⟨hnone, -⟩
  · exact hunfinished hfinished
  · rw [h.culled.mpr ⟨hout, hunfinished⟩] at hculled
    cases hculled
  · cases hstep.symm.trans hnone

/-- Whoever has no body is not culled. -/
lemma Ages.not_culled (h : Ages e s n) (ho : e.registry.InOrder) (hbody : s.body = none)
    (hv : v ∈ e.turns b) (hid : v.met.id = s.id) : v.outcome.culled = false := by
  obtain ⟨t, ht, htid⟩ := exists_shot_turns ho hv
  obtain ⟨w, hw, hmet, hlawful, hunique⟩ := h.turn ho ht (htid.trans hid) b
  obtain rfl := hunique v hv hid
  have hnone : v.met.body = none := by rw [hmet, (h.aged t ht (htid.trans hid)).same, hbody]
  rw [Bool.eq_false_iff]
  intro hculled
  obtain ⟨⟨g, -, hsome, -⟩, -⟩ := hlawful.culled.mp hculled
  rw [hnone] at hsome
  cases hsome

lemma Ages.plays (h : Ages e s n) (ho : e.registry.InOrder)
    (hp : p.Fits e.catalog e.config s world) (ht : t ∈ e.shots) (hid : t.id = s.id)
    (hstep : t.step = some (p.step n)) (hworld : b.world = world n)
    (hinside : ∀ v ∈ e.turns b, v.met.id = s.id → v.outcome.culled = false) :
    HasTurn p s n e b := by
  obtain ⟨v, hv, hmet, hlawful, hunique⟩ := h.turn ho ht hid b
  have hsame := (h.aged t ht hid).same
  have hvid : v.met.id = s.id := by rw [hmet, hid]
  have hstep' : v.met.step = some (p.step n) := by rw [hmet, hstep]
  obtain ⟨turn, r, births, failure, answer, hrun, hbirths, hanswer, hstage, -, houtcome⟩ :=
    turned (act_turns hv) hstep'
  have hsees : s.Sees e.config (world n) n
      (view e.config b.world v.before.stage.bodies v.met) := by
    rw [hmet, hsame, ← hworld]
    refine ⟨rfl, rfl, rfl, rfl, fun hbody => ?_⟩
    simp [view, hbody]
  obtain ⟨⟨births', hfires, horders⟩, hlast, hgoesOn⟩ := hp n _ v.before.random hsees
  rw [hrun] at hlast hgoesOn horders
  rw [hbirths, Prod.mk.injEq] at horders
  obtain ⟨rfl, rfl⟩ := horders
  have hanswered : v.outcome.answer = some (.ok turn.signal) := by rw [houtcome, hanswer]; rfl
  have hnext (hn : ¬ p.Last n) : v.outcome.shot.step = some (p.step (n + 1)) := by
    have hshot : v.outcome.shot.step = leftBound turn.step answer := by rw [houtcome]; rfl
    rw [hshot, hanswer, (hgoesOn hn).1, ← (hgoesOn hn).2]
    rfl
  refine ⟨v, hv, ?_, hunique⟩
  constructor
  case met => exact hvid
  case born =>
    have hside : (⟨v.met.owner, v.met.list⟩ : Side) = ⟨s.owner, s.list⟩ := by rw [hmet, hsame]
    exact ⟨births, _, hfires, hside ▸ born_of_stage hstage⟩
  case culled => exact hinside v hv hvid
  case retired =>
    constructor
    · refine fun hretired => by_contra fun hn => ?_
      rw [(hgoesOn hn).1] at hanswered
      rw [hlawful.stays hanswered (hnext hn) (hinside v hv hvid)] at hretired
      cases hretired
    · intro hn
      rw [hlast hn] at hanswered
      exact hlawful.retired.mpr (.inl (.inl hanswered))
  case step => exact hnext

/-! ### A whole run -/

/-- No number comes twice among all that a shot creates, and all of them count as issued. -/
lemma Watch.ids (h : Watch id world born e n e') (ho : e.registry.InOrder) :
    (((List.range n).flatMap born).map (·.id.raw)).Nodup ∧
      ∀ s ∈ (List.range n).flatMap born, s.id.raw ≤ e'.registry.queue.issued := by
  induction h with
  | start => exact ⟨List.nodup_nil, fun s hs => absurd hs List.not_mem_nil⟩
  | call op h hticks hkeeps ih =>
    have hissued := ((Later.refl.call op).onward (h.later.inOrder ho)).issued
    exact ⟨ih.1, fun s hs => Nat.le_trans (ih.2 s hs) hissued⟩
  | @beat n e₁ b h hworld hborn ih =>
    obtain ⟨hnodup, hold⟩ := ih
    obtain ⟨hnodup', hnew⟩ := ids_fired e₁ id b
    rw [hborn] at hnodup' hnew
    rw [List.range_succ, List.flatMap_append, List.flatMap_singleton]
    constructor
    · rw [List.map_append, List.nodup_append]
      refine ⟨hnodup, hnodup', fun i hi j hj => ?_⟩
      obtain ⟨s, hs, rfl⟩ := List.mem_map.mp hi
      obtain ⟨t, ht, rfl⟩ := List.mem_map.mp hj
      exact Nat.ne_of_lt (Nat.lt_of_le_of_lt (hold s hs) (hnew t ht))
    · intro s hs
      rcases List.mem_append.mp hs with hs | hs
      · exact Nat.le_trans (hold s hs) (issued_le_beat e₁ b)
      · have ho' := inOrder_apply (h.later.inOrder ho) b.op
        rw [← hborn] at hs
        obtain ⟨v, hv, hs⟩ := exists_visit_of_fired hs
        have hthere := (arrives_of_born (h.later.inOrder ho) hv hs).there
        rw [← apply_op]
        exact (ho'.issued s hthere).2

/-- What a shot has done in its first `n` ticks, and whether it is still there. -/
structure Played (p : Script K) (s : Shot K) (born : Nat → List (Shot K)) (n : Nat)
    (e : Engine K) : Prop where
  fires : ∀ k < n, p.Lasts k →
    ∃ births st, p.Fires k births ∧ born k = Stage.newborns st ⟨s.owner, s.list⟩ births
  silent : ∀ k < n, ¬ p.Lasts k → born k = []
  there : p.Lasts n → ∃ t ∈ e.shots, t.id = s.id ∧ t.step = some (p.step n)
  gone : ¬ p.Lasts n → e.Gone s.id

/-- As long as it is there, it plays on. -/
structure Performs (p : Script K) (s : Shot K) (world : Nat → World K)
    (born : Nat → List (Shot K)) (n : Nat) (e : Engine K) : Prop extends
    Played p s born n e where
  /-- It has one turn in the next tick. -/
  turn : p.Lasts n → ∀ b : Beat K, b.world = world n → HasTurn p s n e b
  /-- After its last tick it has no turn any more. -/
  idle : ¬ p.Lasts n → ∀ b : Beat K, ∀ v ∈ e.turns b, v.met.id ≠ s.id

lemma Played.start (hs : s ∈ e.shots) (hstep : s.step = some (p.step 0)) :
    Played p s born 0 e := by
  have hlasts : p.Lasts 0 := fun k hk => absurd hk (Nat.not_lt_zero k)
  exact ⟨fun k hk => absurd hk (Nat.not_lt_zero k), fun k hk => absurd hk (Nat.not_lt_zero k),
    fun _ => ⟨s, hs, rfl, hstep⟩, fun h => absurd hlasts h⟩

lemma Played.call (h : Played p s born n e) (ho : e.registry.InOrder)
    (hissued : s.id.raw ≤ e.registry.queue.issued) {op : Op K} (hkeeps : e.Keeps op s.id) :
    Played p s born n (e.apply op) := by
  refine ⟨h.fires, h.silent, fun hn => ?_, fun hn => ?_⟩
  · obtain ⟨t, ht, hid, hstep⟩ := h.there hn
    exact ⟨t, hkeeps t ht hid, hid, hstep⟩
  · exact (Later.refl.call op).gone ho hissued (h.gone hn).find

lemma Played.beat (h : Played p s born n e) (ho : e.registry.InOrder)
    (hissued : s.id.raw ≤ e.registry.queue.issued) (hborn : e.fired s.id b = born n)
    (hturn : p.Lasts n → HasTurn p s n e b) : Played p s born (n + 1) (e.beat b) := by
  by_cases hn : p.Lasts n
  · obtain ⟨v, hv, hplays, hunique⟩ := hturn hn
    rw [fired_of_turn hv hplays.met hunique] at hborn
    refine ⟨Nat.forall_lt_succ_right.mpr ⟨h.fires, fun _ => hborn ▸ hplays.born⟩,
      Nat.forall_lt_succ_right.mpr ⟨h.silent, fun hover => absurd hn hover⟩,
      fun hlasts => ?_, fun hlasts => ?_⟩
    · have hgoesOn := (Script.lasts_succ.mp hlasts).2
      have hkept : v.outcome.retired = false := by
        rw [Bool.eq_false_iff]
        exact fun hretired => hgoesOn (hplays.retired.mp hretired)
      exact ⟨v.outcome.shot, List.mem_append_left _ (mem_live_tick.mpr ⟨v, hv, hkept, rfl⟩),
        (id_tickVisits hv).trans hplays.met, hplays.step hgoesOn⟩
    · have hlast : p.Last n := by
        by_contra hlast
        exact hlasts (Script.lasts_succ.mpr ⟨hn, hlast⟩)
      have hfind := find?_of_retired ho hv (hplays.retired.mpr hlast)
      rw [hplays.met] at hfind
      exact gone_of_find? hfind
  · have hgone := (h.gone hn).find
    rw [fired_of_gone ho hgone] at hborn
    refine ⟨Nat.forall_lt_succ_right.mpr ⟨h.fires, fun hlasts => absurd hlasts hn⟩,
      Nat.forall_lt_succ_right.mpr ⟨h.silent, fun _ => hborn.symm⟩,
      fun hlasts => absurd (Script.lasts_succ.mp hlasts).1 hn, fun _ => ?_⟩
    rw [← apply_op]
    exact (Later.refl.call b.op).gone ho hissued hgone

/-- **A carrier plays its script**, from the call that brings it about and whatever is called as
long as nobody takes it away. -/
theorem Watch.performs {e₀ : Engine K} {op : Op K} (ho : e₀.registry.InOrder)
    (hs : Arrives e₀ op s) (hbody : s.body = none) (hstep : s.step = some (p.step 0))
    (hp : p.Fits (e₀.apply op).catalog (e₀.apply op).config s world)
    (h : Watch s.id world born (e₀.apply op) n e') : Performs p s world born n e' := by
  have he := inOrder_apply ho op
  have hissued {n : Nat} {e' : Engine K} (h : Watch s.id world born (e₀.apply op) n e') :
      s.id.raw ≤ e'.registry.queue.issued :=
    Nat.le_trans (he.issued s hs.there).2 (h.later.onward he).issued
  have hturn {n : Nat} {e' : Engine K} (h : Watch s.id world born (e₀.apply op) n e')
      (hplayed : Played p s born n e') (hn : p.Lasts n) (b : Beat K)
      (hworld : b.world = world n) : HasTurn p s n e' b := by
    obtain ⟨t, ht, hid, htstep⟩ := hplayed.there hn
    have hage := h.later.ages he (ages_of_arrives ho hs)
    obtain ⟨hcatalog, hconfig⟩ := h.later.setting he
    rw [← hcatalog, ← hconfig] at hp
    exact hage.plays (h.later.inOrder he) hp ht hid htstep hworld fun v hv hvid =>
      hage.not_culled (h.later.inOrder he) hbody hv hvid
  have hplayed : Played p s born n e' := by
    induction h with
    | start => exact .start hs.there hstep
    | call op h hticks hkeeps ih => exact ih.call (h.later.inOrder he) (hissued h) hkeeps
    | beat b h hworld hborn ih =>
      exact ih.beat (h.later.inOrder he) (hissued h) hborn fun hn => hturn h ih hn b hworld
  refine ⟨hplayed, fun hn b hworld => hturn h hplayed hn b hworld, fun hn b => ?_⟩
  exact unmet_of_gone (h.later.inOrder he) (hplayed.gone hn).find b

end Engine

end Barrage
