import Barrage.Proofs.Memory

/-!
Lifetimes.

Three kinds of step come to an end of themselves. A segment and an orbit go on through the frames
below their lifetime and end on the frame that is their lifetime. A sway ends on the frame after
that one, so it has one tick more than a segment with the same lifetime; with the longest lifetime
there is, it does not end. Whoever ends is retired, but an orbit lets go of a shot with a body.
-/

namespace Barrage

open Engine (Reached Arrives Span Ages)

variable {K : Type} [Scalar K]

/-- The steps that end on a frame of themselves, those that orbit an owner and the others. -/
inductive Step.Expires : (orbits : Bool) → (stop : Nat) → Step K → Prop where
  | segment (g : Segment) : Expires false g.lifetime.toNat (.segment g)
  | orbit (o : Orbit K) : Expires true o.lifetime.toNat (.orbit o)
  | sway (w : Sway K) {lifetime : UInt32} (h : w.lifetime = some lifetime) :
      Expires false (lifetime.toNat + 1) (.sway w)

/-- How a step ends. -/
def lastSignal (orbits hasBody : Bool) : Signal := if orbits && hasBody then .detach else .finish

/-- There was a turn on the frame `stop` among the first `n`. -/
def Over (stop n : Nat) : Prop := stop < n ∧ stop < UInt32.size

variable {orbits : Bool} {stop n : Nat} {step : Step K}

omit [Scalar K] in
/-- Two ways to say that a turn goes on before the last frame. -/
lemma ite_lastFrame {frame : Nat} {p : Prop} [Decidable p] (hp : p ↔ stop ≤ frame)
    (last : Signal) : (if p then last else .keep) = if frame < stop then .keep else last := by
  by_cases h : frame < stop
  · rw [if_pos h, if_neg fun hlast => Nat.not_le.mpr h (hp.mp hlast)]
  · rw [if_neg h, if_pos (hp.mpr (Nat.not_lt.mp h))]

/-- A turn goes on before the last frame and ends on it. -/
lemma Step.Expires.run (h : step.Expires orbits stop) {v : View K}
    (halive : orbits = true → v.world.isAlive v.owner = true) (r : Random) :
    (step.run v r).1.orders = [] ∧ (step.run v r).1.step.Expires orbits stop ∧
      (step.run v r).1.signal =
        if v.frame.toNat < stop then .keep else lastSignal orbits v.hasBody := by
  cases h with
  | segment g => exact ⟨rfl, .segment g, ite_lastFrame UInt32.le_iff_toNat_le _⟩
  | orbit o =>
    obtain ⟨center, hcenter⟩ := Option.isSome_iff_exists.mp (halive rfl)
    have hposition : v.ownerPosition = some center := hcenter
    simp only [Step.run, Orbit.run, hposition]
    by_cases hframe : v.frame < o.lifetime
    · rw [if_pos hframe, if_pos (UInt32.lt_iff_toNat_lt.mp hframe)]
      exact ⟨rfl, .orbit { o with angle := Heading.wrap (o.angle + o.rate) }, rfl⟩
    · rw [if_neg hframe, if_neg (hframe ∘ UInt32.lt_iff_toNat_lt.mpr), Orbit.release]
      split_ifs with hbody
      · exact ⟨rfl, .orbit o, by rw [hbody]; rfl⟩
      · exact ⟨rfl, .orbit o, by rw [Bool.not_eq_true] at hbody; rw [hbody]; rfl⟩
  | @sway w lifetime hlifetime =>
    have hlast : decide (lifetime < v.frame) = true ↔ lifetime.toNat + 1 ≤ v.frame.toNat := by
      rw [decide_eq_true_eq, UInt32.lt_iff_toNat_lt]
      rfl
    refine ⟨rfl, .sway { w with angle := w.swung v.frame _ } hlifetime, ?_⟩
    simp only [Step.run, Sway.run, hlifetime]
    exact ite_lastFrame hlast _

omit [Scalar K] in
lemma Step.Expires.stop_lt (h : step.Expires true stop) : stop < UInt32.size := by
  cases h with
  | orbit o => exact o.lifetime.toNat_lt

/-- The turn before it is over is the one that ends it. -/
lemma frame_lt_iff (h : ¬ Over stop n) :
    (UInt32.ofNat n).toNat < stop ↔ ¬ Over stop (n + 1) := by
  have hsize : UInt32.size = 2 ^ 32 := rfl
  rw [Over] at h ⊢
  rw [UInt32.toNat_ofNat']
  omega

namespace Engine

variable {e e' : Engine K} {s : Shot K} {b : Beat K} {v : Visit K}

/-- In a beat a shot has one turn, at the frame `n`, and its step answers a signal. -/
def Answers (e : Engine K) (b : Beat K) (s : Shot K) (n : Nat) (signal : Signal) : Prop :=
  ∃ v ∈ e.turns b, v.met.id = s.id ∧ v.met.frame = .ofNat n ∧
    v.outcome.answer = some (.ok signal) ∧ ∀ w ∈ e.turns b, w.met.id = s.id → w = v

/-- Nothing but its step ends the shot in the tick `n`: it is not culled, and the owner that it
orbits is alive, as long as it does. -/
structure Undisturbed (orbits : Bool) (stop : Nat) (s : Shot K) (n : Nat) (e : Engine K)
    (b : Beat K) : Prop where
  inside : ∀ v ∈ e.turns b, v.met.id = s.id → v.outcome.culled = false
  alive : orbits = true → n ≤ stop → b.world.isAlive s.owner = true

/-- What has become of a shot that ends of itself, after `n` ticks. -/
structure Expiry (orbits : Bool) (stop : Nat) (s : Shot K) (n : Nat) (e : Engine K) : Prop where
  bound : ¬ Over stop n →
    ∃ t ∈ e.shots, t.id = s.id ∧ ∃ step, t.step = some step ∧ step.Expires orbits stop
  released : Over stop n → lastSignal orbits s.body.isSome = .detach →
    ∃ t ∈ e.shots, t.id = s.id ∧ t.step = none
  retired : Over stop n → lastSignal orbits s.body.isSome = .finish → e.Gone s.id

omit [Scalar K] in
lemma hasBody_of_detach {hasBody : Bool} (h : lastSignal orbits hasBody = .detach) :
    hasBody = true := by
  cases hasBody
  · rw [lastSignal, Bool.and_false] at h
    cases h
  · rfl

/-- A shot with a body stays that has no step or is let go by it, unless it is culled. -/
lemma Visit.Lawful.stays_embodied {c : Catalog K} {config : Config K} {world : World K}
    (h : v.Lawful c config world)
    (hanswer : v.outcome.answer = none ∨ v.outcome.answer = some (.ok .detach))
    (hbody : v.outcome.shot.body.isSome = true) (hculled : v.outcome.culled = false) :
    v.outcome.retired = false := by
  have hunfinished : ¬ v.Finished := by
    rintro (hfinish | ⟨err, hfail⟩)
    · simp [hfinish] at hanswer
    · simp [hfail] at hanswer
  rw [Bool.eq_false_iff]
  intro hretired
  rcases h.retired.mp hretired with hfinished | hout | ⟨-, hnone⟩
  · exact hunfinished hfinished
  · rw [h.culled.mpr ⟨hout, hunfinished⟩] at hculled
    cases hculled
  · rw [hnone] at hbody
    cases hbody

/-- The turn of a shot that has not ended yet. -/
lemma Expiry.turn (h : Expiry orbits stop s n e) (hage : Ages e s n) (ho : e.registry.InOrder)
    (hn : ¬ Over stop n) (halive : orbits = true → n ≤ stop → b.world.isAlive s.owner = true) :
    ∃ step next signal v, Runs e b s n step v ∧ next.Expires orbits stop ∧
      v.outcome.answer = some (.ok signal) ∧ v.outcome.shot.step = leftBound next (.ok signal) ∧
      (¬ Over stop (n + 1) → signal = .keep) ∧
      (Over stop (n + 1) → signal = lastSignal orbits s.body.isSome) := by
  obtain ⟨t, ht, hid, step, hstep, hexpires⟩ := h.bound hn
  obtain ⟨v, hv⟩ := hage.runs ho ht hid hstep b
  have halive' (horbits : orbits = true) : b.world.isAlive v.met.owner = true := by
    have hstop := (horbits ▸ hexpires).stop_lt
    rw [hv.met]
    exact halive horbits (Nat.le_of_not_lt fun hover => hn ⟨hover, hstop⟩)
  obtain ⟨horders, hnext, hsignal⟩ :=
    hexpires.run (v := view e.config b.world v.before.stage.bodies v.met) halive'
      v.before.random
  have hframe : (view e.config b.world v.before.stage.bodies v.met).frame.toNat < stop ↔
      ¬ Over stop (n + 1) := by rw [hv.sees.frame, frame_lt_iff hn]
  have hbody : (view e.config b.world v.before.stage.bodies v.met).hasBody = s.body.isSome := by
    rw [hv.met]
    rfl
  -- a turn without orders cannot fail
  have hanswer := hv.answer
  have hleft := hv.left
  rw [Turn.answer, Engine.turn, horders] at hanswer hleft
  refine ⟨step, _, _, v, hv, hnext, hanswer, hleft, fun hover => ?_, fun hover => ?_⟩
  · rw [hsignal, if_pos (hframe.mpr hover)]
  · rw [hsignal, if_neg fun hlt => hframe.mp hlt hover, hbody]

lemma Expiry.call (h : Expiry orbits stop s n e) (ho : e.registry.InOrder)
    (hissued : s.id.raw ≤ e.registry.queue.issued) {op : Op K} (hkeeps : e.Keeps op s.id) :
    Expiry orbits stop s n (e.apply op) := by
  refine ⟨fun hn => ?_, fun hn hlast => ?_, fun hn hlast => ?_⟩
  · obtain ⟨t, ht, hid, hstep⟩ := h.bound hn
    exact ⟨t, hkeeps t ht hid, hid, hstep⟩
  · obtain ⟨t, ht, hid, hstep⟩ := h.released hn hlast
    exact ⟨t, hkeeps t ht hid, hid, hstep⟩
  · exact (Later.refl.call op).gone ho hissued (h.retired hn hlast).find

/-- The beat before or in which it is over. -/
lemma Expiry.beat_last (h : Expiry orbits stop s n e) (hage : Ages e s n)
    (ho : e.registry.InOrder) (hb : Undisturbed orbits stop s n e b) (hn : ¬ Over stop n) :
    Expiry orbits stop s (n + 1) (e.beat b) := by
  obtain ⟨step, next, signal, v, hv, hnext, hanswer, hleft, hkeep, hlast⟩ :=
    h.turn hage ho hn hb.alive
  have hculled := hb.inside v hv.mem hv.met_id
  have hid : v.outcome.shot.id = s.id := (id_tickVisits hv.mem).trans hv.met_id
  have hstays (hkept : v.outcome.retired = false) : v.outcome.shot ∈ (e.beat b).shots :=
    List.mem_append_left _ (mem_live_tick.mpr ⟨v, hv.mem, hkept, rfl⟩)
  refine ⟨fun hover => ?_, fun hover hdetach => ?_, fun hover hfinish => ?_⟩
  · rw [hkeep hover] at hanswer hleft
    exact ⟨_, hstays (hv.lawful.stays hanswer hleft hculled), hid, next, hleft, hnext⟩
  · rw [hlast hover, hdetach] at hanswer hleft
    have hbody : v.outcome.shot.body.isSome = true := by
      rw [shot_visit (act_tickVisits hv.mem), hv.met]
      exact hasBody_of_detach hdetach
    exact ⟨_, hstays (hv.lawful.stays_embodied (.inr hanswer) hbody hculled), hid, hleft⟩
  · rw [hlast hover, hfinish] at hanswer
    have hfind := find?_of_retired ho hv.mem (hv.lawful.retired.mpr (.inl (.inl hanswer)))
    rw [hv.met_id] at hfind
    exact gone_of_find? hfind

/-- The beats after it is over. -/
lemma Expiry.beat_over (h : Expiry orbits stop s n e) (hage : Ages e s n)
    (ho : e.registry.InOrder) (hb : Undisturbed orbits stop s n e b) (hn : Over stop n) :
    Expiry orbits stop s (n + 1) (e.beat b) := by
  refine ⟨fun hover => absurd ⟨Nat.lt_succ_of_lt hn.1, hn.2⟩ hover, fun _ hdetach => ?_,
    fun _ hfinish => ?_⟩
  · obtain ⟨t, ht, hid, hnone⟩ := h.released hn hdetach
    obtain ⟨v, hv, hmet, hlawful, -⟩ := hage.turn ho ht hid b
    have hvid : v.met.id = s.id := by rw [hmet, hid]
    obtain ⟨hanswer, hshot, -⟩ := hlawful.idle (by rw [hmet, hnone])
    have hbody : v.outcome.shot.body.isSome = true := by
      rw [hshot, hmet, (hage.aged t ht hid).same]
      exact hasBody_of_detach hdetach
    have hkept := hlawful.stays_embodied (.inl hanswer) hbody (hb.inside v hv hvid)
    exact ⟨_, List.mem_append_left _ (mem_live_tick.mpr ⟨v, hv, hkept, rfl⟩),
      (id_tickVisits hv).trans hvid, by rw [hshot, hmet, hnone]⟩
  · rw [← apply_op]
    exact (Later.refl.call b.op).gone ho hage.issued (h.retired hn hfinish).find

/-- A shot that ends of itself, and its turn in the tick after `n` others. -/
structure Lifetime (orbits : Bool) (stop : Nat) (s : Shot K) (n : Nat) (e : Engine K) : Prop
    extends Expiry orbits stop s n e where
  /-- Through the frames below the last one it goes on, -/
  goesOn : n < stop → n < UInt32.size → ∀ b : Beat K,
    (orbits = true → b.world.isAlive s.owner = true) → Answers e b s n .keep
  /-- and on the last one it ends. -/
  ends : n = stop → n < UInt32.size → ∀ b : Beat K,
    (orbits = true → b.world.isAlive s.owner = true) →
      Answers e b s n (lastSignal orbits s.body.isSome)

variable {c : Catalog K} {config : Config K} {A : Step K → Prop} {op : Op K}

/-- **Lifetimes end on their frame**, that of a sway on the frame after it, in every run in which
nothing else ends the shot: it is there with its step up to then, and afterwards it is gone for good
or, if it has orbited an owner and has a body, it is there without a step. -/
theorem Reached.expires (h : Reached c config A e) (hs : Arrives e op s)
    (hstep : s.step = some step) (hexpires : step.Expires orbits stop)
    (hspan : Span (fun e op => e.Keeps op s.id) (Undisturbed orbits stop s) (e.apply op) n e') :
    Lifetime orbits stop s n e' := by
  have ho := inOrder_apply h.inOrder op
  have hage := ages_of_arrives h.inOrder hs
  have hexpiry : Expiry orbits stop s n e' := by
    induction hspan with
    | start =>
      have hnot : ¬ Over stop 0 := fun hover => Nat.not_lt_zero stop hover.1
      exact ⟨fun _ => ⟨s, hs.there, rfl, step, hstep, hexpires⟩, fun hover => absurd hover hnot,
        fun hover => absurd hover hnot⟩
    | call op hspan hticks hkeeps ih =>
      exact ih.call (hspan.later.inOrder ho) (hspan.later.ages ho hage).issued hkeeps
    | @beat n e₁ b hspan hb ih =>
      have hage' := hspan.later.ages ho hage
      by_cases hn : Over stop n
      · exact ih.beat_over hage' (hspan.later.inOrder ho) hb hn
      · exact ih.beat_last hage' (hspan.later.inOrder ho) hb hn
  refine ⟨hexpiry, fun hlt hn b halive => ?_, fun heq hn b halive => ?_⟩
  · obtain ⟨_, _, signal, v, hv, -, hanswer, -, hkeep, -⟩ :=
      hexpiry.turn (hspan.later.ages ho hage) (hspan.later.inOrder ho) (b := b)
        (fun hover => Nat.lt_asymm hlt hover.1) fun horbits _ => halive horbits
    rw [hkeep fun hover => Nat.not_le.mpr hlt (Nat.le_of_lt_succ hover.1)] at hanswer
    exact ⟨v, hv.mem, hv.met_id, by rw [hv.met], hanswer, hv.unique⟩
  · obtain ⟨_, _, signal, v, hv, -, hanswer, -, -, hlast⟩ :=
      hexpiry.turn (hspan.later.ages ho hage) (hspan.later.inOrder ho) (b := b)
        (fun hover => Nat.lt_irrefl n (heq ▸ hover.1)) fun horbits _ => halive horbits
    rw [hlast ⟨heq ▸ Nat.lt_succ_self n, heq ▸ hn⟩] at hanswer
    exact ⟨v, hv.mem, hv.met_id, by rw [hv.met], hanswer, hv.unique⟩

/-- A segment with a lifetime of one tick is retired in its second tick. -/
theorem expires_segment :
    let e : Engine Float32 := .new ⟨#[]⟩ Config.default
    let op : Op Float32 := .spawnCarrier ⟨.none, .enemyShot⟩ ⟨160, 120⟩ (.segment ⟨1, false⟩)
    let s : Shot Float32 :=
      ⟨⟨1⟩, 0, .none, ⟨160, 120⟩, some (.segment ⟨1, false⟩), .enemyShot, none, 0⟩
    let e₁ := (e.apply op).beat (.tick .empty)
    let e₂ := e₁.beat (.tick .empty)
    Lifetime false 1 s 1 e₁ ∧ Answers e₁ (.tick .empty) s 1 .finish ∧
      Lifetime false 1 s 2 e₂ ∧ e₂.Gone s.id := by
  intro e op s e₁ e₂
  have hreached : Reached ⟨#[]⟩ Config.default (fun _ => True) e := .new
  have hshots : (e.apply op).shots = [s] := by with_unfolding_all rfl
  have harrives : Arrives e op s := ⟨hshots ▸ List.mem_singleton_self s, fun t ht => by cases ht⟩
  have hinside : (∀ v ∈ (e.apply op).turns (.tick .empty), v.outcome.culled = false) ∧
      ∀ v ∈ e₁.turns (.tick .empty), v.outcome.culled = false := by decide +kernel
  have h₁ : Span (fun e op => e.Keeps op s.id) (Undisturbed false 1 s) (e.apply op) 1 e₁ :=
    Span.start.beat _ ⟨fun v hv _ => hinside.1 v hv, fun horbits => by cases horbits⟩
  have h₂ : Span (fun e op => e.Keeps op s.id) (Undisturbed false 1 s) (e.apply op) 2 e₂ :=
    h₁.beat _ ⟨fun v hv _ => hinside.2 v hv, fun horbits => by cases horbits⟩
  have hlife₁ := hreached.expires harrives rfl (.segment ⟨1, false⟩) h₁
  have hlife₂ := hreached.expires harrives rfl (.segment ⟨1, false⟩) h₂
  have hends : Answers e₁ (.tick .empty) s 1 .finish :=
    hlife₁.ends rfl (by decide) _ fun horbits => by cases horbits
  exact ⟨hlife₁, hends, hlife₂, hlife₂.retired ⟨by decide, by decide⟩ rfl⟩

/-- A segment and a sway that both have a lifetime of one tick. The segment is retired by their
second tick, and the sway is still there then and goes with the third. -/
theorem not_expires_sway :
    let dot : Template Float32 := ⟨"dot", some ⟨7, 1, 2⟩, none, none, Vec.zero, []⟩
    let side : Side := ⟨.none, .enemyShot⟩
    let calls : List (Op Float32) :=
      [.spawnDynamic side ⟨160, 120⟩ "dot" (.segment ⟨1, false⟩),
        .spawnDynamic side ⟨160, 120⟩ "dot" (.sway (.of 0 5 4 1 false (some 1)))]
    let after (n : Nat) := (calls.foldl apply (.new ⟨#[dot]⟩ Config.default)).run
      (List.replicate n (.tick .empty))
    (after 1).shots.map (·.id.raw) = [1, 2] ∧ (after 2).shots.map (·.id.raw) = [2] ∧
      (after 2).shots.map (·.frame.toNat) = [1] ∧ (after 3).shots.map (·.id.raw) = [] := by
  decide +kernel

end Engine

end Barrage
