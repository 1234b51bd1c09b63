import Mathlib
import Barrage.Proofs.Checked.Turns
import Barrage.Proofs.Steering
import Barrage.Scalar.Exact

/-!
Ramps and curves.

A ramp moves from one value to another in equal steps, one a frame, and stands still before and
after. How many steps are done at a frame is a matter of whole numbers, and a value lies as far
between the two ends as the steps that are done among all steps; from that it follows that no value
is outside of the two ends and that none turns back. If the last frame is not after the first one
there is a single step, the jump. The heading of a curve is a ramp over the frames of its shot, so
it turns one way, by equal angles, and is held when the turn is over.
-/

namespace Barrage

namespace Ramp

/-- The number of steps from one value to the other. A jump is one step. -/
def steps (first last : UInt32) : ℕ := max (last.toNat - first.toNat) 1

/-- How many of the steps are done at a frame. -/
def stepsDone (first last frame : UInt32) : ℕ :=
  if frame < first then 0
  else if frame < last then frame.toNat - first.toNat
  else steps first last

/-- The share of the way that is behind at a frame. -/
noncomputable def share (first last frame : UInt32) : ℝ :=
  stepsDone first last frame / steps first last

/-- The values over exact numbers, frame by frame. -/
structure Clamped (first last : UInt32) (start finish : ℝ) (value : UInt32 → ℝ) : Prop where
  /-- The ramp stands at the one end, -/
  before : first < last → ∀ f ≤ first, value f = start
  /-- and then at the other, -/
  after : ∀ f, first ≤ f → last ≤ f → value f = finish
  within : ∀ f, value f ∈ Set.uIcc start finish
  /-- and its values are in the order of the two. -/
  rises : start ≤ finish → ∀ f g, f ≤ g → value f ≤ value g
  falls : finish ≤ start → ∀ f g, f ≤ g → value g ≤ value f
  /-- It jumps if there is no frame in between. -/
  jumps : last ≤ first → ∀ f, value f = if f < first then start else finish
  /-- From each frame in between to the next it is one of equal steps, the last one among them. -/
  even : ∀ f, first ≤ f → f < last →
    value (f + 1) - value f = (finish - start) / (last.toNat - first.toNat)

variable {first last f g : UInt32} {start finish : ℝ}

/-! ### Steps -/

lemma steps_pos : 0 < steps first last := by
  rw [steps]
  omega

lemma steps_of_lt (h : first < last) : steps first last = last.toNat - first.toNat := by
  rw [UInt32.lt_iff_toNat_lt] at h
  rw [steps]
  omega

lemma stepsDone_of_lt (h : f < first) : stepsDone first last f = 0 := if_pos h

lemma stepsDone_amid (hfirst : first ≤ f) (hlast : f < last) :
    stepsDone first last f = f.toNat - first.toNat := by
  rw [stepsDone, if_neg (UInt32.not_lt.mpr hfirst), if_pos hlast]

lemma stepsDone_of_le (hfirst : first ≤ f) (hlast : last ≤ f) :
    stepsDone first last f = steps first last := by
  rw [stepsDone, if_neg (UInt32.not_lt.mpr hfirst), if_neg (UInt32.not_lt.mpr hlast)]

/-- On the first frame no step is done yet. -/
lemma stepsDone_first (h : first < last) : stepsDone first last first = 0 := by
  rw [stepsDone_amid UInt32.le_rfl h, Nat.sub_self]

lemma stepsDone_le : stepsDone first last f ≤ steps first last := by
  simp only [stepsDone, steps, UInt32.lt_iff_toNat_lt]
  split_ifs <;> omega

lemma stepsDone_mono (h : f ≤ g) : stepsDone first last f ≤ stepsDone first last g := by
  rw [UInt32.le_iff_toNat_le] at h
  simp only [stepsDone, steps, UInt32.lt_iff_toNat_lt]
  split_ifs <;> omega

/-- A frame in between does one step, also the one before the last frame. -/
lemma stepsDone_succ (hfirst : first ≤ f) (hlast : f < last) :
    stepsDone first last (f + 1) = stepsDone first last f + 1 := by
  have hnext : (f + 1).toNat = f.toNat + 1 := by
    have hlt := last.toNat_lt
    rw [UInt32.lt_iff_toNat_lt] at hlast
    rw [UInt32.toNat_add, UInt32.toNat_one]
    omega
  rw [stepsDone_amid hfirst hlast]
  simp only [UInt32.le_iff_toNat_le, UInt32.lt_iff_toNat_lt] at hfirst hlast
  simp only [stepsDone, steps, UInt32.lt_iff_toNat_lt, hnext]
  split_ifs <;> omega

/-! ### Values -/

lemma cast_steps_pos : (0 : ℝ) < steps first last := Nat.cast_pos.mpr steps_pos

lemma share_nonneg : 0 ≤ share first last f :=
  div_nonneg (Nat.cast_nonneg _) cast_steps_pos.le

lemma share_le_one : share first last f ≤ 1 :=
  (div_le_one cast_steps_pos).mpr (Nat.cast_le.mpr stepsDone_le)

lemma share_mono (h : f ≤ g) : share first last f ≤ share first last g :=
  div_le_div_of_nonneg_right (Nat.cast_le.mpr (stepsDone_mono h)) cast_steps_pos.le

lemma share_of_none (h : stepsDone first last f = 0) : share first last f = 0 := by
  rw [share, h, Nat.cast_zero, zero_div]

lemma share_of_all (h : stepsDone first last f = steps first last) : share first last f = 1 := by
  rw [share, h, div_self cast_steps_pos.ne']

/-- **A value is as far between the two ends as the steps that are done.** -/
lemma valueAt_exact (first last f : UInt32) (start finish : ℝ) :
    (between first last start finish).valueAt f =
      start + (finish - start) * share first last f := by
  simp only [valueAt, between, Exact.nat_eq]
  split_ifs with hfirst hlast
  · rw [share_of_none (stepsDone_of_lt hfirst), mul_zero, add_zero]
  · rw [share, stepsDone_amid (UInt32.not_lt.mp hfirst) hlast, steps]
    ring
  · have hall : stepsDone first last f = steps first last :=
      stepsDone_of_le (UInt32.not_lt.mp hfirst) (UInt32.not_lt.mp hlast)
    rw [share_of_all hall, mul_one, add_sub_cancel]

lemma valueAt_of_none (h : stepsDone first last f = 0) :
    (between first last start finish).valueAt f = start := by
  rw [valueAt_exact, share_of_none h, mul_zero, add_zero]

lemma valueAt_of_all (h : stepsDone first last f = steps first last) :
    (between first last start finish).valueAt f = finish := by
  rw [valueAt_exact, share_of_all h, mul_one, add_sub_cancel]

lemma valueAt_mem (first last f : UInt32) (start finish : ℝ) :
    (between first last start finish).valueAt f ∈ Set.uIcc start finish := by
  rw [valueAt_exact, ← segment_eq_uIcc, segment_eq_image']
  exact ⟨share first last f, ⟨share_nonneg, share_le_one⟩, by simp [mul_comm]⟩

/-- From one frame to a later one the value goes the way of the ramp. -/
lemma valueAt_sub (first last f g : UInt32) (start finish : ℝ) :
    (between first last start finish).valueAt g - (between first last start finish).valueAt f =
      (finish - start) * (share first last g - share first last f) := by
  rw [valueAt_exact, valueAt_exact]
  ring

/-- **Ramps are clamped and monotone**, whatever the frames and the values are. -/
theorem clamped (first last : UInt32) (start finish : ℝ) :
    Clamped first last start finish (between first last start finish).valueAt := by
  constructor
  case before =>
    intro h f hf
    rcases UInt32.lt_or_eq_of_le hf with hlt | rfl
    · exact valueAt_of_none (stepsDone_of_lt hlt)
    · exact valueAt_of_none (stepsDone_first h)
  case after => exact fun f hfirst hlast => valueAt_of_all (stepsDone_of_le hfirst hlast)
  case within => exact fun f => valueAt_mem first last f start finish
  case rises =>
    intro h f g hfg
    rw [← sub_nonneg, valueAt_sub]
    exact mul_nonneg (sub_nonneg.mpr h) (sub_nonneg.mpr (share_mono hfg))
  case falls =>
    intro h f g hfg
    rw [← sub_nonpos, valueAt_sub]
    exact mul_nonpos_of_nonpos_of_nonneg (sub_nonpos.mpr h) (sub_nonneg.mpr (share_mono hfg))
  case jumps =>
    intro h f
    split_ifs with hfirst
    · exact valueAt_of_none (stepsDone_of_lt hfirst)
    · have hle : first ≤ f := UInt32.not_lt.mp hfirst
      exact valueAt_of_all (stepsDone_of_le hle (UInt32.le_trans h hle))
  case even =>
    intro f hfirst hlast
    have hlt : first < last := UInt32.lt_of_le_of_lt hfirst hlast
    have hsteps : (steps first last : ℝ) = last.toNat - first.toNat := by
      rw [steps_of_lt hlt, Nat.cast_sub (UInt32.le_iff_toNat_le.mp (UInt32.le_of_lt hlt))]
    calc _ = (finish - start) * (share first last (f + 1) - share first last f) :=
          valueAt_sub first last f (f + 1) start finish
      _ = (finish - start) / steps first last := by
          rw [share, share, stepsDone_succ hfirst hlast, Nat.cast_succ]
          ring
      _ = (finish - start) / (last.toNat - first.toNat) := by rw [hsteps]

end Ramp

namespace Curve

/-- The headings of a curve over exact numbers, frame by frame. -/
structure Turns (initial turn : ℝ) (duration : UInt32) (heading : UInt32 → ℝ) : Prop where
  starts : 0 < duration → heading 0 = initial
  /-- It turns one way, -/
  rises : 0 ≤ turn → ∀ f g, f ≤ g → heading f ≤ heading g
  falls : turn ≤ 0 → ∀ f g, f ≤ g → heading g ≤ heading f
  /-- by equal angles, -/
  even : ∀ f < duration, heading (f + 1) - heading f = turn / duration.toNat
  /-- which add up to the whole turn, -/
  whole : 0 < duration → heading duration - heading 0 = turn
  /-- and then it holds its heading. -/
  holds : ∀ f, duration ≤ f → heading f = initial + turn

theorem turns (initial turn : ℝ) (duration : UInt32) (speed : ℝ) :
    Turns initial turn duration (Curve.of initial turn duration speed).heading.valueAt := by
  have hramp := Ramp.clamped 0 duration initial (initial + turn)
  have hstarts (h : 0 < duration) :
      (Curve.of initial turn duration speed).heading.valueAt 0 = initial :=
    hramp.before h 0 UInt32.le_rfl
  have hholds (f : UInt32) (h : duration ≤ f) :
      (Curve.of initial turn duration speed).heading.valueAt f = initial + turn :=
    hramp.after f UInt32.zero_le h
  constructor
  case starts => exact hstarts
  case rises => exact fun h => hramp.rises (le_add_of_nonneg_right h)
  case falls => exact fun h => hramp.falls (add_le_of_nonpos_right h)
  case even =>
    intro f hf
    have heven := hramp.even f UInt32.zero_le hf
    rw [add_sub_cancel_left, UInt32.toNat_zero, Nat.cast_zero, sub_zero] at heven
    exact heven
  case whole =>
    intro h
    rw [hholds duration UInt32.le_rfl, hstarts h, add_sub_cancel_left]
  case holds => exact hholds

end Curve

/-! ### Shots on a curve -/

namespace Engine

variable {K : Type} [Scalar K] {e e' : Engine K} {s : Shot K} {b : Beat K} {v : Visit K}
  {body : BodyId} {w : Curve K} {n : ℕ}

/-- What has become of a shot on a curve after `n` ticks. -/
structure Curves (w : Curve K) (s : Shot K) (n : ℕ) (e : Engine K) : Prop where
  /-- Its step is as it was, -/
  bound : Bound e s.id (· = .curve w)
  /-- and in its next turn it goes on. -/
  turn : ∀ b, (e.beat b).bodies.Fits → ∀ t ∈ e.shots, t.id = s.id →
    Passes e b s (some (.ok .keep))
  /-- After that its body is where it has flown to, and flies along the heading of the frame. -/
  heading : ∀ b body, s.body = some body → (e.beat b).bodies.Fits →
    ∀ t ∈ (e.beat b).shots, t.id = s.id → t.frame = .ofNat n ∧
      ∃ x, (e.beat b).bodies.get? body = some x ∧
        (e.poised b).bodies.position? body = some x.position ∧
        x.velocity = Heading.velocity (w.heading.valueAt t.frame) w.speed ∧
        x.rotation = Scalar.toRadians (w.heading.valueAt t.frame)

/-- No turn changes a curve. -/
lemma Later.bound_curve (hl : Later e n e') (ho : e.registry.InOrder) (hage : Ages e s 0)
    (h : Bound e s.id (· = .curve w)) : Bound e' s.id (· = .curve w) :=
  hl.bound (P := fun _ step => step = .curve w) ho hage h fun n step v r _ hstep => by
    subst hstep
    exact ⟨Signal.noConfusion, rfl⟩

/-- The turn of a shot on a curve: its body is sent off along the heading of the frame. -/
lemma Runs.steered_curve (h : Runs e b s n (.curve w) v) (he : Settled e)
    (fits : (e.beat b).bodies.Fits) (hbody : s.body = some body) :
    ∃ f, (e.poised b).bodies.flight? body = some f ∧
      Steered e b body f ⟨.curve w, .keep, launchAlong (w.heading.valueAt (.ofNat n)) w.speed, []⟩
        v := by
  obtain ⟨f, u, r, hflight, hsees, -, -, hsteered⟩ := h.steered he fits hbody fun u r _ =>
    ⟨Signal.noConfusion, rfl⟩
  refine ⟨f, hflight, ?_⟩
  rw [← hsees.frame]
  exact hsteered

/-- It goes on, with a body or without. -/
lemma Runs.passes_curve (h : Runs e b s n (.curve w) v) (he : Settled e)
    (fits : (e.beat b).bodies.Fits) : Passes e b s (some (.ok .keep)) := by
  rcases hbody : s.body with _ | body
  · have hanswer : v.outcome.answer = some (.ok .keep) := h.answer
    have hleft : v.outcome.shot.step = some (.curve w) := h.left
    have hculled : v.outcome.culled = false := (h.unembodied hbody).1
    have hretired : v.outcome.retired = false := h.lawful.stays hanswer hleft hculled
    exact ⟨v, h.mem, h.met_id, h.unique, hanswer, hretired.trans hculled.symm⟩
  · obtain ⟨f, -, hsteered⟩ := h.steered_curve he fits hbody
    exact ⟨v, h.mem, h.met_id, h.unique, hsteered.answer, hsteered.retired⟩

variable {c : Catalog K} {config : Config K} {A : Step K → Prop} {op : Op K}

/-- **A shot on a curve flies along the ramp of its headings**, whatever is called and whatever the
worlds are. -/
theorem Reached.curves (h : Reached c config A e) (hs : Arrives e op s)
    (hstep : s.step = some (.curve w))
    (hspan : Span (fun _ _ => True) (fun _ _ _ => True) (e.apply op) n e') : Curves w s n e' := by
  have he : Settled (e.apply op) := Settled.apply ⟨h.inOrder, h.balanced⟩ op
  have he' : Settled e' := hspan.settled he
  have hage₀ := ages_of_arrives h.inOrder hs
  have hage := hspan.later.ages he.inOrder hage₀
  have hfirst : Bound (e.apply op) s.id (· = .curve w) := by
    intro t ht hid
    obtain rfl := he.inOrder.eq_of_id ht hs.there hid
    exact ⟨_, hstep, rfl⟩
  have hbound := hspan.later.bound_curve he.inOrder hage₀ hfirst
  have hruns {b : Beat K} (t : Shot K) (ht : t ∈ e'.shots) (hid : t.id = s.id) :
      ∃ v, Runs e' b s n (.curve w) v := by
    obtain ⟨step, hstep, rfl⟩ := hbound t ht hid
    exact hage.runs he'.inOrder ht hid hstep b
  constructor
  case bound => exact hbound
  case turn =>
    intro b fits t ht hid
    obtain ⟨v, hv⟩ := hruns t ht hid
    exact hv.passes_curve he' fits
  case heading =>
    intro b body hbody fits t ht hid
    have hnext := (hspan.beat b trivial).later.ages he.inOrder hage₀
    have hframe : t.frame = .ofNat n := ((hnext.aged t ht hid).live (Nat.succ_pos n)).2
    obtain ⟨u, hu, huid, hkept, rfl⟩ := hage.of_beat ht hid
    obtain ⟨r, hr, hrid⟩ := exists_shot_turns he'.inOrder hu
    obtain ⟨v, hv⟩ := hruns r hr (hrid.trans huid)
    obtain rfl := hv.unique u hu huid
    obtain ⟨f, hflight, hsteered⟩ := hv.steered_curve he' fits hbody
    obtain ⟨x, hx, hflown⟩ := Option.map_eq_some_iff.mp (hsteered.kept hkept).2
    obtain ⟨y, hy, rfl⟩ := Option.map_eq_some_iff.mp hflight
    have hplace : x.position = y.position := congrArg Flight.position hflown
    refine ⟨hframe, x, hx, ?_, ?_, ?_⟩
    · rw [Bodies.position?, hy, hplace]
      rfl
    · rw [hframe]
      exact congrArg Flight.velocity hflown
    · rw [hframe]
      exact congrArg Flight.rotation hflown

/-- **Ramps are clamped and monotone**, between any two frames and any two values, and in machine
words no difference of frames underflows. **So a curve turns by its turn over its duration and then
holds its heading**, and along that its shot flies on every frame, whatever is called. -/
theorem curves_follow_ramps :
    (∀ (first last : UInt32) (start finish : ℝ),
        Ramp.Clamped first last start finish (Ramp.between first last start finish).valueAt) ∧
      (∀ (first last f : UInt32) (start finish : Float32),
        (Ramp.between? first last start finish >>= (·.valueAt? f)) =
          .ok ((Ramp.between first last start finish).valueAt f)) ∧
      (∀ (initial turn : ℝ) (duration : UInt32) (speed : ℝ),
        Curve.Turns initial turn duration
          (Curve.of initial turn duration speed).heading.valueAt) ∧
      ∀ {K : Type} [Scalar K] {c : Catalog K} {config : Config K} {A : Step K → Prop}
        {e e' : Engine K} {op : Op K} {s : Shot K} {w : Curve K} {n : ℕ},
        Reached c config A e → Arrives e op s → s.step = some (.curve w) →
          Span (fun _ _ => True) (fun _ _ _ => True) (e.apply op) n e' →
            Curves w s n e' ∧ (e'.registry.queue.issued ≤ UInt32.size → e'.bodies.Fits) := by
  refine ⟨Ramp.clamped, fun first last f start finish => ?_, Curve.turns,
    fun h hs hstep hspan => ⟨h.curves hs hstep hspan, fun hissued => ?_⟩⟩
  · rw [Ramp.between?_eq]
    exact Ramp.valueAt?_eq _ f
  · have he' := hspan.settled (Settled.apply ⟨h.inOrder, h.balanced⟩ _)
    exact Nat.le_trans he'.balanced.single.slots hissued

/-- A quarter turn to the right over three ticks, and a shot on that curve after two. -/
theorem curves_follow_ramps_quarter :
    let dot : Template Float32 := ⟨"dot", some ⟨7, 1, 2⟩, none, none, Vec.zero, []⟩
    let w : Curve Float32 := .of 0 90 3 2
    let op : Op Float32 := .spawnDynamic ⟨.none, .enemyShot⟩ ⟨160, 120⟩ "dot" (.curve w)
    let e : Engine Float32 := (new ⟨#[dot]⟩ Config.default).apply op
    let e₁ := e.beat (.tick .empty)
    let e₂ := e₁.beat (.tick .empty)
    let s : Shot Float32 :=
      ⟨⟨1⟩, 0, .none, ⟨160, 120⟩, some (.curve w), .enemyShot, some ⟨0, 0⟩, 1⟩
    let heading : UInt32 → ℝ := (Curve.of 0 90 3 2).heading.valueAt
    (heading 0 = 0 ∧ heading 1 = 30 ∧ heading 2 = 60 ∧ heading 3 = 90 ∧ heading 400 = 90) ∧
      Curves w s 1 e₁ ∧
      ∃ t ∈ e₂.shots, t.id = s.id ∧ ∃ x, e₂.bodies.get? ⟨0, 0⟩ = some x ∧
        x.velocity = Heading.velocity (w.heading.valueAt 1) 2 := by
  intro dot w op e e₁ e₂ s heading
  obtain ⟨-, -, hturns, hcurves⟩ := curves_follow_ramps
  have hquarter : Curve.Turns 0 90 3 heading := hturns 0 90 3 2
  have hzero : heading 0 = 0 := hquarter.starts (by decide)
  have hthird : (90 : ℝ) / (3 : UInt32).toNat = 30 := by
    have hthree : (3 : UInt32).toNat = 3 := rfl
    rw [hthree]
    norm_num
  have hone : heading 1 - heading 0 = 30 := (hquarter.even 0 (by decide)).trans hthird
  have htwo : heading 2 - heading 1 = 30 := (hquarter.even 1 (by decide)).trans hthird
  have hthree : heading 3 = 0 + 90 := hquarter.holds 3 (by decide)
  have hlater : heading 400 = 0 + 90 := hquarter.holds 400 (by decide)
  have hreached : Reached ⟨#[dot]⟩ Config.default (fun _ => True) (new ⟨#[dot]⟩ Config.default) :=
    .new
  have hshots : e.shots = [s] := by with_unfolding_all rfl
  have harrives : Arrives (new ⟨#[dot]⟩ Config.default) op s :=
    ⟨hshots ▸ List.mem_singleton_self s, fun t ht => by cases ht⟩
  have hspan : Span (fun _ _ => True) (fun _ _ _ => True) e 1 e₁ := Span.start.beat _ trivial
  obtain ⟨hcurve, -⟩ := hcurves hreached harrives rfl hspan
  obtain ⟨-, hfits⟩ := hcurves hreached harrives rfl (hspan.beat (.tick .empty) trivial)
  have hthere : ∃ t ∈ e₂.shots, t.id = s.id := by decide +kernel
  obtain ⟨t, ht, hid⟩ := hthere
  obtain ⟨hframe, x, hx, -, hvelocity, -⟩ :=
    hcurve.heading (.tick .empty) ⟨0, 0⟩ rfl (hfits (by decide +kernel)) t ht hid
  rw [hframe] at hvelocity
  refine ⟨⟨hzero, ?_, ?_, ?_, ?_⟩, hcurve, t, ht, hid, x, hx, hvelocity⟩ <;> linarith

end Engine

end Barrage
