import Barrage.Checked.Step
import Barrage.Proofs.Scalar.Counts

/-!
Turns that nothing stops.

Every operation of a step that could stop it has its guard: a period, a half period and a divided
count are at least one, a depth is taken off only where there is one left, a frame is measured only
from where a ramp has begun, and the one product of words saturates. So the checked program of a
step comes to the turn of the step, whatever its parameters, the frame and the world are. The
exception is a draw, which no guard of the step covers: the generator may refuse the range.
-/

namespace Barrage

open Checked (difference product quotient ratio remainder rounds roundsFrom roundsThrough
  saturatingDifference saturatingProduct)
open Scalar (nat)

/-! ### Words -/

namespace Checked

variable {α β : Type} {x y : UInt32}

@[simp] lemma pure_eq (a : α) : (pure a : Checked α) = .ok a := rfl

@[simp] lemma ok_bind (a : α) (f : α → Checked β) : (Except.ok a >>= f) = f a := rfl

lemma difference_of_le (h : y ≤ x) : difference x y = .ok (x - y) := if_pos h

lemma quotient_of_pos (h : 0 < y.toNat) : quotient x y = .ok (x / y) := by
  refine if_neg fun hy => ?_
  subst hy
  simp at h

lemma remainder_of_pos (h : 0 < y.toNat) : remainder x y = .ok (x % y) := by
  refine if_neg fun hy => ?_
  subst hy
  simp at h

lemma toNat_max (x y : UInt32) : (max x y).toNat = max x.toNat y.toNat := by
  change (if x ≤ y then y else x).toNat = _
  simp only [UInt32.le_iff_toNat_le]
  split <;> omega

lemma toNat_saturatingProduct (x y : UInt32) :
    (saturatingProduct x y).toNat = min (x.toNat * y.toNat) 0xFFFFFFFF := by
  rw [saturatingProduct, product, UInt32.size]
  split
  · rename_i hlt
    rw [Checked.rescued, UInt32.toNat_mul]
    omega
  · rename_i hge
    change 0xFFFFFFFF = _
    omega

lemma toNat_saturatingDifference (x y : UInt32) :
    (saturatingDifference x y).toNat = x.toNat - y.toNat := by
  rw [saturatingDifference, difference]
  split
  · rename_i hle
    exact UInt32.toNat_sub_of_le x y hle
  · rename_i hlt
    rw [UInt32.le_iff_toNat_le] at hlt
    change 0 = x.toNat - y.toNat
    omega

lemma roundsFrom_eq (i stop : UInt32) : roundsFrom i stop = .ok (stop.toNat - i.toNat) := by
  induction hn : stop.toNat - i.toNat generalizing i with
  | zero =>
    have hstop : ¬ i < stop := by
      rw [UInt32.lt_iff_toNat_lt]
      omega
    rw [roundsFrom, dif_neg hstop]
  | succ n ih =>
    have hi : i < stop := by
      rw [UInt32.lt_iff_toNat_lt]
      omega
    have hlt := stop.toNat_lt
    have hsum : sum i 1 = .ok (i + 1) := if_pos (by
      change i.toNat + 1 < 2 ^ 32
      omega)
    have hnext := toNat_of_sum_one hsum
    rw [roundsFrom, dif_pos hi]
    split
    · rename_i next hnext'
      obtain rfl := Except.ok.inj (hsum.symm.trans hnext')
      rw [ih (i + 1) (by omega)]
      simp [Except.map]
    · rename_i t ht
      rw [hsum] at ht
      cases ht

@[simp] lemma rounds_eq (count : UInt32) : rounds count = .ok count.toNat := by
  simp [rounds, roundsFrom_eq]

@[simp] lemma roundsThrough_eq (last : UInt32) : roundsThrough last = .ok (last.toNat + 1) := by
  simp [roundsThrough, roundsFrom_eq, Except.map]

lemma ratio_count {n : Nat} (h : 0 < n) (x : Float32) : ratio x (nat n) = .ok (x / nat n) := by
  rw [ratio, Single.nat_ne_zero h]
  rfl

/-! ### Refusals -/

/-- The program comes to a value, unless something does not hold; then it may be a refused draw that
stops it. -/
def Gives (x : Checked α) (a : α) (p : Prop) : Prop := x = .ok a ∨ ¬ p ∧ x = .error .range

variable {p q : Prop} {a : α} {b : β} {x : Checked α}

lemma Gives.eq_ok (h : Gives x a p) (hp : p) : x = .ok a := h.resolve_right fun hr => hr.1 hp

lemma Gives.mono (h : Gives x a p) (hqp : q → p) : Gives x a q := h.imp id (.imp (mt hqp) id)

lemma Gives.bind {f : α → Checked β} (h : Gives x a p) (hf : Gives (f a) b p) :
    Gives (x >>= f) b p := by
  rcases h with rfl | ⟨hp, rfl⟩
  · exact hf
  · exact .inr ⟨hp, rfl⟩

end Checked

open Checked (Gives)

lemma Random.gives_between? (low high : Float32) (r : Random) :
    Gives (r.between? low high) (r.between low high) (Admits low high) := by
  rw [between?]
  split
  · exact .inl rfl
  · rename_i h
    exact .inr ⟨h, rfl⟩

/-! ### Ramps -/

namespace Ramp

/-- **A ramp is built** between any two frames. -/
theorem between?_eq (first last : UInt32) (start finish : Float32) :
    between? first last start finish = .ok (between first last start finish) := by
  have hspan : (max (saturatingDifference last first) 1).toNat =
      max (last.toNat - first.toNat) 1 := by
    rw [Checked.toNat_max, Checked.toNat_saturatingDifference]
    rfl
  rw [between?, hspan, Checked.ratio_count (by omega)]
  rfl

/-- **A ramp has a value** at every frame. -/
theorem valueAt?_eq (r : Ramp Float32) (frame : UInt32) :
    r.valueAt? frame = .ok (r.valueAt frame) := by
  rw [valueAt?, valueAt]
  split
  · rfl
  · rename_i hfirst
    have hle : r.first ≤ frame := UInt32.not_lt.mp hfirst
    split
    · rw [Checked.difference_of_le hle, Checked.ok_bind, UInt32.toNat_sub_of_le _ _ hle]
      rfl
    · rfl

end Ramp

/-! ### Periods and rings -/

lemma toNat_period (every : UInt32) : (max every 1).toNat = period every :=
  Checked.toNat_max every 1

lemma period_pos (every : UInt32) : 0 < period every := by
  rw [period]
  omega

lemma fires?_eq (frame every : UInt32) : fires? frame every = .ok (fires frame every) := by
  have hvalue : (frame % max every 1 == 0) = fires frame every := by
    rw [fires, ← toNat_period, ← UInt32.toNat_mod, Bool.eq_iff_iff, beq_iff_eq, beq_iff_eq,
      ← UInt32.toNat_inj]
    rfl
  rw [fires?, Checked.remainder_of_pos (toNat_period every ▸ period_pos every), Checked.ok_bind,
    hvalue]
  rfl

lemma ring?_eq (count : UInt32) (first : Float32) :
    ring? count first = .ok (count.toNat, ring count first) := by
  rw [ring?, toNat_period, Checked.ratio_count (period_pos count), Checked.rounds_eq]
  rfl

lemma aimedVolley?_eq (template : String) (place : Vec Float32) (count : UInt32)
    (first turn speed speedStep : Float32) :
    aimedVolley? template place count first turn speed speedStep =
      .ok (aimedVolley template place count first turn speed speedStep) := by
  rw [aimedVolley?, Checked.rounds_eq]
  rfl

/-! ### Bullets -/

lemma gives_drawnOnce? (v : View Float32) (low high : Float32)
    (motions : Float32 → List (Motion Float32)) (r : Random) :
    Gives (drawnOnce? v low high motions r) (drawnOnce v low high motions r)
      (Random.Admits low high) := by
  rw [drawnOnce?, drawnOnce]
  split
  · exact (r.gives_between? low high).bind (.inl rfl)
  · exact .inl rfl

lemma Aimed.gives_run? (s : Aimed Float32) (v : View Float32) (r : Random) :
    Gives (s.run? v r) (s.run v r) (Random.Admits (-s.spread) s.spread) :=
  (gives_drawnOnce? v _ _ _ r).bind (.inl rfl)

lemma Scatter.gives_run? (s : Scatter Float32) (v : View Float32) (r : Random) :
    Gives (s.run? v r) (s.run v r) (Random.Admits (-s.spread) s.spread) :=
  (gives_drawnOnce? v _ _ _ r).bind (.inl rfl)

lemma Homing.run?_eq (s : Homing Float32) (v : View Float32) : s.run? v = .ok (s.run v) := by
  have hchase (target : Vec Float32) : s.chase? v target = .ok (s.chase v target) := by
    rw [chase?, chase]
    split
    · rename_i hfar
      have hratio : ratio (nat 1) (target - v.position).norm =
          .ok (nat 1 / (target - v.position).norm) := by
        rw [ratio, Single.ne_zero_of_arrival_le hfar]
        rfl
      rw [Vec.unit?, hratio]
      rfl
    · rfl
  rw [run?, run]
  generalize (if v.frame = 0 then acquire v else s.target) = target
  rcases target with _ | o
  · rfl
  · rcases hlocate : v.world.locate o with _ | p
    · simp [hlocate]
    · simp [hlocate, hchase]

lemma Sway.run?_eq (s : Sway Float32) (v : View Float32) : s.run? v = .ok (s.run v) := by
  have hgrows : s.grows? v.frame = .ok (s.grows v.frame) := by
    have hwhole : (saturatingProduct (max s.halfPeriod 1) 2).toNat =
        min (2 * period s.halfPeriod) 0xFFFFFFFF := by
      rw [Checked.toNat_saturatingProduct, toNat_period, Nat.mul_comm]
      rfl
    have hpos := period_pos s.halfPeriod
    rw [grows?, Checked.remainder_of_pos (by omega), grows]
    simp only [Checked.ok_bind, Checked.pure_eq, UInt32.lt_iff_toNat_lt, UInt32.toNat_mod, hwhole,
      toNat_period]
  rw [run?, hgrows]
  rfl

lemma Wobble.gives_run? (s : Wobble Float32) (v : View Float32) (r : Random) :
    Gives (s.run? v r) (s.run v r) (Random.Admits (-s.jitter) s.jitter) := by
  rw [run?, run, fires?_eq]
  split
  · exact .inl rfl
  · rw [Checked.ok_bind]
    split
    · exact (r.gives_between? _ _).bind (.inl rfl)
    · exact .inl rfl

lemma Curve.run?_eq (s : Curve Float32) (v : View Float32) : s.run? v = .ok (s.run v) := by
  rw [run?, Ramp.valueAt?_eq]
  rfl

lemma Zigzag.run?_eq (s : Zigzag Float32) (v : View Float32) : s.run? v = .ok (s.run v) := by
  have hwhole : (max s.period 2).toNat = max s.period.toNat 2 := Checked.toNat_max s.period 2
  have hphase : v.frame % max s.period 2 = 0 ↔ v.frame.toNat % max s.period.toNat 2 = 0 := by
    rw [← UInt32.toNat_inj, UInt32.toNat_mod, hwhole]
    rfl
  have hhalf : v.frame % max s.period 2 = max s.period 2 / 2 ↔
      v.frame.toNat % max s.period.toNat 2 = max s.period.toNat 2 / 2 := by
    rw [← UInt32.toNat_inj, UInt32.toNat_mod, UInt32.toNat_div, hwhole]
    rfl
  rw [run?, run, Checked.remainder_of_pos (by omega), Checked.quotient_of_pos (by decide)]
  simp only [Checked.ok_bind, Checked.pure_eq, hphase, hhalf]
  split <;> rfl

/-! ### Shots that fire once -/

lemma Burst.run?_eq (s : Burst Float32) (v : View Float32) : s.run? v = .ok (s.run v) := by
  rw [run?, ring?_eq]
  rfl

lemma Fan.run?_eq (s : Fan Float32) (v : View Float32) : s.run? v = .ok (s.run v) := by
  have hspacing : s.spacing? =
      .ok (if s.count = 0 then nat 0 else s.span / nat s.count.toNat) := by
    rw [spacing?]
    split
    · rfl
    · rename_i hcount
      refine Checked.ratio_count (Nat.pos_of_ne_zero fun h0 => hcount ?_) _
      exact UInt32.toNat_inj.mp h0
  rw [run?, hspacing, Checked.ratio_count (by decide), Checked.roundsThrough_eq]
  rfl

lemma Volley.run?_eq (s : Volley Float32) (v : View Float32) : s.run? v = .ok (s.run v) := by
  rw [run?, aimedVolley?_eq]
  rfl

lemma LaserBurst.run?_eq (s : LaserBurst Float32) (v : View Float32) :
    s.run? v = .ok (s.run v) := by
  rw [run?, ring?_eq]
  rfl

/-! ### Emitters -/

lemma onPeriod?_eq {v : View Float32} {every : UInt32} {orders? : Checked (List (Order Float32))}
    {orders : List (Order Float32)} (h : orders? = .ok orders) :
    onPeriod? v every orders? = .ok (onPeriod v every orders) := by
  rw [onPeriod?, onPeriod, fires?_eq, Checked.ok_bind, h]
  split <;> rfl

lemma emit?_eq {v : View Float32} {step : Step Float32}
    {orders? : Vec Float32 → Checked (List (Order Float32))}
    {orders : Vec Float32 → List (Order Float32)}
    (h : ∀ place, orders? place = .ok (orders place)) :
    emit? v step orders? = .ok (emit v step orders) := by
  rw [emit?, emit]
  rcases v.source with _ | place
  · rfl
  · simp [h]

lemma ordersOf?_eq {α : Type} (extra : Option α) {orders? : α → Checked (List (Order Float32))}
    {orders : α → List (Order Float32)} (h : ∀ a, orders? a = .ok (orders a)) :
    ordersOf? extra orders? = .ok (extra.toList.flatMap orders) := by
  rcases extra with _ | a
  · rfl
  · simp [ordersOf?, h]

lemma Flower.run?_eq (s : Flower Float32) (v : View Float32) : s.run? v = .ok (s.run v) := by
  refine emit?_eq fun place => onPeriod?_eq ?_
  rw [ring?_eq]
  rfl

lemma Spiral.run?_eq (s : Spiral Float32) (v : View Float32) : s.run? v = .ok (s.run v) := by
  refine emit?_eq fun place => onPeriod?_eq ?_
  rw [ring?_eq]
  rfl

lemma Stream.run?_eq (s : Stream Float32) (v : View Float32) : s.run? v = .ok (s.run v) := by
  refine emit?_eq fun place => ?_
  simp only [Checked.pure_eq, onPeriod?_eq rfl, Checked.ok_bind]
  rw [ordersOf?_eq s.extra fun _ => rfl]
  rfl

lemma Rain.run?_eq (s : Rain Float32) (v : View Float32) (r : Random) :
    s.run? v r = .ok (s.run v r) := by
  have hdraw : r.between? (nat 0) (nat 1) = .ok (r.between (nat 0) (nat 1)) :=
    if_pos (by decide +kernel)
  have hvolleys (place : Vec Float32) : ordersOf? s.volley (fun w => onPeriod? v w.every do
      let volley ← aimedVolley? w.template place w.count w.first w.turn w.speed (nat 0)
      return [volley]) =
        .ok (s.volley.toList.flatMap fun w => onPeriod v w.every [volleyOrder w place]) := by
    refine ordersOf?_eq s.volley fun w => onPeriod?_eq ?_
    rw [aimedVolley?_eq]
    rfl
  rw [run?, run]
  rcases v.source with _ | place
  · rfl
  · simp only [drops?, fires?_eq, hdraw, hvolleys, Checked.ok_bind]
    split <;> rfl

lemma Cascade.run?_eq (s : Cascade Float32) (v : View Float32) : s.run? v = .ok (s.run v) := by
  refine emit?_eq fun place => onPeriod?_eq ?_
  rw [Checked.quotient_of_pos (toNat_period s.every ▸ period_pos s.every)]
  simp only [Checked.ok_bind, UInt32.toNat_div, toNat_period, ring?_eq]
  rfl

/-! ### Shots that split, and lasers -/

lemma Fractal.run?_eq (s : Fractal Float32) (v : View Float32) : s.run? v = .ok (s.run v) := by
  rw [run?, run]
  split
  · rfl
  · rename_i hdepth
    split
    · rfl
    · have hone : (1 : UInt32) ≤ s.depth := by
        rw [UInt32.le_iff_toNat_le]
        have : s.depth.toNat ≠ 0 := fun h0 => hdepth (UInt32.toNat_inj.mp h0)
        change 1 ≤ s.depth.toNat
        omega
      rw [ring?_eq, Checked.difference_of_le hone]
      rfl

lemma Laser.run?_eq (s : Laser Float32) (v : View Float32) : s.run? v = .ok (s.run v) := by
  have hgrows (s : Laser Float32) (frame : UInt32) : s.grows? frame = .ok (s.grows frame) := by
    have hwhole : (max s.bendPeriod 2).toNat = max s.bendPeriod.toNat 2 :=
      Checked.toNat_max s.bendPeriod 2
    rw [grows?, grows, Checked.remainder_of_pos (by omega), Checked.quotient_of_pos (by decide)]
    simp only [Checked.ok_bind, Checked.pure_eq, UInt32.lt_iff_toNat_lt, UInt32.toNat_mod,
      UInt32.toNat_div, hwhole]
    rfl
  have hmoved (s : Laser Float32) (frame : UInt32) : s.moved? frame = .ok (s.moved frame) := by
    rw [moved?, moved, bent?, bent, hgrows]
    split
    · rfl
    · rw [Checked.ok_bind]
      split <;> rfl
  rw [run?, hmoved]
  rfl

/-! ### All kinds -/

namespace Step

/-- The generator refuses none of the ranges of the step. -/
def Drawable (s : Step Float32) : Prop := ∀ range ∈ s.ranges, Random.Admits range.1 range.2

/-- **Nothing but a refused draw stops the turn of a step**, whatever its kind and its parameters,
at any frame, in any world. -/
theorem gives_run? (s : Step Float32) (v : View Float32) (r : Random) :
    Gives (s.run? v r) (s.run v r) s.Drawable := by
  have hturn {t? : Checked (Turn Float32)} {t : Turn Float32} (h : t? = .ok t) :
      Gives (t?.map (·, r)) (t, r) s.Drawable := .inl (by rw [h]; rfl)
  cases s with
  | launch s | accelerate s | angled s | orbit s | segment s => exact .inl rfl
  | aimed s => exact (s.gives_run? v r).mono fun h => h (-s.spread, s.spread) (.head _)
  | scatter s => exact (s.gives_run? v r).mono fun h => h (-s.spread, s.spread) (.head _)
  | wobble s => exact (s.gives_run? v r).mono fun h => h (-s.jitter, s.jitter) (.head _)
  | homing s => exact hturn (s.run?_eq v)
  | sway s => exact hturn (s.run?_eq v)
  | curve s => exact hturn (s.run?_eq v)
  | zigzag s => exact hturn (s.run?_eq v)
  | burst s => exact hturn (s.run?_eq v)
  | fan s => exact hturn (s.run?_eq v)
  | volley s => exact hturn (s.run?_eq v)
  | flower s => exact hturn (s.run?_eq v)
  | spiral s => exact hturn (s.run?_eq v)
  | stream s => exact hturn (s.run?_eq v)
  | rain s => exact .inl (s.run?_eq v r)
  | laser s => exact hturn (s.run?_eq v)
  | laserBurst s => exact hturn (s.run?_eq v)
  | fractal s => exact hturn (s.run?_eq v)
  | cascade s => exact hturn (s.run?_eq v)

end Step

end Barrage
