import Barrage.Proofs.Lasers
import Barrage.Proofs.Memory
import Barrage.Scalar.Exact

/-!
Swings.

The angle of a sway, and that of a laser with a bend, grows by a rate on some ticks and shrinks by
it on the others; which of the two it is depends on where the frame lies in a period. If both halves
of the period are equally long the angle swings: it is back at zero after every whole period, and it
never leaves the stretch from zero to what half a period adds up to. The halves of a sway are as
long as each other. Those of a laser are so if its period is even; an odd period has one tick more
in its second half, and the angle is off by one more bend after every whole period.
-/

namespace Barrage

open Scalar (nat)
open Engine (Reached Arrives Later Ages)

variable {K : Type} [Scalar K]

/-- An angle after the frames below `n`, when it starts at zero. -/
def swing (rate : K) (grows : UInt32 → Bool) : Nat → K
  | 0 => nat 0
  | n + 1 => if grows (.ofNat n) then swing rate grows n + rate else swing rate grows n - rate

/-- A whole period. -/
def Sway.whole (w : Sway K) : Nat := 2 * period w.halfPeriod

def Laser.whole (l : Laser K) : Nat := max l.bendPeriod.toNat 2

/-- An angle swings. -/
structure Swings (rate : ℝ) (whole : ℕ) (grows : UInt32 → Bool) : Prop where
  /-- In a whole period it grows as often as it shrinks. -/
  balanced : ∀ j, whole * (j + 1) ≤ UInt32.size →
    (Finset.filter (fun k => grows (.ofNat k) = true)
        (Finset.Ico (whole * j) (whole * (j + 1)))).card =
      (Finset.filter (fun k => ¬ grows (.ofNat k) = true)
        (Finset.Ico (whole * j) (whole * (j + 1)))).card
  returns : ∀ j, whole * j ≤ UInt32.size → swing rate grows (whole * j) = 0
  range : ∀ n ≤ UInt32.size, swing rate grows n ∈ Set.uIcc 0 ((whole / 2 : ℕ) * rate)
  /-- The direction is switched every half period. -/
  switched : ∀ k < UInt32.size, grows (.ofNat k) = true ↔ Even (k / (whole / 2))

/-! ### Frames and periods -/

lemma div_mod_succ {m n : ℕ} (hm : 0 < m) :
    n % m + 1 < m ∧ (n + 1) / m = n / m ∧ (n + 1) % m = n % m + 1 ∨
      n % m + 1 = m ∧ (n + 1) / m = n / m + 1 ∧ (n + 1) % m = 0 := by
  have hn := Nat.mod_add_div n m
  rcases Nat.lt_or_eq_of_le (Nat.mod_lt n hm) with hlt | heq
  · exact .inl ⟨hlt, (Nat.div_mod_unique hm).mpr ⟨by omega, hlt⟩⟩
  · have hnext : 0 + m * (n / m + 1) = n + 1 := by
      rw [Nat.mul_succ]
      omega
    exact .inr ⟨heq, (Nat.div_mod_unique hm).mpr ⟨hnext, hm⟩⟩

/-- How many of the first `n` frames lie in the first part of a period. -/
lemma count_mod_lt {whole half : ℕ} (hwhole : 0 < whole) (hhalf : half ≤ whole) (n : ℕ) :
    Nat.count (· % whole < half) n = half * (n / whole) + min (n % whole) half := by
  induction n with
  | zero => simp
  | succ n ih =>
    rw [Nat.count_succ, ih]
    rcases div_mod_succ (n := n) hwhole with ⟨hlt, hdiv, hmod⟩ | ⟨heq, hdiv, hmod⟩
    · rw [hdiv, hmod]
      split_ifs <;> omega
    · rw [hdiv, hmod, Nat.mul_succ]
      split_ifs <;> omega

/-- On the first `half` frames of every `whole` the angle grows. -/
structure Alternates (grows : UInt32 → Bool) (whole half : ℕ) : Prop where
  pos : 0 < whole
  le : half ≤ whole
  grows : ∀ k < UInt32.size, grows (.ofNat k) = true ↔ k % whole < half

namespace Alternates

variable {grows : UInt32 → Bool} {whole half n j : ℕ} {rate : ℝ}

/-- The angle is the rate times how much oftener it has grown than shrunk. -/
lemma swing_exact (h : Alternates grows whole half) (hn : n ≤ UInt32.size) :
    swing rate grows n = rate * (2 * Nat.count (· % whole < half) n - n) := by
  induction n with
  | zero => simp [swing]
  | succ n ih =>
    have hgrows := h.grows n hn
    rw [swing, Nat.count_succ, ih (Nat.le_of_succ_le hn)]
    by_cases hfirst : n % whole < half
    · rw [if_pos (hgrows.mpr hfirst), if_pos hfirst]
      push_cast
      ring
    · rw [if_neg (hfirst ∘ hgrows.mp), if_neg hfirst]
      push_cast
      ring

lemma mul_lt (hj : whole * (j + 1) ≤ UInt32.size) {k : ℕ}
    (hk : k ∈ Finset.Ico (whole * j) (whole * (j + 1))) : k < UInt32.size :=
  Nat.lt_of_lt_of_le (Finset.mem_Ico.mp hk).2 hj

/-- How often an angle grows in a whole period. -/
lemma card_grows (h : Alternates grows whole half) (hj : whole * (j + 1) ≤ UInt32.size) :
    (Finset.filter (fun k => grows (.ofNat k) = true)
      (Finset.Ico (whole * j) (whole * (j + 1)))).card = half := by
  have hsame : Finset.filter (fun k => grows (.ofNat k) = true)
      (Finset.Ico (whole * j) (whole * (j + 1))) =
      Finset.filter (fun k => k % whole < half) (Finset.Ico (whole * j) (whole * j + whole)) :=
    Finset.filter_congr fun k hk => h.grows k (mul_lt hj hk)
  have hperiodic : Function.Periodic (· % whole < half) whole := fun k => by simp
  rw [hsame, Nat.filter_Ico_card_eq_of_periodic _ _ _ hperiodic, count_mod_lt h.pos h.le,
    Nat.div_self h.pos, Nat.mod_self, Nat.zero_min, Nat.mul_one, Nat.add_zero]

/-- How often it shrinks. -/
lemma card_shrinks (h : Alternates grows whole half) (hj : whole * (j + 1) ≤ UInt32.size) :
    (Finset.filter (fun k => ¬ grows (.ofNat k) = true)
      (Finset.Ico (whole * j) (whole * (j + 1)))).card = whole - half := by
  have hall := Finset.card_filter_add_card_filter_not
    (s := Finset.Ico (whole * j) (whole * (j + 1))) (fun k => grows (.ofNat k) = true)
  rw [h.card_grows hj, Nat.card_Ico, ← Nat.mul_sub, Nat.add_sub_cancel_left, Nat.mul_one] at hall
  omega

/-- After whole periods an angle is off by the difference of the two parts. -/
lemma swing_mul (h : Alternates grows whole half) (hj : whole * j ≤ UInt32.size) :
    swing rate grows (whole * j) = rate * (j * (2 * half - whole)) := by
  rw [h.swing_exact hj, count_mod_lt h.pos h.le, Nat.mul_div_cancel_left j h.pos,
    Nat.mul_mod_right, Nat.zero_min, Nat.add_zero]
  push_cast
  ring

/-- Parts that are equally long make a swing. -/
lemma swings_of_half (h : Alternates grows (2 * half) half) : Swings rate (2 * half) grows := by
  have hpos := h.pos
  have hhalf : 2 * half / 2 = half := Nat.mul_div_cancel_left half (by decide)
  constructor
  case balanced =>
    intro j hj
    rw [h.card_grows hj, h.card_shrinks hj]
    omega
  case returns =>
    intro j hj
    rw [h.swing_mul hj]
    push_cast
    ring
  case range =>
    intro n hn
    -- what is left of the angle is a stretch of so many ticks
    obtain ⟨m, hm, hcount⟩ : ∃ m ≤ half, 2 * Nat.count (· % (2 * half) < half) n = n + m := by
      have hn := Nat.mod_add_div n (2 * half)
      have hlt := Nat.mod_lt n hpos
      rw [count_mod_lt hpos h.le, Nat.mul_add, ← Nat.mul_assoc]
      rcases Nat.le_total (n % (2 * half)) half with hle | hle
      · exact ⟨n % (2 * half), hle, by omega⟩
      · exact ⟨2 * half - n % (2 * half), by omega, by omega⟩
    have hangle : swing rate grows n = m * rate := by
      have hcast : (2 * Nat.count (· % (2 * half) < half) n : ℝ) = n + m := by exact_mod_cast hcount
      rw [h.swing_exact hn, hcast]
      ring
    have hle : (m : ℝ) ≤ half := Nat.cast_le.mpr hm
    rw [hangle, hhalf, Set.mem_uIcc]
    rcases le_total 0 rate with hrate | hrate
    · exact .inl ⟨by positivity, mul_le_mul_of_nonneg_right hle hrate⟩
    · exact .inr ⟨mul_le_mul_of_nonpos_right hle hrate,
        mul_nonpos_of_nonneg_of_nonpos (Nat.cast_nonneg m) hrate⟩
  case switched =>
    intro k hk
    rw [h.grows k hk, hhalf, Nat.even_iff, ← Nat.mod_mul_right_div_self, Nat.div_eq_zero_iff_lt,
      Nat.mul_comm]
    omega

end Alternates

/-! ### Sways and lasers -/

omit [Scalar K] in
/-- The halves of a sway are equally long, as far as twice the half period can be counted. -/
lemma Sway.alternates {w : Sway K} (h : w.halfPeriod.toNat ≤ 2 ^ 31 - 1) :
    Alternates w.grows w.whole (period w.halfPeriod) := by
  have hpos : 0 < period w.halfPeriod := by
    rw [period]
    omega
  have hmin : min (2 * period w.halfPeriod) 0xFFFFFFFF = w.whole := by
    rw [whole, period]
    omega
  refine ⟨by rw [whole]; omega, by rw [whole]; omega, fun k hk => ?_⟩
  rw [grows, UInt32.toNat_ofNat_of_lt' hk]
  simp only [hmin, decide_eq_true_eq]

omit [Scalar K] in
lemma Laser.alternates (l : Laser K) : Alternates l.grows l.whole (l.whole / 2) := by
  refine ⟨by rw [whole]; omega, Nat.div_le_self _ _, fun k hk => ?_⟩
  rw [grows, UInt32.toNat_ofNat_of_lt' hk]
  simp only [whole, decide_eq_true_eq]

/-- A laser swings if its period is even, and only then. -/
lemma Laser.swings_iff (l : Laser ℝ) : Swings l.bend l.whole l.grows ↔ Even l.whole := by
  have halternates := l.alternates
  constructor
  · intro h
    have hone : l.whole * (0 + 1) ≤ UInt32.size := by
      have hlt := l.bendPeriod.toNat_lt
      rw [whole, UInt32.size]
      omega
    have hbalanced := h.balanced 0 hone
    rw [halternates.card_grows hone, halternates.card_shrinks hone] at hbalanced
    exact ⟨l.whole / 2, by omega⟩
  · intro h
    have htwice : l.whole = 2 * (l.whole / 2) := (Nat.two_mul_div_two_of_even h).symm
    rw [htwice] at halternates ⊢
    rw [Nat.mul_div_cancel_left _ (by decide)] at halternates
    exact halternates.swings_of_half

/-! ### Steps that swing -/

/-- A sway with its angle. -/
def Sway.At (w : Sway K) (angle : K) (step : Step K) : Prop := step = .sway { w with angle }

/-- A laser with its bend, wherever its cursor is. -/
def Laser.At (l : Laser K) (angle : K) (step : Step K) : Prop :=
  ∃ cursor direction, step = .laser { l with cursor, direction, bendAngle := angle }

/-- An angle after `n` ticks, which says nothing yet before the first. -/
def Swung (rate : K) (grows : UInt32 → Bool) (n : Nat) (angle : K) : Prop :=
  ∀ m, n = m + 1 → angle = swing rate grows ((UInt32.ofNat m).toNat + 1)

variable {rate : K} {grows : UInt32 → Bool} {n : Nat} {angle : K}

/-- A turn goes on from where the last one has come to, and from zero at frame zero. -/
lemma Swung.start (h : Swung rate grows n angle) :
    (if UInt32.ofNat n = 0 then nat 0 else angle) = swing rate grows (UInt32.ofNat n).toNat := by
  split_ifs with hzero
  · rw [hzero]
    rfl
  · rcases n with _ | m
    · exact absurd rfl hzero
    · have hnext : (UInt32.ofNat (m + 1)).toNat = (UInt32.ofNat m).toNat + 1 := by
        have hne : (UInt32.ofNat (m + 1)).toNat ≠ 0 := fun h => hzero (UInt32.toNat_inj.mp h)
        rw [UInt32.toNat_ofNat'] at hne ⊢
        rw [UInt32.toNat_ofNat']
        omega
      rw [h m rfl, hnext]

/-- A turn takes an angle on. -/
lemma Swung.next (h : Swung rate grows n angle) {frame : UInt32} (hframe : frame = .ofNat n) :
    Swung rate grows (n + 1)
      (if grows frame then (if frame = 0 then nat 0 else angle) + rate
        else (if frame = 0 then nat 0 else angle) - rate) := by
  intro m hm
  obtain rfl : n = m := Nat.succ.inj hm
  rw [swing, UInt32.ofNat_toNat, hframe, h.start]

lemma Sway.swung_run {w : Sway K} {step : Step K} (h : ∃ angle, w.At angle step ∧
      Swung w.rate w.grows n angle) {v : View K} (hframe : v.frame = .ofNat n) (r : Random) :
    (step.run v r).1.signal ≠ .detach ∧ ∃ angle, w.At angle (step.run v r).1.step ∧
      Swung w.rate w.grows (n + 1) angle := by
  obtain ⟨angle, rfl, hangle⟩ := h
  refine ⟨?_, _, rfl, hangle.next hframe⟩
  simp only [Step.run, run]
  split_ifs <;> simp

lemma Laser.bent_exact (l : Laser ℝ) (frame : UInt32) (angle : ℝ) :
    l.bent frame angle = if l.grows frame then angle + l.bend else angle - l.bend := by
  rw [bent]
  split_ifs with hzero
  · rw [Exact.beq_eq, Exact.nat_eq] at hzero
    rw [hzero]
    simp
  · rw [Exact.beq_eq, Exact.nat_eq] at hzero
    rw [hzero]
    simp
  · rfl
  · rfl

lemma Laser.swung_run {l : Laser ℝ} {step : Step ℝ} (h : ∃ angle, l.At angle step ∧
      Swung l.bend l.grows n angle) {v : View ℝ} (hframe : v.frame = .ofNat n) (r : Random) :
    (step.run v r).1.signal ≠ .detach ∧ ∃ angle, l.At angle (step.run v r).1.step ∧
      Swung l.bend l.grows (n + 1) angle := by
  obtain ⟨angle, ⟨cursor, direction, rfl⟩, hangle⟩ := h
  have hnext := hangle.next hframe
  rw [← l.bent_exact] at hnext
  constructor
  · simp only [Step.run, run]
    split_ifs <;> simp
  · refine ⟨_, ?_, hnext⟩
    by_cases hzero : v.frame = 0
    · simp only [Step.run, run, if_pos hzero]
      exact ⟨_, _, rfl⟩
    · simp only [Step.run, run, if_neg hzero]
      exact ⟨_, _, rfl⟩

/-- The bend of a laser that is on its own, after the tick `k`. -/
lemma Laser.bendAngle_passed (l : Laser ℝ) (s : Shot ℝ) (config : Config ℝ) (world : ℕ → World ℝ)
    {k : ℕ} (hk : k < UInt32.size) :
    (l.passed (s.outlook config world) k).bendAngle = swing l.bend l.grows (k + 1) := by
  have hpassed (k : ℕ) : (l.passed (s.outlook config world) k).bendAngle =
      l.bent (.ofNat k) (l.laying (s.outlook config world) k).bendAngle := by
    obtain ⟨cursor, direction, bendAngle, hlaying⟩ := l.exists_laying (s.outlook config world) k
    rw [passed, hlaying]
    rfl
  induction k with
  | zero =>
    rw [hpassed, bent_exact]
    rfl
  | succ k ih =>
    rw [hpassed, (l.path s config world).next k hk, ih (Nat.lt_of_succ_lt hk), bent_exact]
    rfl

namespace Engine

/-- After each of its turns the step of a shot has an angle that grows and shrinks by the frames. -/
def Swinging (e : Engine ℝ) (s : Shot ℝ) (rate : ℝ) (grows : UInt32 → Bool)
    (At : ℝ → Step ℝ → Prop) : Prop :=
  ∀ n e', Later e n e' → 0 < n → ∀ t ∈ e'.shots, t.id = s.id → t.frame = .ofNat (n - 1) ∧
    ∃ step, t.step = some step ∧ At (swing rate grows (t.frame.toNat + 1)) step

variable {c : Catalog ℝ} {config : Config ℝ} {A : Step ℝ → Prop} {e : Engine ℝ} {op : Op ℝ}
  {s : Shot ℝ}

/-- What every turn takes on, a run takes on. -/
lemma swinging_of_turn {rate : ℝ} {grows : UInt32 → Bool} {At : ℝ → Step ℝ → Prop}
    (ho : e.registry.InOrder) (hs : Arrives e op s) {step : Step ℝ} (hstep : s.step = some step)
    {angle : ℝ} (hangle : At angle step)
    (hturn : ∀ n step v r, (∃ angle, At angle step ∧ Swung rate grows n angle) →
      v.frame = UInt32.ofNat n → (step.run v r).1.signal ≠ .detach ∧
        ∃ angle, At angle (step.run v r).1.step ∧ Swung rate grows (n + 1) angle) :
    Swinging (e.apply op) s rate grows At := by
  have ho' := inOrder_apply ho op
  have hage := ages_of_arrives ho hs
  have hfirst : Bound (e.apply op) s.id fun step => ∃ angle, At angle step ∧
      Swung rate grows 0 angle := by
    intro t ht hid
    obtain rfl := ho'.eq_of_id ht hs.there hid
    exact ⟨step, hstep, angle, hangle, fun m hm => absurd hm.symm (Nat.succ_ne_zero m)⟩
  intro n e' hl hpos t ht hid
  obtain ⟨m, rfl⟩ := Nat.exists_eq_succ_of_ne_zero (Nat.ne_of_gt hpos)
  obtain ⟨step, hstep, angle, hat, hswung⟩ :=
    hl.bound ho' hage hfirst (fun n step v r hsees h => hturn n step v r h hsees.frame) t ht hid
  have hframe := (((hl.ages ho' hage).aged t ht hid).live hpos).2
  refine ⟨hframe, step, hstep, ?_⟩
  rw [hframe, Nat.succ_sub_one, ← hswung m rfl]
  exact hat

/-- **Swings do not drift**: not that of a sway, as far as twice its half period can be counted, and
not that of a laser with an even period, in any run. That of a laser with an odd period is off by
one bend after each. -/
theorem Reached.swings (h : Reached c config A e) (hs : Arrives e op s) :
    (∀ w : Sway ℝ, s.step = some (.sway w) →
      (w.halfPeriod.toNat ≤ 2 ^ 31 - 1 → Swings w.rate w.whole w.grows) ∧
        Swinging (e.apply op) s w.rate w.grows w.At) ∧
      ∀ l : Laser ℝ, s.step = some (.laser l) →
        (Swings l.bend l.whole l.grows ↔ Even l.whole) ∧
          (∀ j, l.whole * j ≤ UInt32.size →
            swing l.bend l.grows (l.whole * j) = -((l.whole % 2 : ℕ) * j * l.bend)) ∧
          Swinging (e.apply op) s l.bend l.grows l.At := by
  constructor
  · refine fun w hstep => ⟨fun hhalf => (Sway.alternates hhalf).swings_of_half, ?_⟩
    exact swinging_of_turn h.inOrder hs hstep rfl fun _ _ _ r hswung hframe =>
      Sway.swung_run hswung hframe r
  · refine fun l hstep => ⟨l.swings_iff, fun j hj => ?_, ?_⟩
    · have htwice : ((l.whole % 2 : ℕ) : ℝ) = l.whole - 2 * (l.whole / 2 : ℕ) := by
        have hwhole : l.whole % 2 + 2 * (l.whole / 2) = l.whole := Nat.mod_add_div l.whole 2
        rw [eq_sub_iff_add_eq]
        exact_mod_cast hwhole
      rw [l.alternates.swing_mul hj, htwice]
      ring
    · exact swinging_of_turn h.inOrder hs hstep ⟨_, _, rfl⟩ fun _ _ _ r hswung hframe =>
        Laser.swung_run hswung hframe r

/-- A sway of eight ticks. -/
theorem swings_sway :
    let dot : Template ℝ := ⟨"dot", some ⟨7, 1, 2⟩, none, none, Vec.zero, []⟩
    let w : Sway ℝ := .of 0 5 4 1 false none
    let e : Engine ℝ := .new ⟨#[dot]⟩ Config.default
    let op : Op ℝ := .spawnCarrier ⟨.none, .enemyShot⟩ ⟨160, 120⟩ (.sway w)
    let s : Shot ℝ := ⟨⟨1⟩, 0, .none, ⟨160, 120⟩, some (.sway w), .enemyShot, none, 0⟩
    Swings 5 8 w.grows ∧ Swinging (e.apply op) s 5 w.grows w.At := by
  intro dot w e op s
  have hreached : Reached ⟨#[dot]⟩ Config.default (fun _ => True) e := .new
  have hshots : (e.apply op).shots = [s] := rfl
  have harrives : Arrives e op s := ⟨hshots ▸ List.mem_singleton_self s, fun t ht => by cases ht⟩
  obtain ⟨hswings, hswinging⟩ := (hreached.swings harrives).1 w rfl
  exact ⟨hswings (by decide), hswinging⟩

/-- A laser with a period of three ticks. It bends one way once and the other way twice, and has not
come back after the third tick. -/
theorem not_swings_laser :
    let l : Laser ℝ := { Laser.of "dot" (.fixed 0) with bend := 90, bendPeriod := 3 }
    let s : Shot ℝ := ⟨⟨1⟩, 0, .none, ⟨160, 120⟩, some (.laser l), .enemyShot, none, 0⟩
    let see := s.outlook Config.default fun _ => .empty
    (Finset.filter (fun k => l.grows (.ofNat k) = true) (Finset.Ico 0 3)).card = 1 ∧
      (Finset.filter (fun k => ¬ l.grows (.ofNat k) = true) (Finset.Ico 0 3)).card = 2 ∧
      (l.passed see 2).bendAngle = -90 ∧ ¬ Swings l.bend l.whole l.grows := by
  intro l s see
  have hwhole : l.whole = 3 := rfl
  refine ⟨by decide, by decide, ?_, ?_⟩
  · have hmul : swing l.bend l.grows (l.whole * 1) =
        l.bend * ((1 : ℕ) * (2 * (l.whole / 2 : ℕ) - l.whole)) :=
      l.alternates.swing_mul (by rw [hwhole]; decide)
    rw [hwhole] at hmul
    rw [l.bendAngle_passed s _ _ (by decide), hmul]
    norm_num [l]
  · rw [l.swings_iff, hwhole]
    decide

end Engine

end Barrage
