import Barrage.Proofs.Steering

/-!
Pursuit.

A homing shot chooses its target once, in the tick in which it is at frame zero, and keeps it for as
long as it is to be found. A target that is not to be found in one tick is lost for good, whatever
the world looks like afterwards, and a shot that has found nobody at frame zero does not look again.
Without a target it flies on as it is.
-/

namespace Barrage

open Scalar (nat)

variable {K : Type} [Scalar K]

/-- The enemy closest to a place, as far as it is to be found. -/
def World.ClosestAt (world : World K) (place : Vec K) (o : Owner) (p : Vec K) : Prop :=
  world.closestEnemy place = some o ∧ world.locate o = some p

/-- The boss, as far as it is to be found. -/
def World.BossAt (world : World K) (o : Owner) (p : Vec K) : Prop :=
  world.boss = some o ∧ world.locate o = some p

namespace Homing

/-- Whom a homing shot chooses from a place: the closest enemy or the boss, whichever is nearer, and
the enemy unless the boss is. -/
inductive Chooses (world : World K) (place : Vec K) : Option Owner → Prop where
  | enemy {o : Owner} {p : Vec K} (henemy : world.ClosestAt place o p)
      (hboss : ∀ o' q, world.BossAt o' q → ¬ q.dist place < p.dist place) :
      Chooses world place (some o)
  | boss {o : Owner} {q : Vec K} (hboss : world.BossAt o q)
      (henemy : ∀ o' p, world.ClosestAt place o' p → q.dist place < p.dist place) :
      Chooses world place (some o)
  | nobody (henemy : ∀ o p, ¬ world.ClosestAt place o p) (hboss : ∀ o q, ¬ world.BossAt o q) :
      Chooses world place none

/-- What is left of a target before the tick `n`, when it was chosen in the tick `first`: all of it,
as long as it was to be found in each tick since. -/
def Kept (target : Option Owner) (world : ℕ → World K) (first n : ℕ) (kept : Option Owner) : Prop :=
  ∀ o, kept = some o ↔ target = some o ∧ ∀ k, first ≤ k → k < n → (world k).isAlive o = true

/-- What becomes of the flight of a homing shot in its turn in the tick `n`. -/
structure Steers (speed : K) (world : ℕ → World K) (place : ℕ → Vec K) (target : Option Owner)
    (first n : ℕ) (f f' : Flight K) : Prop where
  /-- Without a target it is launched straight up, once. -/
  launched : target = none → n = first →
    f' = { f with
      velocity := Heading.velocity (nat 0) speed, rotation := Scalar.toRadians (nat 0) }
  aimless : target = none → n ≠ first → f' = f
  /-- It flies at its target as long as that was never lost, -/
  chasing : ∀ o p, target = some o → (∀ k, first ≤ k → k ≤ n → (world k).isAlive o = true) →
    (world n).locate o = some p → Heading.arrival ≤ (p - place n).norm →
      f' = { f with velocity := (p - place n).unit.scale speed }
  /-- and flies on as it is if it is there already, -/
  arrived : ∀ o p, target = some o → (∀ k, first ≤ k → k ≤ n → (world k).isAlive o = true) →
    (world n).locate o = some p → ¬ Heading.arrival ≤ (p - place n).norm → f' = f
  /-- or if the target was ever lost. -/
  lost : ∀ o k, target = some o → first ≤ k → k ≤ n → (world k).locate o = none → f' = f

variable {w : Homing K} {v : View K} {o : Owner} {target kept : Option Owner}
  {world : ℕ → World K} {place : ℕ → Vec K} {first n : ℕ}

/-! ### The choice -/

/-- Somebody who is to be found, and how far it is. -/
def sight (v : View K) (c : Option Owner) : Option (Owner × K) :=
  c.bind fun o => (v.world.locate o).map fun p => (o, p.dist v.position)

lemma sight_eq_some {c : Option Owner} {d : K} : sight v c = some (o, d) ↔
    ∃ p, (c = some o ∧ v.world.locate o = some p) ∧ p.dist v.position = d := by
  rw [sight, Option.bind_eq_some_iff]
  constructor
  · rintro ⟨o', hc, hsome⟩
    obtain ⟨p, hp, heq⟩ := Option.map_eq_some_iff.mp hsome
    cases heq
    exact ⟨p, ⟨hc, hp⟩, rfl⟩
  · rintro ⟨p, ⟨hc, hp⟩, rfl⟩
    exact ⟨o, hc, Option.map_eq_some_iff.mpr ⟨p, hp, rfl⟩⟩

lemma sight_eq_none {c : Option Owner} : sight v c = none ↔
    ∀ o p, ¬ (c = some o ∧ v.world.locate o = some p) := by
  constructor
  · intro h o p hseen
    rw [sight_eq_some.mpr ⟨p, hseen, rfl⟩] at h
    cases h
  · intro h
    refine Option.eq_none_iff_forall_ne_some.mpr fun x hx => ?_
    obtain ⟨p, hseen, -⟩ := sight_eq_some.mp hx
    exact h x.1 p hseen

lemma acquire_eq (v : View K) : acquire v =
    match sight v (v.world.closestEnemy v.position), sight v v.world.boss with
    | some e, some b => some (if b.2 < e.2 then b.1 else e.1)
    | some e, none => some e.1
    | none, some b => some b.1
    | none, none => none := rfl

lemma chooses_acquire (v : View K) : Chooses v.world v.position (acquire v) := by
  rw [acquire_eq]
  rcases henemy : sight v (v.world.closestEnemy v.position) with _ | ⟨o, d⟩ <;>
    rcases hboss : sight v v.world.boss with _ | ⟨o', d'⟩
  · exact .nobody (sight_eq_none.mp henemy) (sight_eq_none.mp hboss)
  · obtain ⟨q, hat, -⟩ := sight_eq_some.mp hboss
    exact .boss hat fun o p hclosest => absurd hclosest (sight_eq_none.mp henemy o p)
  · obtain ⟨p, hclosest, -⟩ := sight_eq_some.mp henemy
    exact .enemy hclosest fun o q hat => absurd hat (sight_eq_none.mp hboss o q)
  · obtain ⟨p, hclosest, rfl⟩ := sight_eq_some.mp henemy
    obtain ⟨q, hat, rfl⟩ := sight_eq_some.mp hboss
    by_cases hnearer : q.dist v.position < p.dist v.position
    · simp only [if_pos hnearer]
      refine .boss hat fun o₁ p₁ h₁ => ?_
      obtain rfl : o = o₁ := Option.some.inj (hclosest.1.symm.trans h₁.1)
      obtain rfl : p = p₁ := Option.some.inj (hclosest.2.symm.trans h₁.2)
      exact hnearer
    · simp only [if_neg hnearer]
      refine .enemy hclosest fun o₁ q₁ h₁ => ?_
      obtain rfl : o' = o₁ := Option.some.inj (hat.1.symm.trans h₁.1)
      obtain rfl : q = q₁ := Option.some.inj (hat.2.symm.trans h₁.2)
      exact hnearer

/-- There is one choice, and it is the one that a homing shot makes. -/
lemma chooses_iff : Chooses v.world v.position target ↔ target = acquire v := by
  refine ⟨fun h => ?_, fun h => h ▸ chooses_acquire v⟩
  rw [acquire_eq]
  cases h with
  | @enemy o p henemy hboss =>
    rw [sight_eq_some.mpr ⟨p, henemy, rfl⟩]
    rcases hseen : sight v v.world.boss with _ | ⟨o', d⟩
    · rfl
    · obtain ⟨q, hat, rfl⟩ := sight_eq_some.mp hseen
      exact congrArg some (if_neg (hboss o' q hat)).symm
  | @boss o q hboss henemy =>
    rw [sight_eq_some.mpr ⟨q, hboss, rfl⟩]
    rcases hseen : sight v (v.world.closestEnemy v.position) with _ | ⟨o', d⟩
    · rfl
    · obtain ⟨p, hclosest, rfl⟩ := sight_eq_some.mp hseen
      exact congrArg some (if_pos (henemy o' p hclosest)).symm
  | nobody henemy hboss =>
    rw [sight_eq_none.mpr henemy, sight_eq_none.mpr hboss]

lemma exists_choice (world : World K) (place : Vec K) :
    ∃ target, ∀ o, Chooses world place o ↔ o = target :=
  ⟨_, fun _ => chooses_iff (v := ⟨0, .none, place, true, world, Config.default⟩)⟩

/-! ### The turn -/

/-- Whom a turn is about: the choice of the tick, or what is left of an earlier one. -/
def aim (w : Homing K) (v : View K) : Option Owner := if v.frame = 0 then acquire v else w.target

lemma run_of_aimless (h : w.aim v = none) : w.run v =
    ⟨.homing { w with target := none }, .keep,
      if v.frame = 0 then launchAlong (nat 0) w.speed else [], []⟩ := by
  rw [aim] at h
  simp only [run, h]

lemma run_of_lost (h : w.aim v = some o) (hlocate : v.world.locate o = none) : w.run v =
    ⟨.homing { w with target := none }, .keep, [], []⟩ := by
  rw [aim] at h
  simp only [run, h, hlocate]

lemma run_of_found (h : w.aim v = some o) {p : Vec K} (hlocate : v.world.locate o = some p) :
    w.run v = ⟨.homing { w with target := some o }, .keep, w.chase v p, []⟩ := by
  rw [aim] at h
  simp only [run, h, hlocate]

lemma run_step (w : Homing K) (v : View K) :
    (w.run v).step = .homing { w with target := (w.aim v).filter v.world.isAlive } := by
  rcases haim : w.aim v with _ | o
  · rw [run_of_aimless haim]
    rfl
  · rcases hlocate : v.world.locate o with _ | p
    · rw [run_of_lost haim hlocate, Option.filter_some, World.isAlive, hlocate]
      rfl
    · rw [run_of_found haim hlocate, Option.filter_some, World.isAlive, hlocate]
      rfl

lemma run_calm (w : Homing K) (v : View K) :
    (w.run v).signal = .keep ∧ (w.run v).orders = [] := by
  rw [run]
  split
  · exact ⟨rfl, rfl⟩
  · split <;> exact ⟨rfl, rfl⟩

omit [Scalar K] in
lemma Kept.start (target : Option Owner) (world : ℕ → World K) (n : ℕ) :
    Kept target world n n target :=
  fun _ => ⟨fun h => ⟨h, fun _ hfirst hk => absurd hfirst (Nat.not_le.mpr hk)⟩, And.left⟩

omit [Scalar K] in
/-- One more tick in which a target is to be found or not. -/
lemma Kept.next (h : Kept target world first n kept) (hle : first ≤ n) :
    Kept target world first (n + 1) (kept.filter (world n).isAlive) := by
  intro o
  rw [Option.filter_eq_some_iff, h o, and_assoc]
  refine and_congr_right fun _ => ⟨fun ⟨hbefore, hnow⟩ k hfirst hk => ?_, fun hall => ?_⟩
  · rcases Nat.lt_or_eq_of_le (Nat.le_of_lt_succ hk) with hk | rfl
    · exact hbefore k hfirst hk
    · exact hnow
  · exact ⟨fun k hfirst hk => hall k hfirst (Nat.lt_succ_of_lt hk),
      hall n hle (Nat.lt_succ_self n)⟩

/-- A turn without anybody to steer by: there was nobody at frame zero, or the target is lost. -/
lemma Kept.steers_of_none (hkept : Kept target world first n none) (haim : w.aim v = none)
    (hframe : v.frame = 0 ↔ n = first) (f : Flight K) :
    Steers w.speed world place target first n f ((w.run v).motions.foldl Flight.apply f) := by
  -- somebody who was to be found in each tick before would be left
  have hleft {o : Owner} (htarget : target = some o)
      (halive : ∀ k, first ≤ k → k < n → (world k).isAlive o = true) : False := by
    cases (hkept o).mpr ⟨htarget, halive⟩
  rw [run_of_aimless haim]
  constructor
  case launched =>
    intro _ hn
    rw [if_pos (hframe.mpr hn)]
    rfl
  case aimless =>
    intro _ hn
    rw [if_neg (hn ∘ hframe.mp)]
    rfl
  case chasing | arrived =>
    intro o p htarget halive
    exact (hleft htarget fun k hfirst hk => halive k hfirst (Nat.le_of_lt hk)).elim
  case lost =>
    intro o k htarget hfirst hk hlost
    have hlater : v.frame ≠ 0 := by
      refine fun hzero => hleft htarget fun k hfirst hk => ?_
      rw [hframe.mp hzero] at hk
      exact absurd hfirst (Nat.not_le.mpr hk)
    rw [if_neg hlater]
    rfl

/-- A turn with somebody left to steer by. -/
lemma Kept.steers_of_some (hkept : Kept target world first n (some o)) (haim : w.aim v = some o)
    (hworld : v.world = world n) (hplace : v.position = place n) (f : Flight K) :
    Steers w.speed world place target first n f ((w.run v).motions.foldl Flight.apply f) := by
  obtain ⟨rfl, hbefore⟩ := (hkept o).mp rfl
  constructor
  case launched | aimless => exact fun htarget => by cases htarget
  case chasing =>
    intro o' p htarget _ hlocate hfar
    cases htarget
    rw [run_of_found haim (hworld ▸ hlocate), chase, hplace, if_pos hfar]
    rfl
  case arrived =>
    intro o' p htarget _ hlocate hnear
    cases htarget
    rw [run_of_found haim (hworld ▸ hlocate), chase, hplace, if_neg hnear]
    rfl
  case lost =>
    intro o' k htarget hfirst hk hlost
    cases htarget
    rcases Nat.lt_or_eq_of_le hk with hk | rfl
    · have halive := hbefore k hfirst hk
      rw [World.isAlive, hlost] at halive
      cases halive
    · rw [run_of_lost haim (hworld ▸ hlost)]
      rfl

/-- A turn steers by what is left of the target. -/
lemma Kept.steers (hkept : Kept target world first n (w.aim v)) (hframe : v.frame = 0 ↔ n = first)
    (hworld : v.world = world n) (hplace : v.position = place n) (f : Flight K) :
    Steers w.speed world place target first n f ((w.run v).motions.foldl Flight.apply f) := by
  rcases haim : w.aim v with _ | o
  · exact (haim ▸ hkept).steers_of_none haim hframe f
  · exact (haim ▸ hkept).steers_of_some haim hworld hplace f

/-- Whom a turn is about is what is left of the target. -/
lemma kept_aim (hframe : v.frame = 0 ↔ n = first) (hle : first ≤ n)
    (htarget : Chooses (world first) (place first) target) (hworld : v.world = world n)
    (hplace : v.position = place n) (hkept : first < n → Kept target world first n w.target) :
    Kept target world first n (w.aim v) := by
  rw [aim]
  split_ifs with hzero
  · obtain rfl := hframe.mp hzero
    rw [← hworld, ← hplace, chooses_iff] at htarget
    rw [← htarget]
    exact .start target world n
  · exact hkept (Nat.lt_of_le_of_ne hle fun hfirst => hzero (hframe.mpr hfirst.symm))

end Homing

/-! ### Runs -/

/-- The last tick up to `n` in which a shot is at frame zero: its first one, up to the range of the
counter. -/
def lastZero (n : ℕ) : ℕ := n - n % UInt32.size

lemma lastZero_of_lt {n : ℕ} (h : n < UInt32.size) : lastZero n = 0 := by
  rw [lastZero, Nat.mod_eq_of_lt h, Nat.sub_self]

lemma lastZero_le (n : ℕ) : lastZero n ≤ n := Nat.sub_le _ _

lemma ofNat_eq_zero_iff {n : ℕ} : UInt32.ofNat n = 0 ↔ n = lastZero n := by
  have hle := Nat.mod_le n UInt32.size
  rw [← UInt32.toNat_inj, UInt32.toNat_ofNat', lastZero]
  change n % UInt32.size = 0 ↔ _
  omega

lemma lastZero_succ (n : ℕ) : lastZero (n + 1) = n + 1 ∨ lastZero (n + 1) = lastZero n := by
  have hsize : UInt32.size = 2 ^ 32 := rfl
  rw [lastZero, lastZero, hsize]
  omega

namespace Engine

variable {e e' : Engine K} {s t : Shot K} {b : Beat K} {v : Visit K} {step : Step K}
  {body : BodyId} {w : Homing K} {world : ℕ → World K} {place : ℕ → Vec K}
  {target kept : Option Owner} {first n : ℕ}

/-- In the beat of the tick `n` a shot looks at the world of that tick, from its place in it. -/
structure Shows (world : ℕ → World K) (place : ℕ → Vec K) (body : BodyId) (n : ℕ) (e : Engine K)
    (b : Beat K) : Prop where
  world : b.world = world n
  place : ∀ p, (e.poised b).bodies.position? body = some p → p = place n

/-- The one turn of a homing shot in the tick `n`, if its target was chosen in the tick `first`. -/
structure Pursuit (w : Homing K) (s : Shot K) (body : BodyId) (world : ℕ → World K)
    (place : ℕ → Vec K) (target : Option Owner) (first n : ℕ) (e : Engine K) (b : Beat K)
    (v : Visit K) : Prop where
  turn : v ∈ e.turns b ∧ v.met.id = s.id ∧ ∀ u ∈ e.turns b, u.met.id = s.id → u = v
  /-- It goes on with what is left of its target, -/
  kept : ∃ kept, v.outcome.shot.step = some (.homing { w with target := kept }) ∧
    Homing.Kept target world first (n + 1) kept
  /-- and nothing ends it but its place. -/
  answer : v.outcome.answer = some (.ok .keep)
  retired : v.outcome.retired = v.outcome.culled
  flight : ∃ f f', (e.poised b).bodies.flight? body = some f ∧
    Homing.Steers w.speed world place target first n f f' ∧
    (v.outcome.retired = false →
      v.outcome.shot ∈ (e.beat b).shots ∧ (e.beat b).bodies.flight? body = some f')

lemma Runs.pursuit (h : Runs e b s n (.homing { w with target := kept }) v) (he : Settled e)
    (fits : (e.beat b).bodies.Fits) (hbody : s.body = some body)
    (hshows : Shows world place body n e b) (hframe : UInt32.ofNat n = 0 ↔ n = first)
    (hle : first ≤ n) (htarget : Homing.Chooses (world first) (place first) target)
    (hkept : first < n → Homing.Kept target world first n kept) :
    Pursuit w s body world place target first n e b v := by
  have hcalm (u : View K) := Homing.run_calm { w with target := kept } u
  obtain ⟨f, u, r, hflight, hsees, -, huplace, hsteered⟩ := h.steered he fits hbody
    fun u _ _ => ⟨by rw [Step.run, (hcalm u).1]; exact Signal.noConfusion, (hcalm u).2⟩
  have hplace : u.position = place n := by
    refine huplace.trans (hshows.place _ ?_)
    obtain ⟨x, hx, rfl⟩ := Option.map_eq_some_iff.mp hflight
    rw [Bodies.position?, hx]
    rfl
  have hworld : u.world = world n := hsees.world.trans hshows.world
  rw [← hsees.frame] at hframe
  have haim :=
    Homing.kept_aim (w := { w with target := kept }) hframe hle htarget hworld hplace hkept
  have hkeep := (hcalm u).1
  refine ⟨⟨h.mem, h.met_id, h.unique⟩, ⟨_, ?_, haim.next hle⟩, ?_, hsteered.retired,
    f, _, hflight, haim.steers hframe hworld hplace f, hsteered.kept⟩
  · rw [hsteered.step, Step.run, hkeep, ← hworld]
    exact congrArg some (Homing.run_step _ u)
  · rw [hsteered.answer, Step.run, hkeep]

/-- A homing shot after `n` ticks, when it was at frame zero in the tick `first`. -/
structure Pursues (w : Homing K) (s : Shot K) (body : BodyId) (world : ℕ → World K)
    (place : ℕ → Vec K) (target : Option Owner) (first n : ℕ) (e : Engine K) : Prop where
  chosen : ∀ o, Homing.Chooses (world first) (place first) o ↔ o = target
  bound : Bound e s.id fun step => ∃ kept, step = .homing { w with target := kept } ∧
    (first < n → Homing.Kept target world first n kept)
  turn : ∀ b, Shows world place body n e b → (e.beat b).bodies.Fits →
    ∀ t ∈ e.shots, t.id = s.id → ∃ v, Pursuit w s body world place target first n e b v

/-- The turn of a homing shot that is bound to what is left of its target. -/
lemma exists_pursuit (he : Settled e) (hage : Ages e s n) (fits : (e.beat b).bodies.Fits)
    (hbody : s.body = some body) (hshows : Shows world place body n e b)
    (htarget : Homing.Chooses (world (lastZero n)) (place (lastZero n)) target)
    (hbound : Bound e s.id fun step => ∃ kept, step = .homing { w with target := kept } ∧
      (lastZero n < n → Homing.Kept target world (lastZero n) n kept))
    (ht : t ∈ e.shots) (hid : t.id = s.id) :
    ∃ v, Pursuit w s body world place target (lastZero n) n e b v := by
  obtain ⟨step, hstep, kept, rfl, hkept⟩ := hbound t ht hid
  obtain ⟨v, hv⟩ := hage.runs he.inOrder ht hid hstep b
  exact ⟨v, hv.pursuit he fits hbody hshows ofNat_eq_zero_iff (lastZero_le n) htarget hkept⟩

/-- What is left of the target after `n` ticks. -/
lemma Span.bound_homing (h : Span (fun _ _ => True) (Shows world place body) e n e')
    (he : Settled e) (hage : Ages e s 0) (hbody : s.body = some body) (fits : e'.bodies.Fits)
    (hfirst : Bound e s.id (· = .homing w)) :
    ∀ target, Homing.Chooses (world (lastZero n)) (place (lastZero n)) target →
      Bound e' s.id fun step => ∃ kept, step = .homing { w with target := kept } ∧
        (lastZero n < n → Homing.Kept target world (lastZero n) n kept) := by
  induction h with
  | start =>
    intro target _ t ht hid
    obtain ⟨step, hstep, rfl⟩ := hfirst t ht hid
    exact ⟨_, hstep, w.target, rfl, fun hlt => absurd hlt (Nat.not_lt_zero _)⟩
  | call op h hticks _ ih =>
    have h₁ := h.settled he
    intro target htarget
    exact (ih (fits_of_apply h₁ fits) target htarget).apply h₁.inOrder
      (h.later.ages he.inOrder hage).issued op hticks
  | @beat n e₁ b h hshows ih =>
    have h₁ := h.settled he
    have hage₁ := h.later.ages he.inOrder hage
    intro target htarget t ht hid
    obtain ⟨u, hu, huid, -, rfl⟩ := hage₁.of_beat ht hid
    obtain ⟨r, hr, hrid⟩ := exists_shot_turns h₁.inOrder hu
    have hpursuit {target : Option Owner}
        (htarget : Homing.Chooses (world (lastZero n)) (place (lastZero n)) target) :
        ∃ kept, u.outcome.shot.step = some (.homing { w with target := kept }) ∧
          Homing.Kept target world (lastZero n) (n + 1) kept := by
      obtain ⟨v, hv⟩ := exists_pursuit h₁ hage₁ fits hbody hshows htarget
        (ih (fits_of_beat fits) target htarget) hr (hrid.trans huid)
      rw [hv.turn.2.2 u hu huid]
      exact hv.kept
    rcases lastZero_succ n with hzero | hzero
    · -- the next tick is at frame zero again, and whatever is left does not count
      obtain ⟨other, hother⟩ := Homing.exists_choice (world (lastZero n)) (place (lastZero n))
      obtain ⟨kept, hstep, -⟩ := hpursuit ((hother other).mpr rfl)
      exact ⟨_, hstep, kept, rfl, fun hlt => absurd hlt (by rw [hzero]; exact Nat.lt_irrefl _)⟩
    · rw [hzero] at htarget ⊢
      obtain ⟨kept, hstep, hkept⟩ := hpursuit htarget
      exact ⟨_, hstep, kept, rfl, fun _ => hkept⟩

variable {c : Catalog K} {config : Config K} {A : Step K → Prop} {op : Op K}

/-- **A homing shot keeps one target for life**, up to the range of the frame counter, whatever the
worlds are and whatever is called: the one it has chosen at frame zero, until the first tick in
which that is not to be found. -/
theorem Reached.pursues (h : Reached c config A e) (hs : Arrives e op s)
    (hstep : s.step = some (.homing w)) (hbody : s.body = some body)
    (hspan : Span (fun _ _ => True) (Shows world place body) (e.apply op) n e') :
    (e'.bodies.Fits → ∃ target, Pursues w s body world place target (lastZero n) n e') ∧
      (e'.registry.queue.issued ≤ UInt32.size → e'.bodies.Fits) := by
  have he : Settled (e.apply op) := Settled.apply ⟨h.inOrder, h.balanced⟩ op
  have he' : Settled e' := hspan.settled he
  have hage := ages_of_arrives h.inOrder hs
  refine ⟨fun fits => ?_, fun hissued => Nat.le_trans he'.balanced.single.slots hissued⟩
  have hfirst : Bound (e.apply op) s.id (· = .homing w) := by
    intro t ht hid
    obtain rfl := he.inOrder.eq_of_id ht hs.there hid
    exact ⟨_, hstep, rfl⟩
  obtain ⟨target, hchosen⟩ := Homing.exists_choice (world (lastZero n)) (place (lastZero n))
  have htarget := (hchosen target).mpr rfl
  have hbound := hspan.bound_homing he hage hbody fits hfirst target htarget
  exact ⟨target, hchosen, hbound, fun b hshows fits' t ht hid =>
    exists_pursuit he' (hspan.later.ages he.inOrder hage) fits' hbody hshows htarget hbound ht hid⟩

/-- A homing shot between an enemy and a boss that is nearer. The boss is away in the second tick
and back in the third, and the shot is after nobody then. -/
theorem pursues_boss :
    let dot : Template Float32 := ⟨"dot", some ⟨7, 1, 2⟩, none, none, Vec.zero, []⟩
    let world (n : ℕ) : World Float32 :=
      { player := none
        enemyAt := fun _ => some ⟨100, 40⟩
        bossAt := fun _ => if n = 1 then none else some ⟨130, 100⟩
        closestEnemy := fun _ => some (.enemy ⟨0, 0⟩)
        boss := some (.boss ⟨0, 0⟩) }
    let e : Engine Float32 := .new ⟨#[dot]⟩ Config.default
    let op : Op Float32 :=
      .spawnDynamic ⟨.player, .playerShot⟩ ⟨100, 100⟩ "dot" (.homing (.of 4))
    let s : Shot Float32 :=
      ⟨⟨1⟩, 0, .player, ⟨100, 100⟩, some (.homing (.of 4)), .playerShot, some ⟨0, 0⟩, 1⟩
    let after (n : ℕ) := (e.apply op).run ((List.range n).map fun k => .advance (world k))
    let place (n : ℕ) := ((after n).bodies.integrate.position? ⟨0, 0⟩).getD Vec.zero
    Pursues (.of 4) s ⟨0, 0⟩ world place (some (.boss ⟨0, 0⟩)) 0 3 (after 3) ∧
      ((world 2).locate (.boss ⟨0, 0⟩)).isSome ∧
      ∃ t ∈ (after 3).shots, t.id = s.id ∧ t.step = some (.homing ⟨4, none⟩) := by
  intro dot world e op s after place
  have hreached : Reached ⟨#[dot]⟩ Config.default (fun _ => True) e := .new
  have hshots : (e.apply op).shots = [s] := by with_unfolding_all rfl
  have harrives : Arrives e op s := ⟨hshots ▸ List.mem_singleton_self s, fun t ht => by cases ht⟩
  have hshows (n : ℕ) : Shows world place ⟨0, 0⟩ n (after n) (.advance (world n)) := by
    refine ⟨rfl, fun p hp => ?_⟩
    have hplace : place n =
      (((after n).poised (.advance (world n))).bodies.position? ⟨0, 0⟩).getD Vec.zero := rfl
    rw [hplace, hp, Option.getD_some]
  have hspan : Span (fun _ _ => True) (Shows world place ⟨0, 0⟩) (e.apply op) 3 (after 3) :=
    ((Span.start.beat _ (hshows 0)).beat _ (hshows 1)).beat _ (hshows 2)
  obtain ⟨hpursues, hfits⟩ := hreached.pursues harrives rfl rfl hspan
  obtain ⟨target, hpursues⟩ := hpursues (hfits (by decide +kernel))
  rw [lastZero_of_lt (by decide)] at hpursues
  have hchoice : Homing.Chooses (world 0) (place 0) (some (.boss ⟨0, 0⟩)) := by
    refine .boss ⟨rfl, rfl⟩ fun o p hclosest => ?_
    obtain ⟨ho, hp⟩ := hclosest
    obtain rfl := Option.some.inj ho
    obtain rfl := Option.some.inj hp
    decide +kernel
  obtain rfl := (hpursues.chosen _).mp hchoice
  refine ⟨hpursues, rfl, ?_⟩
  have hthere : ∃ t ∈ (after 3).shots, t.id = s.id := by decide +kernel
  obtain ⟨t, ht, hid⟩ := hthere
  obtain ⟨step, hstep, kept, rfl, hkept⟩ := hpursues.bound t ht hid
  refine ⟨t, ht, hid, ?_⟩
  have hnobody : kept = none := by
    refine Option.eq_none_iff_forall_ne_some.mpr fun o ho => ?_
    obtain ⟨heq, halive⟩ := (hkept (by decide) o).mp ho
    obtain rfl := Option.some.inj heq
    have hlost := halive 1 (by decide) (by decide)
    cases hlost
  rw [hstep, hnobody]
  rfl

end Engine

end Barrage
