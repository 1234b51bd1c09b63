import Barrage.Proofs.Ageing
import Barrage.Proofs.Descent
import Barrage.Proofs.Removal

/-!
The flight of bullets.

A bullet is a shot with a body and without a step: nobody steers it. Each tick moves it on by its
velocity and then asks where it is, and the first place that is too far outside of the playfield is
its last. What is called in between does not touch it unless it is meant, and what other shots do
in their turns does not touch it at all.
-/

namespace Barrage

open Engine (Later Settled)

variable {K : Type} [Scalar K]

/-- The place after `n` ticks of flight from `p`. -/
def Vec.flown (p v : Vec K) : Nat → Vec K
  | 0 => p
  | n + 1 => flown p v n + v

/-- A call that does not mean a shot: it does not take the shot away and does not move its body. -/
def Op.Spares (s : Shot K) : Op K → Prop
  | .remove id | .onStruck id => id ≠ s.id
  | .removeWhere p => p s = false
  | .removeAllOwnedBy list => s.list ≠ list
  | .removeAllSimpleOwnedBy list => s.list = list → s.isSimple = false
  | .moveBody body _ => s.body ≠ some body
  | _ => True

namespace Engine

/-- The engines that come after one and the number of ticks between. Every tick comes with a flight
of the bodies, and whatever else is called, the shot of a number is not meant. -/
inductive Course (id : ShotId) (e : Engine K) : Nat → Engine K → Prop where
  | start : Course id e 0 e
  | call {n : Nat} {e' : Engine K} (op : Op K) (h : Course id e n e') (hticks : op.ticks = 0)
      (hspares : ∀ t ∈ e'.shots, t.id = id → op.Spares t) : Course id e n (e'.apply op)
  | advance {n : Nat} {e' : Engine K} (world : World K) (h : Course id e n e') :
      Course id e (n + 1) (e'.advance world).2

variable {e e' : Engine K} {s t : Shot K} {id : ShotId} {b : BodyId} {f : Flight K} {n : Nat}

lemma Course.later (h : Course id e n e') : Later e n e' := by
  induction h with
  | start => exact .refl
  | call op h hticks hspares ih =>
    have hcall := ih.call op
    rwa [hticks] at hcall
  | advance world h ih => exact ih.call (.advance world)

lemma Course.settled (h : Course id e n e') (he : Settled e) : Settled e' := by
  induction h with
  | start => exact he
  | call op h hticks hspares ih => exact ih.apply op
  | advance world h ih => exact ih.apply (.advance world)

lemma Course.config (h : Course id e n e') (he : Settled e) : e'.config = e.config :=
  (h.later.setting he.inOrder).2

/-! ### What is called between ticks -/

/-- Whoever is not meant stays. -/
lemma mem_of_spares (ho : e.registry.InOrder) {op : Op K} (hticks : op.ticks = 0)
    (hspares : op.Spares t) (ht : t ∈ e.shots) : t ∈ (e.apply op).shots := by
  have hcreate {side : Side} (hside : op.side? = some side) : t ∈ (e.apply op).shots := by
    obtain ⟨bs, heq, -⟩ := apply_of_side (e := e) hside
    rw [heq, shots, shots_addAll]
    exact List.mem_append_left _ ht
  have hremove {p : Shot K → Bool} (hp : p t = false) : t ∈ (e.removeWhere p).2.shots := by
    rw [shots, removeWhere, Registry.shots_removeWhere]
    exact List.mem_filter.mpr ⟨ht, by rw [hp]; rfl⟩
  cases op with
  | addShot | addAngledShot | addAimedShot | spawnDynamic | spawnCarrier => exact hcreate rfl
  | tick world | advance world => cases hticks
  | remove id | onStruck id =>
    simp only [apply, onStruck, remove_eq ho]
    exact hremove (by simpa using Ne.symm hspares)
  | removeWhere p => exact hremove hspares
  | removeAllOwnedBy list => exact hremove (by simpa [Op.Spares] using hspares)
  | removeAllSimpleOwnedBy list => exact hremove (by simpa [Op.Spares] using hspares)
  | moveBody body m => exact ht

/-- A bullet of the engine, and the flight of its body. -/
structure Bullet (e : Engine K) (s : Shot K) (b : BodyId) (f : Flight K) : Prop where
  there : s ∈ e.shots
  body : s.body = some b
  step : s.step = none
  flight : e.bodies.flight? b = some f

omit [Scalar K] in
lemma Bullet.likeness (h : Bullet e s b f) : (e.likeness s).body = some (some f) := by
  rw [Engine.likeness, Shot.likeness, h.body, Option.map_some, h.flight]

omit [Scalar K] in
lemma flight_of_likeness (hbody : s.body = some b) (h : (e.likeness s).body = some (some f)) :
    e.bodies.flight? b = some f := by
  rw [Engine.likeness, Shot.likeness, hbody, Option.map_some] at h
  exact Option.some.inj h

/-- What is called between ticks leaves a bullet alone that it does not mean. -/
lemma Bullet.apply (h : Bullet e s b f) (he : Settled e) {op : Op K} (hticks : op.ticks = 0)
    (hspares : op.Spares s) (fits : (e.apply op).bodies.Fits) : Bullet (e.apply op) s b f := by
  have hthere := mem_of_spares he.inOrder hticks hspares h.there
  have hsame : (e.apply op).likeness s = e.likeness s := by
    refine likeness_apply he fits hticks h.there hthere fun body m hbody hop => ?_
    rw [hop] at hspares
    exact hspares hbody
  exact ⟨hthere, h.body, h.step, flight_of_likeness h.body (by rw [hsame, h.likeness])⟩

/-! ### Beats -/

variable {beat : Beat K} {v w : Visit K}

/-- A shot that is retired in its turn is not there after the beat. -/
lemma find?_of_retired (ho : e.registry.InOrder) (hv : v ∈ e.turns beat)
    (hretired : v.outcome.retired = true) : (e.beat beat).find? v.met.id = none := by
  have ho' : (e.beat beat).registry.InOrder := by
    rw [← apply_op]
    exact inOrder_apply ho beat.op
  refine Option.eq_none_iff_forall_ne_some.mpr fun t ht => ?_
  obtain ⟨hmem, hid⟩ := (find?_eq_some ho').mp ht
  rcases List.mem_append.mp hmem with hlive | hqueue
  · obtain ⟨w, hw, hkept, rfl⟩ := mem_live_tick.mp hlive
    rw [id_tickVisits hw] at hid
    rw [turn_unique ho hv hw hid, hretired] at hkept
    cases hkept
  · obtain ⟨w, hw, hborn⟩ := List.mem_flatMap.mp (queue_tick (e.poised beat) beat.world ▸ hqueue)
    have hlt := issued_lt_born hw hborn
    have hle := met_le_issued (e := e.poised beat) (by rwa [registry_poised]) hv
    rw [hid] at hlt
    omega

/-- Its body is released with it. -/
lemma get?_of_retired (hv : v ∈ e.turns beat) (hretired : v.outcome.retired = true)
    (hbody : v.met.body = some b) : (e.beat beat).bodies.get? b = none := by
  have houtcomes : (e.turns beat).map (·.outcome) = ((e.poised beat).pass beat.world).1 :=
    outcomes_visits ..
  have hgone : v.outcome.shot ∈ (e.poised beat).gone beat.world := by
    rw [gone, ← houtcomes]
    exact List.mem_map_of_mem (List.mem_filter.mpr ⟨List.mem_map_of_mem hv, hretired⟩)
  have hshot : v.outcome.shot.body = some b := by rw [shot_visit (act_tickVisits hv), hbody]
  rw [Engine.beat, bodies_tick, get?_release, if_pos (List.mem_filterMap.mpr ⟨_, hgone, hshot⟩)]

/-- The figures of a tick with a flight of the bodies count turns. -/
lemma summary_advance (e : Engine K) (world : World K) :
    (e.advance world).1.culled = (e.turns (.advance world)).countP (·.outcome.culled) ∧
      (e.advance world).1.retired = (e.turns (.advance world)).countP (·.outcome.retired) := by
  have houtcomes : (e.turns (.advance world)).map (·.outcome) =
      ((e.poised (.advance world)).pass world).1 := outcomes_visits ..
  have hsummary := summary_tick (e.poised (.advance world)) world
  rw [← houtcomes, List.countP_map, List.countP_map, List.countP_map] at hsummary
  exact ⟨congrArg TickSummary.culled hsummary, congrArg TickSummary.retired hsummary⟩

/-- What comes of a shot without a step in its turn is a matter of where its body is. -/
lemma act_of_unsteered (c : Catalog K) (config : Config K) (world : World K) {l : Likeness K}
    (hstep : l.step = none) (hbody : l.body = some (some f)) (r : Random) :
    l.act c config world r =
      (⟨l, none, config.isCulled f.position, config.isCulled f.position, []⟩, r) := by
  have hposition : l.position? = some f.position := by rw [Likeness.position?, hbody]; rfl
  simp only [Likeness.act, hstep, Likeness.judge, hposition, hbody]
  simp

/-- The turn of a bullet: it is found where it has flown, and goes if that is too far outside. -/
lemma Bullet.turn (h : Bullet e s b f) (he : Settled e) {world : World K}
    (fits : (e.advance world).2.bodies.Fits) : ∃ v ∈ e.turns (.advance world),
      v.met = { s with frame := v.met.frame } ∧
      v.outcome.culled = e.config.isCulled f.step.position ∧
      v.outcome.retired = e.config.isCulled f.step.position ∧
      (v.outcome.retired = false → Bullet (e.advance world).2 v.met b f.step) := by
  obtain ⟨v, hv, hmet⟩ := exists_turn he.inOrder (.advance world) h.there
  have hbody : v.met.body = some b := by rw [hmet, h.body]
  have hstep : v.met.step = none := by rw [hmet, h.step]
  obtain ⟨ho, hb⟩ := he.poised (.advance world)
  have hlook : ((e.poised (.advance world)).likeness v.met).body = some (some f.step) := by
    have hflown := Shot.likeness_integrate e.bodies v.met
    have hmoved : (v.met.likeness e.bodies).body = some (some f) := by
      rw [Shot.likeness, hbody, Option.map_some, h.flight]
    rw [Engine.likeness, poised, hflown, Likeness.flown, hmoved]
    rfl
  have hfate := tick_likeness hb ho fits v hv
  rw [act_of_unsteered _ _ _ hstep hlook, Prod.mk.injEq] at hfate
  obtain ⟨hfate, -⟩ := hfate
  refine ⟨v, hv, hmet, (congrArg Fate.culled hfate).symm, (congrArg Fate.retired hfate).symm,
    fun hkept => ?_⟩
  have hshot : v.outcome.shot = v.met := (idle_of_none (act_tickVisits hv) hstep).shot
  have hthere : v.met ∈ (e.advance world).2.shots :=
    List.mem_append_left _ (mem_live_tick.mpr ⟨v, hv, hkept, hshot⟩)
  refine ⟨hthere, hbody, hstep, flight_of_likeness hbody ?_⟩
  have hseen := likeness_tick hb ho fits hthere
  have hsame := congrArg Fate.shot hfate
  rw [Visit.fate, hshot, hseen] at hsame
  exact (congrArg Likeness.body hsame).symm.trans hlook

/-! ### The whole flight -/

/-- The flight of a body after `n` ticks without a turn. -/
def flightAfter (f : Flight K) (n : Nat) : Flight K :=
  { f with position := f.position.flown f.velocity n }

/-- No place of the first `n` ticks of flight is too far outside of the playfield. -/
def Inside (config : Config K) (f : Flight K) (n : Nat) : Prop :=
  ∀ k, 1 ≤ k → k ≤ n → config.isCulled (f.position.flown f.velocity k) = false

lemma inside_succ {config : Config K} : Inside config f (n + 1) ↔
    Inside config f n ∧ config.isCulled (flightAfter f n).step.position = false := by
  constructor
  · exact fun h => ⟨fun k hpos hk => h k hpos (Nat.le_succ_of_le hk),
      h (n + 1) (Nat.succ_pos n) (Nat.le_refl _)⟩
  · rintro ⟨h, hlast⟩ k hpos hk
    rcases Nat.lt_or_eq_of_le hk with hk | rfl
    · exact h k hpos (Nat.le_of_lt_succ hk)
    · exact hlast

lemma Course.fits (h : Course id e n e') (he : Settled e) (fits : e'.bodies.Fits) :
    e.bodies.Fits := by
  induction h with
  | start => exact fits
  | call op h hticks hspares ih => exact ih (fits_of_apply (h.settled he) fits)
  | advance world h ih => exact ih (fits_of_beat (b := .advance world) fits)

lemma Course.gone (h : Course id e n e') (he : Settled e)
    (hissued : id.raw ≤ e.registry.queue.issued) (hgone : e.find? id = none) :
    e'.find? id = none := (h.later.gone he.inOrder hissued hgone).find

/-- **A bullet flies straight on** while it is inside, whatever is called and whatever the other
shots do. -/
theorem Course.flies (h : Course s.id e n e') (he : Settled e) (hs : Bullet e s b f)
    (fits : e'.bodies.Fits) (hin : Inside e.config f n) :
    ∃ t, t = { s with frame := t.frame } ∧ Bullet e' t b (flightAfter f n) := by
  induction h with
  | start => exact ⟨s, rfl, hs⟩
  | call op h hticks hspares ih =>
    have h₁ := h.settled he
    obtain ⟨t, ht, hbullet⟩ := ih (fits_of_apply h₁ fits) hin
    have hid : t.id = s.id := by rw [ht]
    exact ⟨t, ht, hbullet.apply h₁ hticks (hspares t hbullet.there hid) fits⟩
  | advance world h ih =>
    have h₁ := h.settled he
    obtain ⟨hin, hlast⟩ := inside_succ.mp hin
    obtain ⟨t, ht, hbullet⟩ := ih (fits_of_beat (b := .advance world) fits) hin
    obtain ⟨v, -, hmet, -, hretired, hflown⟩ := hbullet.turn h₁ fits
    rw [h.config he] at hretired
    refine ⟨v.met, ?_, hflown (hretired.trans hlast)⟩
    rw [hmet, ht]

/-- A shot is removed in a tick with a flight of the bodies, for leaving the playfield. -/
structure Leaves (e : Engine K) (world : World K) (id : ShotId) (b : BodyId) : Prop where
  gone : (e.advance world).2.find? id = none
  released : (e.advance world).2.bodies.get? b = none
  /-- Its one turn is among those that the figures of the tick count. -/
  turn : ∃ v ∈ e.turns (.advance world), v.met.id = id ∧ v.outcome.culled = true ∧
    v.outcome.retired = true ∧ ∀ w ∈ e.turns (.advance world), w.met.id = id → w = v
  culled : (e.advance world).1.culled = (e.turns (.advance world)).countP (·.outcome.culled)
  retired : (e.advance world).1.retired = (e.turns (.advance world)).countP (·.outcome.retired)

lemma Bullet.leaves (h : Bullet e s b f) (he : Settled e) {world : World K}
    (fits : (e.advance world).2.bodies.Fits) (hout : e.config.isCulled f.step.position = true) :
    Leaves e world s.id b := by
  obtain ⟨v, hv, hmet, hculled, hretired, -⟩ := h.turn he fits
  rw [hout] at hculled hretired
  have hid : v.met.id = s.id := by rw [hmet]
  have hgone : (e.beat (.advance world)).find? v.met.id = none :=
    find?_of_retired he.inOrder hv hretired
  have hreleased : (e.beat (.advance world)).bodies.get? b = none :=
    get?_of_retired hv hretired (by rw [hmet, h.body])
  obtain ⟨hfigure, hfigure'⟩ := summary_advance e world
  rw [hid] at hgone
  exact ⟨hgone, hreleased, ⟨v, hv, hid, hculled, hretired, fun w hw hwid =>
    turn_unique he.inOrder hv hw (hwid.trans hid.symm)⟩, hfigure, hfigure'⟩

/-- On the way from `e` to `e'`, a bullet has been removed in the tick in which it came to the first
place that is too far outside of the playfield. -/
def Left (e : Engine K) (id : ShotId) (b : BodyId) (f : Flight K) (n : Nat) (e' : Engine K) :
    Prop :=
  ∃ k m e₁ world, k + 1 + m = n ∧ Course id e k e₁ ∧ Course id (e₁.advance world).2 m e' ∧
    Inside e.config f k ∧ e.config.isCulled (f.position.flown f.velocity (k + 1)) = true ∧
    Leaves e₁ world id b

/-- **A bullet is culled on time.** -/
theorem Course.left (h : Course s.id e n e') (he : Settled e) (hs : Bullet e s b f)
    (fits : e'.bodies.Fits) (hout : ¬ Inside e.config f n) : Left e s.id b f n e' := by
  induction h with
  | start =>
    refine absurd (fun k hpos hk => ?_) hout
    omega
  | call op h hticks hspares ih =>
    obtain ⟨k, m, e₁, world, hsum, hbefore, hafter, hleft⟩ :=
      ih (fits_of_apply (h.settled he) fits) hout
    exact ⟨k, m, e₁, world, hsum, hbefore, hafter.call op hticks hspares, hleft⟩
  | @advance n e₂ world h ih =>
    have fits₂ := fits_of_beat (b := .advance world) fits
    by_cases hin : Inside e.config f n
    · -- this is the tick in which it goes
      rw [inside_succ, not_and, Bool.not_eq_false] at hout
      obtain ⟨t, ht, hbullet⟩ := h.flies he hs fits₂ hin
      have hid : t.id = s.id := by rw [ht]
      have hleaves := hbullet.leaves (h.settled he) fits (by rw [h.config he, hout hin])
      rw [hid] at hleaves
      exact ⟨n, 0, e₂, world, rfl, h, .start, hin, hout hin, hleaves⟩
    · obtain ⟨k, m, e₁, world₁, hsum, hbefore, hafter, hleft⟩ := ih fits₂ hin
      exact ⟨k, m + 1, e₁, world₁, by omega, hbefore, hafter.advance world, hleft⟩

/-- Whoever has left is not there. -/
lemma Left.not_mem (h : Left e s.id b f n e') (he : Settled e) (hs : s ∈ e.shots) :
    ∀ t ∈ e'.shots, t.id ≠ s.id := by
  obtain ⟨k, m, e₁, world, -, hbefore, hafter, -, -, hleaves⟩ := h
  have hlater := hbefore.later.call (.advance world)
  have hissued := Nat.le_trans (he.inOrder.issued s hs).2 (hlater.onward he.inOrder).issued
  have hgone := hafter.gone ((hbefore.settled he).apply (.advance world)) hissued hleaves.gone
  intro t ht hid
  exact List.find?_eq_none.mp hgone t ht (beq_iff_eq.mpr hid)

/-- The flight of a bullet `s` with the body `b`, which was as `x` when `n` ticks have passed. -/
structure Straight (e : Engine K) (s : Shot K) (b : BodyId) (x : Body K) (n : Nat)
    (e' : Engine K) : Prop where
  /-- It is there as long as no place on its way was too far outside of the playfield. -/
  present : (∃ t ∈ e'.shots, t.id = s.id) ↔
    ∀ k, 1 ≤ k → k ≤ n → e.config.isCulled (x.position.flown x.velocity k) = false
  /-- Nothing about it changes but its frame and its place. -/
  unchanged : ∀ t ∈ e'.shots, t.id = s.id → t = { s with frame := t.frame } ∧
    ∃ y, e'.bodies.get? b = some y ∧ y.position = x.position.flown x.velocity n ∧
      y.velocity = x.velocity ∧ y.rotation = x.rotation
  removed : (∀ t ∈ e'.shots, t.id ≠ s.id) → Left e s.id b x.flight n e'

variable {c : Catalog K} {config : Config K} {A : Step K → Prop}

/-- **A bullet flies straight and is culled on time**, from any engine that is reached and through
any number of ticks, whatever is called without meaning it and whatever the other shots do; and
there are handles enough for the bodies as long as no more than `2 ^ 32` shots were created. -/
theorem Reached.straight (h : Reached c config A e) (hs : s ∈ e.shots) (hstep : s.step = none)
    (hbody : s.body = some b) (hcourse : Course s.id e n e') :
    (e'.bodies.Fits → ∃ x, e.bodies.get? b = some x ∧ Straight e s b x n e') ∧
      (e'.registry.queue.issued ≤ UInt32.size → e'.bodies.Fits) := by
  have he : Settled e := ⟨h.inOrder, h.balanced⟩
  have he' : Settled e' := hcourse.settled he
  refine ⟨fun fits => ?_, fun hissued => Nat.le_trans he'.balanced.single.slots hissued⟩
  have hone := he.balanced.oneToOne_of_fits he.inOrder (hcourse.fits he fits)
  obtain ⟨x, hx, -⟩ := hone.resolves s hs b hbody
  refine ⟨x, hx, ?_⟩
  have hbullet : Bullet e s b x.flight := ⟨hs, hbody, hstep, by rw [Bodies.flight?, hx]; rfl⟩
  have hflies := hcourse.flies he hbullet fits
  have hleft := hcourse.left he hbullet fits
  have hpresent : (∃ t ∈ e'.shots, t.id = s.id) ↔ Inside e.config x.flight n := by
    constructor
    · rintro ⟨t, ht, hid⟩
      by_contra hout
      exact (hleft hout).not_mem he hs t ht hid
    · intro hin
      obtain ⟨t, ht, hbullet'⟩ := hflies hin
      exact ⟨t, hbullet'.there, by rw [ht]⟩
  constructor
  case present => exact hpresent
  case unchanged =>
    intro t ht hid
    obtain ⟨t', ht', hbullet'⟩ := hflies (hpresent.mp ⟨t, ht, hid⟩)
    obtain rfl := he'.inOrder.eq_of_id ht hbullet'.there (by rw [ht', hid])
    obtain ⟨y, hy, hflight⟩ := Option.map_eq_some_iff.mp hbullet'.flight
    exact ⟨ht', y, hy, congrArg Flight.position hflight, congrArg Flight.velocity hflight,
      congrArg Flight.rotation hflight⟩
  case removed =>
    intro hgone
    refine hleft fun hin => ?_
    obtain ⟨t, ht, hid⟩ := hpresent.mpr hin
    exact hgone t ht hid

/-- A dot near the upper edge flies up, beside an emitter. Between its first two ticks another dot
is created and one that the emitter has fired is struck. The dot is culled in the third tick. -/
theorem straight_dot :
    let dot : Template Float32 := ⟨"dot", some ⟨7, 1, 2⟩, none, none, Vec.zero, []⟩
    let enemies : Side := ⟨.none, .enemyShot⟩
    let calls : List (Op Float32) :=
      [.addShot enemies ⟨160, -9⟩ "dot", .moveBody ⟨0, 0⟩ (.fly ⟨0, -3⟩),
        .spawnCarrier enemies ⟨160, 120⟩ (.flower (.of "dot" 1 2 1))]
    let e := calls.foldl apply (.new ⟨#[dot]⟩ Config.default)
    let e₁ := ((e.advance .empty).2.apply (.addShot enemies ⟨80, 60⟩ "dot")).apply (.onStruck ⟨3⟩)
    let e₂ := (e₁.advance .empty).2
    let e₃ := (e₂.advance .empty).2
    ∃ s x, s ∈ e.shots ∧ s.id = ⟨1⟩ ∧ e.bodies.get? ⟨0, 0⟩ = some x ∧
      Straight e s ⟨0, 0⟩ x 2 e₂ ∧ Straight e s ⟨0, 0⟩ x 3 e₃ ∧
      (∃ t ∈ e₂.shots, t.id = s.id) ∧ Left e s.id ⟨0, 0⟩ x.flight 3 e₃ := by
  intro dot enemies calls e e₁ e₂ e₃
  have hreached : Reached ⟨#[dot]⟩ Config.default (fun _ => True) e :=
    Reached.new.calls fun _ _ _ _ => trivial
  have hdot : ∃ s ∈ e.shots, s.id = ⟨1⟩ ∧ s.step.isNone ∧ s.body = some ⟨0, 0⟩ := by
    decide +kernel
  obtain ⟨s, hs, hid, hstep, hbody⟩ := hdot
  have hstep : s.step = none := Option.isNone_iff_eq_none.mp hstep
  have h₁ : Course s.id e 1 e₁ := by
    refine ((Course.start.advance .empty).call (.addShot enemies ⟨80, 60⟩ "dot") rfl
      fun _ _ _ => trivial).call (.onStruck ⟨3⟩) rfl fun t _ ht => ?_
    rw [Op.Spares, ht, hid]
    decide
  have h₂ : Course s.id e 2 e₂ := h₁.advance .empty
  have h₃ : Course s.id e 3 e₃ := h₂.advance .empty
  have hstraight₂ := hreached.straight hs hstep hbody h₂
  have hstraight₃ := hreached.straight hs hstep hbody h₃
  obtain ⟨x, hx, hflight₂⟩ := hstraight₂.1 (hstraight₂.2 (by decide +kernel))
  obtain ⟨y, hy, hflight₃⟩ := hstraight₃.1 (hstraight₃.2 (by decide +kernel))
  obtain rfl : x = y := Option.some.inj (hx.symm.trans hy)
  have hthere : ∃ t ∈ e₂.shots, t.id = s.id := by
    rw [hid]
    decide +kernel
  have hout : (e.bodies.get? ⟨0, 0⟩).all
      (fun x => e.config.isCulled (x.position.flown x.velocity 3)) = true := by decide +kernel
  have hgone : ∀ t ∈ e₃.shots, t.id ≠ s.id := by
    intro t ht hsame
    have hin := hflight₃.present.mp ⟨t, ht, hsame⟩ 3 (by decide) (Nat.le_refl 3)
    rw [hx, Option.all_some, hin] at hout
    cases hout
  exact ⟨s, x, hs, hid, hx, hflight₂, hflight₃, hthere, hflight₃.removed hgone⟩

end Engine

end Barrage
