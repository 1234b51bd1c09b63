import Barrage.Proofs.Scalar.Zero
import Barrage.Proofs.Steering

/-!
Orbits.

A shot that orbits its owner is put on a circle around it in every tick, wherever the owner is then,
and each tick turns it on by the rate of the orbit. The first tick in which the owner is not to be
found, or in which the lifetime is reached, lets go of it: it is sent off along the circle and has
no step from then on, so that nothing that becomes of the owner afterwards brings it back. A shot
without a body is retired instead.
-/

namespace Barrage

open Scalar (nat)

variable {K : Type} [Scalar K]

/-- Nothing added to a place leaves it the place that it is. -/
lemma Vec.same_add_zero (p : Vec Float32) :
    Single.Same (p + Vec.zero).x p.x ∧ Single.Same (p + Vec.zero).y p.y :=
  ⟨Single.same_add_zero p.x, Single.same_add_zero p.y⟩

namespace Orbit

/-- The angle before the tick `k`. -/
def angleAt (o : Orbit K) : ℕ → K
  | 0 => o.angle
  | k + 1 => Heading.wrap (o.angleAt k + o.rate)

/-- The orbit before the tick `k`. -/
def after (o : Orbit K) (k : ℕ) : Orbit K := { o with angle := o.angleAt k }

/-- The owner is followed in the tick `k`: it is to be found, and the lifetime is not reached. -/
def Follows (o : Orbit K) (owner : Owner) (world : ℕ → World K) (k : ℕ) : Prop :=
  (∃ center, (world k).locate owner = some center) ∧ k < o.lifetime.toNat

/-- The tick `m` is the first one in which the owner is not followed. -/
structure LetsGo (o : Orbit K) (owner : Owner) (world : ℕ → World K) (m : ℕ) : Prop where
  before : ∀ k < m, o.Follows owner world k
  now : ¬ o.Follows owner world m

/-- The place before the tick `n`: where the shot was created, and after a tick the place on the
circle around the owner of that tick. -/
def stand (o : Orbit K) (s : Shot K) (world : ℕ → World K) : ℕ → Vec K
  | 0 => s.origin
  | k + 1 => ((world k).locate s.owner).getD Vec.zero +
      (Heading.toVec (o.angleAt k)).scale o.radius

/-- The flight of a body that was let go of in the tick `m`. -/
def sentOff (o : Orbit K) (s : Shot K) (world : ℕ → World K) (m : ℕ) : Flight K where
  position := o.stand s world m + Vec.zero
  velocity := Heading.velocity (o.after m).tangent o.releaseSpeed
  rotation := Scalar.toRadians (o.after m).tangent

variable {o : Orbit K} {owner : Owner} {s : Shot K} {world : ℕ → World K} {n m : ℕ} {u : View K}

/-! ### The turn -/

omit [Scalar K] in
lemma LetsGo.unique {m' : ℕ} (h : o.LetsGo owner world m) (h' : o.LetsGo owner world m') :
    m = m' := by
  rcases Nat.lt_trichotomy m m' with hlt | heq | hlt
  · exact absurd (h'.before m hlt) h.now
  · exact heq
  · exact absurd (h.before m' hlt) h'.now

omit [Scalar K] in
/-- Up to a tick the owner was always followed, or there was a first time when it was not. -/
lemma follows_or_letsGo (o : Orbit K) (owner : Owner) (world : ℕ → World K) (n : ℕ) :
    (∀ k < n, o.Follows owner world k) ∨ ∃ m < n, o.LetsGo owner world m := by
  induction n with
  | zero => exact .inl fun k hk => absurd hk (Nat.not_lt_zero k)
  | succ n ih =>
    rcases ih with hall | ⟨m, hm, hgo⟩
    · by_cases hnow : o.Follows owner world n
      · exact .inl (Nat.forall_lt_succ_right.mpr ⟨hall, hnow⟩)
      · exact .inr ⟨n, Nat.lt_succ_self n, hall, hnow⟩
    · exact .inr ⟨m, Nat.lt_succ_of_lt hm, hgo⟩

omit [Scalar K] in
/-- The frame counter has not overflown up to the tick in which a shot is let go of. -/
lemma toNat_frame (h : ∀ k < n, o.Follows owner world k) : (UInt32.ofNat n).toNat = n := by
  refine UInt32.toNat_ofNat_of_lt ?_
  rcases n with _ | n
  · exact Nat.two_pow_pos 32
  · exact Nat.lt_of_le_of_lt (h n (Nat.lt_succ_self n)).2 o.lifetime.toNat_lt

lemma run_of_follows (hframe : u.frame.toNat = n) (howner : u.owner = s.owner)
    (hworld : u.world = world n) (h : o.Follows s.owner world n) :
    (o.after n).run u = ⟨.orbit (o.after (n + 1)), .keep,
      [.fly Vec.zero, .moveTo (o.stand s world (n + 1))], []⟩ := by
  obtain ⟨⟨center, hcenter⟩, hlt⟩ := h
  have hlocate : u.ownerPosition = some center := by
    rw [View.ownerPosition, hworld, howner, hcenter]
  have hlast : u.frame < (o.after n).lifetime := by
    rw [UInt32.lt_iff_toNat_lt, hframe]
    exact hlt
  simp only [run, hlocate, if_pos hlast, stand, hcenter]
  rfl

lemma run_of_not_follows (hframe : u.frame.toNat = n) (howner : u.owner = s.owner)
    (hworld : u.world = world n) (h : ¬ o.Follows s.owner world n) :
    (o.after n).run u = (o.after n).release u := by
  rw [run]
  rcases hcenter : u.ownerPosition with _ | center
  · rfl
  · refine if_neg fun hlt => h ⟨⟨center, ?_⟩, ?_⟩
    · rw [← hworld, ← howner]
      exact hcenter
    · rw [UInt32.lt_iff_toNat_lt, hframe] at hlt
      exact hlt

/-- The turn of a shot with a body creates nothing and does not finish it. -/
lemma run_quiet (o : Orbit K) (hbody : u.hasBody = true) :
    (o.run u).signal ≠ .finish ∧ (o.run u).orders = [] := by
  have hrelease : (o.release u).signal ≠ .finish ∧ (o.release u).orders = [] := by
    rw [release, if_pos hbody]
    exact ⟨Signal.noConfusion, rfl⟩
  rw [run]
  split
  · exact hrelease
  · split_ifs
    · exact ⟨Signal.noConfusion, rfl⟩
    · exact hrelease

end Orbit

/-- A call that does not move the body of a shot. -/
def Op.Still (s : Shot K) (op : Op K) : Prop :=
  ∀ body m, s.body = some body → op ≠ .moveBody body m

namespace Engine

variable {e e' : Engine K} {s t : Shot K} {b : Beat K} {v : Visit K} {body : BodyId}
  {o : Orbit K} {world : ℕ → World K} {n m : ℕ} {op : Op K} {f : Flight K}

/-! ### A shot and its body -/

/-- The shot of a number, if it is there, has this step, and its body flies so. -/
def Poses (e : Engine K) (id : ShotId) (body : BodyId) (step : Option (Step K)) (f : Flight K) :
    Prop :=
  ∀ t ∈ e.shots, t.id = id → t.step = step ∧ e.bodies.flight? body = some f

variable {step : Option (Step K)}

/-- What is called between ticks leaves a shot and its body alone, unless it moves the body. -/
lemma Poses.apply (h : Poses e s.id body step f) (he : Settled e) (hage : Ages e s n)
    (hbody : s.body = some body) (hticks : op.ticks = 0) (hmove : ∀ m, op ≠ .moveBody body m)
    (fits : (e.apply op).bodies.Fits) : Poses (e.apply op) s.id body step f := by
  intro t ht hid
  have hthere : t ∈ e.shots :=
    mem_of_apply he.inOrder hticks (by rw [hid]; exact hage.issued) ht
  obtain ⟨hstep, hflight⟩ := h t hthere hid
  have htbody : t.body = some body := by rw [(hage.aged t hthere hid).same, hbody]
  have hsame : (e.apply op).likeness t = e.likeness t := by
    refine likeness_apply he fits hticks hthere ht fun body' m hbody' => ?_
    obtain rfl : body = body' := Option.some.inj (htbody.symm.trans hbody')
    exact hmove m
  refine ⟨hstep, flight_of_likeness htbody ?_⟩
  rw [hsame, likeness, Shot.likeness, htbody, Option.map_some, hflight]

/-- The one turn of a shot with a body in a beat, and how its body flies afterwards. -/
structure Turned (e : Engine K) (b : Beat K) (s : Shot K) (body : BodyId) (signal : Signal)
    (step : Option (Step K)) (f : Flight K) (v : Visit K) : Prop where
  mem : v ∈ e.turns b
  met : v.met.id = s.id
  unique : ∀ w ∈ e.turns b, w.met.id = s.id → w = v
  answer : v.outcome.answer = some (.ok signal)
  step : v.outcome.shot.step = step
  /-- Nothing ends it but its place. -/
  culled : v.outcome.culled = e.config.isCulled f.position
  retired : v.outcome.retired = v.outcome.culled
  kept : v.outcome.retired = false →
    v.outcome.shot ∈ (e.beat b).shots ∧ (e.beat b).bodies.flight? body = some f

variable {signal : Signal}

/-- Whoever is there after a beat is as its turn has left it. -/
lemma Poses.beat (hage : Ages e s n) (ho : e.registry.InOrder)
    (hturn : ∀ r ∈ e.shots, r.id = s.id → ∃ v, Turned e b s body signal step f v) :
    Poses (e.beat b) s.id body step f := by
  intro t ht hid
  obtain ⟨w, hw, hwid, hkept, rfl⟩ := hage.of_beat ht hid
  obtain ⟨r, hr, hrid⟩ := exists_shot_turns ho hw
  obtain ⟨v, hv⟩ := hturn r hr (hrid.trans hwid)
  obtain rfl := hv.unique w hw hwid
  exact ⟨hv.step, (hv.kept hkept).2⟩

/-! ### In orbit -/

/-- The turn of a shot in orbit, as far as it is a matter of what the shot sees. -/
lemma Poses.exists_turned
    (h : Poses e s.id body (some (.orbit (o.after n))) (.rest (o.stand s world n)))
    (he : Settled e) (hage : Ages e s n) (hbody : s.body = some body)
    (fits : (e.beat (.advance (world n))).bodies.Fits)
    (hbefore : ∀ k < n, o.Follows s.owner world k) (ht : t ∈ e.shots) (hid : t.id = s.id) :
    ∃ u v, u.frame.toNat = n ∧ u.owner = s.owner ∧ u.world = world n ∧ u.hasBody = true ∧
      Turned e (.advance (world n)) s body ((o.after n).run u).signal
        (leftBound ((o.after n).run u).step (.ok ((o.after n).run u).signal))
        (((o.after n).run u).motions.foldl Flight.apply
          (Flight.rest (o.stand s world n)).step) v := by
  obtain ⟨hstep, hflight⟩ := h t ht hid
  obtain ⟨v, hv⟩ := hage.runs he.inOrder ht hid hstep (.advance (world n))
  obtain ⟨f, u, r, hposed, hsees, hhas, -, hsteered⟩ :=
    hv.steered he fits hbody fun u _ hhas => (o.after n).run_quiet hhas
  obtain rfl := Option.some.inj (hposed.symm.trans (flight_advance hflight (world n)))
  refine ⟨u, v, ?_, hsees.owner, hsees.world, hhas, hv.mem, hv.met_id, hv.unique,
    hsteered.answer, hsteered.step, hsteered.culled, hsteered.retired, hsteered.kept⟩
  rw [hsees.frame]
  exact Orbit.toNat_frame hbefore

/-- As long as the owner is followed, the next tick puts the shot on the circle around it. -/
lemma Poses.turned_follows
    (h : Poses e s.id body (some (.orbit (o.after n))) (.rest (o.stand s world n)))
    (he : Settled e) (hage : Ages e s n) (hbody : s.body = some body)
    (fits : (e.beat (.advance (world n))).bodies.Fits)
    (hbefore : ∀ k < n, o.Follows s.owner world k) (hnow : o.Follows s.owner world n)
    (ht : t ∈ e.shots) (hid : t.id = s.id) :
    ∃ v, Turned e (.advance (world n)) s body .keep (some (.orbit (o.after (n + 1))))
      (.rest (o.stand s world (n + 1))) v := by
  obtain ⟨u, v, hframe, howner, hworld, -, hturned⟩ :=
    h.exists_turned he hage hbody fits hbefore ht hid
  rw [Orbit.run_of_follows hframe howner hworld hnow] at hturned
  exact ⟨v, hturned⟩

/-- The tick in which it is let go of sends it off from where it is. -/
lemma Poses.turned_letsGo
    (h : Poses e s.id body (some (.orbit (o.after n))) (.rest (o.stand s world n)))
    (he : Settled e) (hage : Ages e s n) (hbody : s.body = some body)
    (fits : (e.beat (.advance (world n))).bodies.Fits) (hgo : o.LetsGo s.owner world n)
    (ht : t ∈ e.shots) (hid : t.id = s.id) :
    ∃ v, Turned e (.advance (world n)) s body .detach none (o.sentOff s world n) v := by
  obtain ⟨u, v, hframe, howner, hworld, hhas, hturned⟩ :=
    h.exists_turned he hage hbody fits hgo.before ht hid
  rw [Orbit.run_of_not_follows hframe howner hworld hgo.now, Orbit.release, if_pos hhas]
    at hturned
  exact ⟨v, hturned⟩

/-! ### Off -/

/-- Without a step a shot flies on. -/
lemma Poses.flies (h : Poses e s.id body none f) (he : Settled e) (hage : Ages e s n)
    (hbody : s.body = some body) (w : World K) (fits : (e.beat (.advance w)).bodies.Fits) :
    Poses (e.beat (.advance w)) s.id body none f.step := by
  intro t ht hid
  obtain ⟨v, hv, hvid, hkept, hvt⟩ := hage.of_beat ht hid
  obtain ⟨r, hr, hrid⟩ := exists_shot_turns he.inOrder hv
  obtain ⟨hstep, hflight⟩ := h r hr (hrid.trans hvid)
  have hrbody : r.body = some body := by
    rw [(hage.aged r hr (hrid.trans hvid)).same, hbody]
  have hbullet : Bullet e r body f := ⟨hr, hrbody, hstep, hflight⟩
  obtain ⟨v', hv', hmet, -, -, hflies⟩ := hbullet.turn he fits
  have hsame : v' = v := turn_unique he.inOrder hv hv' (by rw [hmet, hrid])
  subst hsame
  have hflown := hflies hkept
  have ho' : (e.beat (.advance w)).registry.InOrder := by
    rw [← apply_op]
    exact inOrder_apply he.inOrder _
  obtain rfl := ho'.eq_of_id ht hflown.there (by rw [hid, hvid])
  exact ⟨hflown.step, hflown.flight⟩

/-! ### The whole run -/

/-- Where a shot is in its orbit after `n` ticks, or since it was let go of. -/
structure Orbits (o : Orbit K) (s : Shot K) (body : BodyId) (world : ℕ → World K) (n : ℕ)
    (e : Engine K) : Prop where
  held : (∀ k < n, o.Follows s.owner world k) →
    Poses e s.id body (some (.orbit (o.after n))) (.rest (o.stand s world n))
  off : ∀ m < n, o.LetsGo s.owner world m →
    Poses e s.id body none (flightAfter (o.sentOff s world m) (n - (m + 1)))

lemma Orbits.beat (h : Orbits o s body world n e) (he : Settled e) (hage : Ages e s n)
    (hbody : s.body = some body) (fits : (e.beat (.advance (world n))).bodies.Fits) :
    Orbits o s body world (n + 1) (e.beat (.advance (world n))) := by
  constructor
  case held =>
    intro hall
    have hbefore : ∀ k < n, o.Follows s.owner world k := fun k hk => hall k (Nat.lt_succ_of_lt hk)
    exact Poses.beat hage he.inOrder fun r hr hid => (h.held hbefore).turned_follows he hage hbody
      fits hbefore (hall n (Nat.lt_succ_self n)) hr hid
  case off =>
    intro m hm hgo
    rcases Nat.lt_or_eq_of_le (Nat.le_of_lt_succ hm) with hlt | rfl
    · have hcount : n + 1 - (m + 1) = n - (m + 1) + 1 := by omega
      rw [hcount]
      exact (h.off m hlt hgo).flies he hage hbody (world n) fits
    · rw [Nat.sub_self]
      exact Poses.beat hage he.inOrder fun r hr hid =>
        (h.held hgo.before).turned_letsGo he hage hbody fits hgo hr hid

/-- **A shot follows its owner, and is let go of once.** -/
theorem Span.orbits (h : Span (fun _ op => op.Still s) (fun n _ b => b = .advance (world n)) e n e')
    (he : Settled e) (hage : Ages e s 0) (hbody : s.body = some body) (fits : e'.bodies.Fits)
    (hfirst : Poses e s.id body (some (.orbit o)) (.rest s.origin)) :
    Orbits o s body world n e' := by
  induction h with
  | start => exact ⟨fun _ => hfirst, fun m hm => absurd hm (Nat.not_lt_zero m)⟩
  | call op h hticks hstill ih =>
    have h₁ := h.settled he
    have hage₁ := h.later.ages he.inOrder hage
    obtain ⟨hheld, hoff⟩ := ih (fits_of_apply h₁ fits)
    have hmove := fun m => hstill body m hbody
    exact ⟨fun hall => (hheld hall).apply h₁ hage₁ hbody hticks hmove fits,
      fun m hm hgo => (hoff m hm hgo).apply h₁ hage₁ hbody hticks hmove fits⟩
  | beat b h hb ih =>
    subst hb
    exact (ih (fits_of_beat fits)).beat (h.settled he) (h.later.ages he.inOrder hage) hbody fits

/-! ### Without a body -/

/-- The turn of a shot without a body. -/
lemma Runs.orbit_unembodied {b : Beat K} (h : Runs e b s n (.orbit (o.after n)) v)
    (hbody : s.body = none) (hworld : b.world = world n)
    (hbefore : ∀ k < n, o.Follows s.owner world k) :
    (o.Follows s.owner world n → v.outcome.answer = some (.ok .keep) ∧
        v.outcome.shot.step = some (.orbit (o.after (n + 1))) ∧ v.outcome.retired = false) ∧
      (¬ o.Follows s.owner world n →
        v.outcome.answer = some (.ok .finish) ∧ v.outcome.retired = true) := by
  have hsees := h.sees
  obtain ⟨-, hnone⟩ := hsees.place hbody
  have hframe := hsees.frame ▸ Orbit.toNat_frame hbefore
  have hanswer := h.answer
  have hleft := h.left
  rw [Engine.turn, Step.run] at hanswer hleft
  obtain ⟨-, hgoes⟩ := h.unembodied hbody
  constructor
  · intro hnow
    rw [Orbit.run_of_follows hframe hsees.owner (hsees.world.trans hworld) hnow] at hanswer hleft
    refine ⟨hanswer, hleft, ?_⟩
    rw [Bool.eq_false_iff]
    intro hretired
    have hkeeps : v.outcome.answer = some (.ok .keep) := hanswer
    rcases hgoes.mp hretired with (hfinish | ⟨err, hfail⟩) | hstep
    · rw [hkeeps] at hfinish
      cases hfinish
    · rw [hkeeps] at hfail
      cases hfail
    · rw [hleft] at hstep
      cases hstep
  · intro hlost
    rw [Orbit.run_of_not_follows hframe hsees.owner (hsees.world.trans hworld) hlost,
      Orbit.release, if_neg (by rw [hnone]; exact Bool.false_ne_true)] at hanswer
    exact ⟨hanswer, hgoes.mpr (.inl (.inl hanswer))⟩

/-- Whoever is there after a beat has gone on in it, and so its owner was followed. -/
lemma Bound.hovers (h : Bound e s.id (· = .orbit (o.after n))) (ho : e.registry.InOrder)
    (hage : Ages e s n) (hbody : s.body = none) (hbefore : ∀ k < n, o.Follows s.owner world k)
    {b : Beat K} (hworld : b.world = world n) (ht : t ∈ (e.beat b).shots) (hid : t.id = s.id) :
    o.Follows s.owner world n ∧ t.step = some (.orbit (o.after (n + 1))) := by
  obtain ⟨w, hw, hwid, hkept, rfl⟩ := hage.of_beat ht hid
  obtain ⟨r, hr, hrid⟩ := exists_shot_turns ho hw
  obtain ⟨step, hstep, rfl⟩ := h r hr (hrid.trans hwid)
  obtain ⟨v, hv⟩ := hage.runs ho hr (hrid.trans hwid) hstep b
  obtain rfl := hv.unique w hw hwid
  obtain ⟨hgoes, hends⟩ := hv.orbit_unembodied hbody hworld hbefore
  have hnow : o.Follows s.owner world n := by
    by_contra hlost
    rw [(hends hlost).2] at hkept
    cases hkept
  exact ⟨hnow, (hgoes hnow).2.1⟩

/-- **A shot without a body follows its owner, and is retired instead of let go of.** -/
theorem Span.hovers (h : Span (fun _ op => op.Still s) (fun n _ b => b = .advance (world n)) e n e')
    (ho : e.registry.InOrder) (hage : Ages e s 0) (hbody : s.body = none)
    (hfirst : Bound e s.id (· = .orbit o)) :
    ((∀ k < n, o.Follows s.owner world k) → Bound e' s.id (· = .orbit (o.after n))) ∧
      ∀ m < n, o.LetsGo s.owner world m → e'.Gone s.id := by
  induction h with
  | start => exact ⟨fun _ => hfirst, fun m hm => absurd hm (Nat.not_lt_zero m)⟩
  | call op h hticks hstill ih =>
    have ho₁ := h.later.inOrder ho
    have hissued := (h.later.ages ho hage).issued
    exact ⟨fun hall => (ih.1 hall).apply ho₁ hissued op hticks,
      fun m hm hgo => (Later.refl.call op).gone ho₁ hissued (ih.2 m hm hgo).find⟩
  | @beat n e₁ b h hb ih =>
    subst hb
    have ho₁ := h.later.inOrder ho
    have hage₁ := h.later.ages ho hage
    constructor
    · intro hall t ht hid
      have hbefore : ∀ k < n, o.Follows s.owner world k :=
        fun k hk => hall k (Nat.lt_succ_of_lt hk)
      exact ⟨_, ((ih.1 hbefore).hovers ho₁ hage₁ hbody hbefore rfl ht hid).2, rfl⟩
    · intro m hm hgo
      rcases Nat.lt_or_eq_of_le (Nat.le_of_lt_succ hm) with hlt | rfl
      · rw [← apply_op]
        exact (Later.refl.call _).gone ho₁ hage₁.issued (ih.2 m hlt hgo).find
      · refine gone_of_find? (List.find?_eq_none.mpr fun t ht hid => hgo.now ?_)
        exact ((ih.1 hgo.before).hovers ho₁ hage₁ hbody hgo.before rfl ht (beq_iff_eq.mp hid)).1

/-! ### A life in orbit -/

lemma Turned.passes (h : Turned e b s body signal step f v) : Passes e b s (some (.ok signal)) :=
  ⟨v, h.mem, h.met, h.unique, h.answer, h.retired⟩

/-- What has become of a shot with a body after `n` ticks. -/
structure Circles (o : Orbit Float32) (s : Shot Float32) (body : BodyId)
    (world : ℕ → World Float32) (n : ℕ) (e : Engine Float32) : Prop where
  /-- The owner was followed so far, or it was given up, once. -/
  once : (∀ k < n, o.Follows s.owner world k) ∨ ∃! m, m < n ∧ o.LetsGo s.owner world m
  /-- As long as it is followed, the shot has its step, as many ticks further on, and its body is
  where the last tick has put it, at rest. -/
  held : (∀ k < n, o.Follows s.owner world k) → ∀ t ∈ e.shots, t.id = s.id →
    t.step = some (.orbit (o.after n)) ∧ ∃ x, e.bodies.get? body = some x ∧
      x.position = o.stand s world n ∧ x.velocity = Vec.zero
  /-- Once it is given up, the shot has no step, and its body flies straight on from the place at
  which it was let go of, ahead of the circle. -/
  off : ∀ m < n, o.LetsGo s.owner world m → ∀ t ∈ e.shots, t.id = s.id →
    t.step = none ∧ ∃ (x : Body Float32) (p : Vec Float32), e.bodies.get? body = some x ∧
      x.position = p.flown x.velocity (n - (m + 1)) ∧
      Single.Same p.x (o.stand s world m).x ∧ Single.Same p.y (o.stand s world m).y ∧
      x.velocity = Heading.velocity (o.after m).tangent o.releaseSpeed ∧
      x.rotation = Scalar.toRadians (o.after m).tangent
  /-- In its next turn it goes on, is let go of or has no step to run, and the place of its body
  alone decides whether it stays. -/
  turn : (e.beat (.advance (world n))).bodies.Fits → ∀ t ∈ e.shots, t.id = s.id →
    ((∀ k ≤ n, o.Follows s.owner world k) →
        Passes e (.advance (world n)) s (some (.ok .keep))) ∧
      (o.LetsGo s.owner world n → Passes e (.advance (world n)) s (some (.ok .detach))) ∧
      ∀ m < n, o.LetsGo s.owner world m → Passes e (.advance (world n)) s none

/-- What has become of a shot without a body after `n` ticks. -/
structure Hovers (o : Orbit K) (s : Shot K) (world : ℕ → World K) (n : ℕ) (e : Engine K) :
    Prop where
  held : (∀ k < n, o.Follows s.owner world k) → Bound e s.id (· = .orbit (o.after n))
  /-- Instead of being let go of it is gone. -/
  gone : ∀ m < n, o.LetsGo s.owner world m → e.Gone s.id
  turn : ∀ t ∈ e.shots, t.id = s.id → ∃ v ∈ e.turns (.advance (world n)), v.met.id = s.id ∧
    (∀ w ∈ e.turns (.advance (world n)), w.met.id = s.id → w = v) ∧ v.outcome.culled = false ∧
    (o.Follows s.owner world n →
      v.outcome.answer = some (.ok .keep) ∧ v.outcome.retired = false) ∧
    (¬ o.Follows s.owner world n →
      v.outcome.answer = some (.ok .finish) ∧ v.outcome.retired = true)

/-- The turn of a shot that was let go of before. -/
lemma Poses.passes (h : Poses e s.id body none f) (he : Settled e) (hage : Ages e s n)
    (hbody : s.body = some body) (w : World K) (fits : (e.beat (.advance w)).bodies.Fits)
    (ht : t ∈ e.shots) (hid : t.id = s.id) : Passes e (.advance w) s none := by
  obtain ⟨hstep, hflight⟩ := h t ht hid
  have htbody : t.body = some body := by rw [(hage.aged t ht hid).same, hbody]
  obtain ⟨v, hv, hmet, hculled, hretired, -⟩ :=
    (Bullet.mk ht htbody hstep hflight).turn he fits
  have hvid : v.met.id = s.id := by rw [hmet, hid]
  have hidle : v.met.step = none := by rw [hmet, hstep]
  exact ⟨v, hv, hvid, fun u hu huid => turn_unique he.inOrder hv hu (huid.trans hvid.symm),
    (idle_of_none (act_tickVisits hv) hidle).answer, hretired.trans hculled.symm⟩

lemma Orbits.circled {o : Orbit Float32} {s : Shot Float32} {world : ℕ → World Float32}
    {e : Engine Float32} (h : Orbits o s body world n e) (he : Settled e) (hage : Ages e s n)
    (hbody : s.body = some body) : Circles o s body world n e := by
  constructor
  case once =>
    refine (o.follows_or_letsGo s.owner world n).imp_right fun ⟨m, hm, hgo⟩ => ?_
    exact ⟨m, ⟨hm, hgo⟩, fun m' ⟨_, hgo'⟩ => hgo'.unique hgo⟩
  case held =>
    intro hall t ht hid
    obtain ⟨hstep, hflight⟩ := h.held hall t ht hid
    obtain ⟨x, hx, hrest⟩ := Option.map_eq_some_iff.mp hflight
    exact ⟨hstep, x, hx, congrArg Flight.position hrest, congrArg Flight.velocity hrest⟩
  case off =>
    intro m hm hgo t ht hid
    obtain ⟨hstep, hflight⟩ := h.off m hm hgo t ht hid
    obtain ⟨x, hx, hflown⟩ := Option.map_eq_some_iff.mp hflight
    have hvelocity : x.velocity = (o.sentOff s world m).velocity :=
      congrArg Flight.velocity hflown
    obtain ⟨hacross, hdown⟩ := (o.stand s world m).same_add_zero
    refine ⟨hstep, x, _, hx, ?_, hacross, hdown, hvelocity, congrArg Flight.rotation hflown⟩
    rw [hvelocity]
    exact congrArg Flight.position hflown
  case turn =>
    intro fits t ht hid
    refine ⟨fun hall => ?_, fun hgo => ?_, fun m hm hgo => ?_⟩
    · have hbefore : ∀ k < n, o.Follows s.owner world k := fun k hk => hall k (Nat.le_of_lt hk)
      obtain ⟨v, hv⟩ := (h.held hbefore).turned_follows he hage hbody fits hbefore
        (hall n (Nat.le_refl n)) ht hid
      exact hv.passes
    · obtain ⟨v, hv⟩ := (h.held hgo.before).turned_letsGo he hage hbody fits hgo ht hid
      exact hv.passes
    · exact (h.off m hm hgo).passes he hage hbody (world n) fits ht hid

variable {c : Catalog Float32} {config : Config Float32} {A : Step Float32 → Prop}

/-- **A shot follows its owner until it is let go of, once**, whatever is called in between without
moving its body and wherever the owner is. A shot without a body is retired instead. -/
theorem Reached.circles {e e' : Engine Float32} {op : Op Float32} {s : Shot Float32}
    {o : Orbit Float32} {world : ℕ → World Float32} (h : Reached c config A e)
    (hs : Arrives e op s) (hstep : s.step = some (.orbit o))
    (hspan :
      Span (fun _ op => op.Still s) (fun n _ b => b = .advance (world n)) (e.apply op) n e') :
    (∀ body, s.body = some body → e'.bodies.Fits → Circles o s body world n e') ∧
      (s.body = none → Hovers o s world n e') ∧
      (e'.registry.queue.issued ≤ UInt32.size → e'.bodies.Fits) := by
  have he₀ : Settled e := ⟨h.inOrder, h.balanced⟩
  have he : Settled (e.apply op) := he₀.apply op
  have he' : Settled e' := hspan.settled he
  have hage := ages_of_arrives h.inOrder hs
  have hage' := hspan.later.ages he.inOrder hage
  have hfirst : ∀ t ∈ (e.apply op).shots, t.id = s.id → t = s :=
    fun t ht hid => he.inOrder.eq_of_id ht hs.there hid
  refine ⟨fun body hbody fits => ?_, fun hbody => ?_,
    fun hissued => Nat.le_trans he'.balanced.single.slots hissued⟩
  · have fits₀ := hspan.fits he fits
    have hposes : Poses (e.apply op) s.id body (some (.orbit o)) (.rest s.origin) := by
      intro t ht hid
      obtain rfl := hfirst t ht hid
      obtain ⟨x, hx, hflight⟩ := flight_of_rests (rests_of_arrives he₀ fits₀ hs) hbody
      exact ⟨hstep, by rw [Bodies.flight?, hx, Option.map_some, hflight]⟩
    exact (hspan.orbits he hage hbody fits hposes).circled he' hage' hbody
  · have hbound : Bound (e.apply op) s.id (· = .orbit o) := by
      intro t ht hid
      obtain rfl := hfirst t ht hid
      exact ⟨_, hstep, rfl⟩
    obtain ⟨hheld, hgone⟩ := hspan.hovers he.inOrder hage hbody hbound
    refine ⟨hheld, hgone, fun t ht hid => ?_⟩
    rcases o.follows_or_letsGo s.owner world n with hbefore | ⟨m, hm, hgo⟩
    · obtain ⟨step, hstep', rfl⟩ := hheld hbefore t ht hid
      obtain ⟨v, hv⟩ := hage'.runs he'.inOrder ht hid hstep' (.advance (world n))
      obtain ⟨hgoes, hends⟩ := hv.orbit_unembodied hbody rfl hbefore
      exact ⟨v, hv.mem, hv.met_id, hv.unique, (hv.unembodied hbody).1,
        fun hnow => ⟨(hgoes hnow).1, (hgoes hnow).2.2⟩, hends⟩
    · have hnone := (hgone m hm hgo).find
      rw [← hid, (find?_eq_some he'.inOrder).mpr ⟨ht, rfl⟩] at hnone
      cases hnone

/-- A shot around an enemy: it is put on the circle in its first tick if the enemy is there, and let
go of in that tick if it is not. -/
theorem circles_enemy :
    let dot : Template Float32 := ⟨"dot", some ⟨7, 1, 2⟩, none, none, Vec.zero, []⟩
    let o : Orbit Float32 := ⟨30, 3, 240, 2, 0⟩
    let enemy : Owner := .enemy ⟨0, 0⟩
    let there (_ : ℕ) : World Float32 :=
      { World.empty with enemyAt := fun _ => some ⟨100, 40⟩ }
    let away (_ : ℕ) : World Float32 := .empty
    let op : Op Float32 := .spawnDynamic ⟨enemy, .enemyShot⟩ ⟨160, 120⟩ "dot" (.orbit o)
    let e : Engine Float32 := (new ⟨#[dot]⟩ Config.default).apply op
    let s : Shot Float32 :=
      ⟨⟨1⟩, 0, enemy, ⟨160, 120⟩, some (.orbit o), .enemyShot, some ⟨0, 0⟩, 1⟩
    Circles o s ⟨0, 0⟩ there 1 (e.beat (.advance (there 0))) ∧
      Circles o s ⟨0, 0⟩ away 1 (e.beat (.advance (away 0))) ∧
      ∃ t ∈ (e.beat (.advance (away 0))).shots, t.id = s.id ∧ t.step = none := by
  intro dot o enemy there away op e s
  have hreached : Reached ⟨#[dot]⟩ Config.default (fun _ => True) (new ⟨#[dot]⟩ Config.default) :=
    .new
  have hshots : e.shots = [s] := by with_unfolding_all rfl
  have harrives : Arrives (new ⟨#[dot]⟩ Config.default) op s :=
    ⟨hshots ▸ List.mem_singleton_self s, fun t ht => by cases ht⟩
  have hspan (world : ℕ → World Float32) : Span (fun _ op => op.Still s)
      (fun n _ b => b = .advance (world n)) e 1 (e.beat (.advance (world 0))) :=
    Span.start.beat _ rfl
  obtain ⟨hthere, -, hfits⟩ := hreached.circles harrives rfl (hspan there)
  obtain ⟨haway, -, hfits'⟩ := hreached.circles harrives rfl (hspan away)
  have hheld := hthere ⟨0, 0⟩ rfl (hfits (by decide +kernel))
  have hoff := haway ⟨0, 0⟩ rfl (hfits' (by decide +kernel))
  have hgo : o.LetsGo enemy away 0 := by
    refine ⟨fun k hk => absurd hk (Nat.not_lt_zero k), fun hnow => ?_⟩
    obtain ⟨⟨center, hcenter⟩, -⟩ := hnow
    cases hcenter
  have hstays : ∃ t ∈ (e.beat (.advance (away 0))).shots, t.id = s.id := by decide +kernel
  obtain ⟨t, ht, hid⟩ := hstays
  exact ⟨hheld, hoff, t, ht, hid, (hoff.off 0 Nat.zero_lt_one hgo t ht hid).1⟩

end Engine

end Barrage
