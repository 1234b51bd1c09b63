import Barrage.Proofs.Scripts
import Barrage.Scalar.Single

/-!
The beam of a laser.

A laser is a carrier. Once a tick it lays a segment where its cursor is and moves the cursor on,
until a bomb stops it or the cursor has left the playfield. A segment is met at frame zero in the
tick after the one that has laid it, and it goes on the frame that is its lifetime. So where nobody
harms the segments, a beam grows by one segment a tick until there is one more of them than the
lifetime says; from then on it moves, and so many ticks after the laser has stopped it is dark.
-/

namespace Barrage

open Engine (Reached Watch Played Performs Ages Arrives)

variable {K : Type} [Scalar K]

namespace Laser

/-- The laser as it lays the segment of each tick, and what it sees then. It starts when it is at
frame zero, and else goes on from where it has moved to. -/
def laying (l : Laser K) (see : Nat → View K) : Nat → Laser K
  | 0 => l.start (see 0)
  | k + 1 =>
    let next := (laying l see k).moved (see k).frame
    if (see (k + 1)).frame = 0 then next.start (see (k + 1)) else next

/-- The laser after the tick `k`. -/
def passed (l : Laser K) (see : Nat → View K) (k : Nat) : Laser K :=
  (l.laying see k).moved (see k).frame

/-- The laser before the tick `k`. -/
def bound (l : Laser K) (see : Nat → View K) : Nat → Laser K
  | 0 => l
  | k + 1 => l.passed see k

/-- The segment that is laid in the tick `k`. -/
structure Lays (l : Laser K) (t : Template K) (see : Nat → View K) (k : Nat) (x : Shot K) :
    Prop where
  origin : x.origin = (l.laying see k).cursor
  step : x.step = some (.segment ⟨l.segmentLifetime, l.trackPlayerX⟩)
  body : x.body.isSome = t.visual.isSome

/-- What a laser does, tick by tick. -/
def script (l : Laser K) (t : Template K) (see : Nat → View K) : Script K where
  step k := .laser (l.bound see k)
  Fires k births := births = Birth.row t.visual 1 fun _ =>
    ((l.laying see k).cursor, .segment ⟨l.segmentLifetime, l.trackPlayerX⟩)
  Last k := (l.stopOnBomb && (see k).world.bombActive) = true ∨
    (see k).config.contains (l.passed see k).cursor = false

variable {see : Nat → View K}

/-- Only three things about a laser ever change. -/
lemma exists_laying (l : Laser K) (see : Nat → View K) (k : Nat) : ∃ cursor direction bendAngle,
    l.laying see k = { l with cursor, direction, bendAngle } := by
  induction k with
  | zero => exact ⟨_, _, _, rfl⟩
  | succ k ih =>
    obtain ⟨cursor, direction, bendAngle, hk⟩ := ih
    rw [laying, hk]
    split
    · exact ⟨_, _, _, rfl⟩
    · exact ⟨_, _, _, rfl⟩

lemma laying_eq (h : (see 0).frame = 0) (l : Laser K) (k : Nat) :
    l.laying see k =
      if (see k).frame = 0 then (l.bound see k).start (see k) else l.bound see k := by
  cases k with
  | zero => rw [if_pos h, laying, bound]
  | succ k => rfl

/-- The turn of a laser in the tick `k`. -/
lemma run_bound (l : Laser K) (see : Nat → View K) (h : (see 0).frame = 0) (k : Nat) :
    (l.bound see k).run (see k) =
    { step := .laser (l.passed see k)
      signal := if (l.stopOnBomb && (see k).world.bombActive) ||
        !(see k).config.contains (l.passed see k).cursor then .finish else .keep
      orders := [.shots l.segment 1 fun _ =>
        ((l.laying see k).cursor, .segment ⟨l.segmentLifetime, l.trackPlayerX⟩)] } := by
  have hrun : (l.bound see k).run (see k) =
      { step := .laser (l.passed see k)
        signal := if ((l.laying see k).stopOnBomb && (see k).world.bombActive) ||
          !(see k).config.contains (l.passed see k).cursor then .finish else .keep
        orders := [.shots (l.laying see k).segment 1 fun _ => ((l.laying see k).cursor,
          .segment ⟨(l.laying see k).segmentLifetime, (l.laying see k).trackPlayerX⟩)] } := by
    rw [run, ← laying_eq h]
    rfl
  obtain ⟨cursor, direction, bendAngle, hk⟩ := l.exists_laying see k
  rw [hrun, hk]

lemma fits_script {c : Catalog K} {config : Config K} {s : Shot K} {world : Nat → World K}
    {t : Template K} (l : Laser K) (hbody : s.body = none) (hfind : c.find? l.segment = some t) :
    (l.script t (s.outlook config world)).Fits c config s world := by
  intro k v r hv
  obtain rfl := hv.eq_outlook hbody
  have hrun := l.run_bound (s.outlook config world) rfl k
  have hturn : (((l.script t (s.outlook config world)).step k).run
      (s.outlook config world k) r).1 =
      (l.bound (s.outlook config world) k).run (s.outlook config world k) := rfl
  rw [hturn, hrun]
  have hlast : (l.script t (s.outlook config world)).Last k ↔
      ((l.stopOnBomb && (world k).bombActive) ||
        !config.contains (l.passed (s.outlook config world) k).cursor) = true := by
    rw [Bool.or_eq_true, Bool.not_eq_true']
    rfl
  exact ⟨⟨_, rfl, Order.birthsAll_shots hfind _ _⟩, fun h => if_pos (hlast.mp h),
    fun h => ⟨if_neg (h ∘ hlast.mpr), rfl⟩⟩

/-! ### The path -/

variable {s : Shot K} {config : Config K} {world : Nat → World K}

/-- Where a laser comes by that the shot `s` runs. -/
structure Path (l : Laser K) (s : Shot K) (world : Nat → World K) (see : Nat → View K) :
    Prop where
  start : (l.laying see 0).cursor =
    (match l.anchor with
      | .here => s.origin
      | .owner => ((world 0).locate s.owner).getD s.origin
      | .player => (world 0).player.getD s.origin) + l.offset
  /-- Where the tick `k` takes the cursor. -/
  step : ∀ k, (l.passed see k).cursor = (l.laying see k).cursor +
    ((l.laying see k).direction.rotate (l.passed see k).bendAngle).scale l.advance
  /-- There the next segment is laid, up to the range of the frame counter. -/
  next : ∀ k, k + 1 < UInt32.size → l.laying see (k + 1) = l.passed see k
  direction : ∀ k < UInt32.size, (l.laying see k).direction = (l.laying see 0).direction

lemma path (l : Laser K) (s : Shot K) (config : Config K) (world : Nat → World K) :
    Path l s world (s.outlook config world) := by
  have hnext (k : Nat) (hk : k + 1 < UInt32.size) :
      l.laying (s.outlook config world) (k + 1) = l.passed (s.outlook config world) k := by
    refine if_neg fun hframe => ?_
    have hzero := congrArg UInt32.toNat hframe
    rw [Shot.outlook, UInt32.toNat_ofNat_of_lt' hk] at hzero
    exact absurd hzero (Nat.succ_ne_zero k)
  constructor
  case start =>
    rw [laying, start]
    rcases l.anchor with _ | _ | _ <;> rfl
  case step =>
    intro k
    obtain ⟨cursor, direction, bendAngle, hk⟩ := l.exists_laying (s.outlook config world) k
    rw [passed, hk]
    rfl
  case next => exact hnext
  case direction =>
    intro k hk
    induction k with
    | zero => rfl
    | succ k ih =>
      rw [hnext k hk, ← ih (Nat.lt_of_succ_lt hk)]
      rfl

end Laser

/-! ### Segments -/

/-- What a segment does, tick by tick: nothing but to be there for its lifetime. -/
def Segment.script (g : Segment) : Script K where
  step _ := .segment g
  Fires _ births := births = []
  Last k := g.lifetime ≤ UInt32.ofNat k

lemma Segment.fits_script (g : Segment) (c : Catalog K) (config : Config K) (s : Shot K)
    (world : Nat → World K) : (g.script : Script K).Fits c config s world := by
  intro k v r hv
  have hsignal : (g.run v).signal = if g.lifetime ≤ UInt32.ofNat k then .finish else .keep := by
    rw [← hv.frame]
    rfl
  exact ⟨⟨[], rfl, rfl⟩, fun h => hsignal.trans (if_pos h),
    fun h => ⟨hsignal.trans (if_neg h), rfl⟩⟩

omit [Scalar K] in
lemma Segment.lasts_script (g : Segment) (n : Nat) :
    (g.script : Script K).Lasts n ↔ n ≤ g.lifetime.toNat := by
  constructor
  · intro h
    by_contra hn
    refine h g.lifetime.toNat (by omega) ?_
    have hlifetime : UInt32.ofNat g.lifetime.toNat = g.lifetime := UInt32.ofNat_toNat
    exact UInt32.le_of_eq hlifetime.symm
  · intro hn k hk hlast
    have hlt : k < UInt32.size := Nat.lt_trans (by omega) g.lifetime.toNat_lt
    have hle := UInt32.le_iff_toNat_le.mp hlast
    rw [UInt32.toNat_ofNat_of_lt' hlt] at hle
    omega

namespace Engine

variable {e e' : Engine K} {s x : Shot K} {id : ShotId} {n : Nat} {world : Nat → World K}
  {born : Nat → List (Shot K)} {g : Segment}

/-- A run in which what a shot creates is neither taken away nor culled. -/
inductive Sheltered (id : ShotId) (world : Nat → World K) (born : Nat → List (Shot K))
    (e : Engine K) : Nat → Engine K → Prop where
  | start : Sheltered id world born e 0 e
  | call {n : Nat} {e' : Engine K} (op : Op K) (h : Sheltered id world born e n e')
      (hticks : op.ticks = 0) (hkeeps : e'.Keeps op id)
      (hspared : ∀ k < n, ∀ x ∈ born k, e'.Keeps op x.id) :
      Sheltered id world born e n (e'.apply op)
  | beat {n : Nat} {e' : Engine K} (b : Beat K) (h : Sheltered id world born e n e')
      (hworld : b.world = world n) (hborn : e'.fired id b = born n)
      (hinside : ∀ k < n, ∀ x ∈ born k, ∀ v ∈ e'.turns b, v.met.id = x.id →
        v.outcome.culled = false) :
      Sheltered id world born e (n + 1) (e'.beat b)

lemma Sheltered.watch (h : Sheltered id world born e n e') : Watch id world born e n e' := by
  induction h with
  | start => exact .start
  | call op _ hticks hkeeps _ ih => exact ih.call op hticks hkeeps
  | beat b _ hworld hborn _ ih => exact ih.beat b hworld hborn

/-- A run of beats in which nothing is culled at all. -/
lemma sheltered_run (beats : Nat → Beat K)
    (h : ∀ k < n, ∀ v ∈ (e.run ((List.range k).map beats)).turns (beats k),
      v.outcome.culled = false) :
    Sheltered id (fun k => (beats k).world)
      (fun k => (e.run ((List.range k).map beats)).fired id (beats k)) e n
      (e.run ((List.range n).map beats)) := by
  induction n with
  | zero => exact .start
  | succ n ih =>
    obtain ⟨hold, hlast⟩ := Nat.forall_lt_succ_right.mp h
    rw [run_range_succ]
    exact (ih hold).beat (beats n) rfl rfl fun _ _ _ _ v hv _ => hlast v hv

/-- A segment that was created `age` ticks ago. -/
structure Burns (g : Segment) (x : Shot K) (age : Nat) (e : Engine K) : Prop where
  ages : Ages e x age
  played : Played g.script x (fun _ => []) age e

lemma Burns.call {op : Op K} {age : Nat} (h : Burns g x age e) (ho : e.registry.InOrder)
    (hticks : op.ticks = 0) (hkeeps : e.Keeps op x.id) : Burns g x age (e.apply op) := by
  have hages := h.ages.apply ho op
  rw [hticks] at hages
  exact ⟨hages, h.played.call ho h.ages.issued hkeeps⟩

/-- A segment that is not culled has its turn and creates nothing. -/
lemma Burns.beat {b : Beat K} {age : Nat} (h : Burns g x age e) (ho : e.registry.InOrder)
    (hinside : ∀ v ∈ e.turns b, v.met.id = x.id → v.outcome.culled = false) :
    Burns g x (age + 1) (e.beat b) := by
  have hturn (hlasts : (g.script : Script K).Lasts age) : HasTurn g.script x age e b := by
    obtain ⟨t, ht, hid, hstep⟩ := h.played.there hlasts
    have hfits : (g.script : Script K).Fits e.catalog e.config x fun _ => b.world :=
      g.fits_script _ _ _ _
    exact h.ages.plays ho hfits ht hid hstep rfl hinside
  have hquiet : e.fired x.id b = [] := by
    by_cases hlasts : (g.script : Script K).Lasts age
    · obtain ⟨v, hv, hplays, hunique⟩ := hturn hlasts
      obtain ⟨births, st, rfl, hborn⟩ := hplays.born
      rw [fired_of_turn hv hplays.met hunique, hborn, Stage.newborns]
    · exact fired_of_gone ho (h.played.gone hlasts).find b
  exact ⟨h.ages.beat ho b, h.played.beat ho h.ages.issued hquiet hturn⟩

lemma Burns.of_fired {b : Beat K} (ho : e.registry.InOrder) (hx : x ∈ e.fired id b)
    (hstep : x.step = some (.segment g)) : Burns g x 0 (e.beat b) := by
  obtain ⟨v, hv, hx⟩ := exists_visit_of_fired hx
  have harrives := arrives_of_born ho hv hx
  have hages := ages_of_arrives ho harrives
  have hthere := harrives.there
  rw [apply_op] at hages hthere
  exact ⟨hages, .start hthere hstep⟩

/-- It is there for one tick more than its lifetime says. -/
lemma Burns.there_iff {age : Nat} (h : Burns g x age e) :
    (∃ y ∈ e.shots, y.id = x.id) ↔ age ≤ g.lifetime.toNat := by
  rw [← g.lasts_script (K := K)]
  constructor
  · rintro ⟨y, hy, hid⟩
    by_contra hover
    exact List.find?_eq_none.mp (h.played.gone hover).find y hy (beq_iff_eq.mpr hid)
  · intro hlasts
    obtain ⟨y, hy, hid, -⟩ := h.played.there hlasts
    exact ⟨y, hy, hid⟩

lemma Sheltered.burns (h : Sheltered id world born e n e') (ho : e.registry.InOrder)
    (hsegments : ∀ k < n, ∀ x ∈ born k, x.step = some (.segment g)) :
    ∀ k < n, ∀ x ∈ born k, Burns g x (n - 1 - k) e' := by
  induction h with
  | start => exact fun k hk => absurd hk (Nat.not_lt_zero k)
  | call op h hticks hkeeps hspared ih =>
    have ho' := h.watch.later.inOrder ho
    exact fun k hk x hx => (ih hsegments k hk x hx).call ho' hticks (hspared k hk x hx)
  | @beat n e₁ b h hworld hborn hinside ih =>
    have ho' := h.watch.later.inOrder ho
    obtain ⟨hold, hnew⟩ := Nat.forall_lt_succ_right.mp hsegments
    refine Nat.forall_lt_succ_right.mpr ⟨fun k hk x hx => ?_, fun x hx => ?_⟩
    · have hage : n + 1 - 1 - k = n - 1 - k + 1 := by omega
      rw [hage]
      exact (ih hold k hk x hx).beat ho' (hinside k hk x hx)
    · rw [Nat.add_sub_cancel, Nat.sub_self]
      exact .of_fired ho' (hborn ▸ hx) (hnew x hx)

/-! ### The whole beam -/

/-- The shots of the engine that have the numbers of given ones. -/
def surviving (e : Engine K) (xs : List (Shot K)) : List (Shot K) :=
  e.shots.filter fun t => xs.any (·.id == t.id)

omit [Scalar K] in
lemma length_surviving (ho : e.registry.InOrder) {xs : List (Shot K)}
    (hxs : (xs.map (·.id.raw)).Nodup) :
    (e.surviving xs).length = xs.countP fun x => (e.find? x.id).isSome := by
  have hperm : ((e.surviving xs).map (·.id.raw)).Perm
      ((xs.filter fun x => (e.find? x.id).isSome).map (·.id.raw)) := by
    have hshots : (e.shots.map (·.id.raw)).Nodup := ho.sorted.imp Nat.ne_of_lt
    refine (List.perm_ext_iff_of_nodup (hshots.sublist (List.filter_sublist.map _))
      (hxs.sublist (List.filter_sublist.map _))).mpr fun i => ?_
    simp only [List.mem_map, List.mem_filter, List.any_eq_true, beq_iff_eq]
    constructor
    · rintro ⟨t, ⟨ht, x, hx, hid⟩, rfl⟩
      refine ⟨x, ⟨hx, ?_⟩, by rw [hid]⟩
      rw [(find?_eq_some ho).mpr ⟨ht, hid.symm⟩]
      rfl
    · rintro ⟨x, ⟨hx, hsome⟩, rfl⟩
      obtain ⟨t, ht⟩ := Option.isSome_iff_exists.mp hsome
      obtain ⟨hmem, hid⟩ := (find?_eq_some ho).mp ht
      exact ⟨t, ⟨hmem, x, hx, hid.symm⟩, by rw [hid]⟩
  have hlength := hperm.length_eq
  rw [List.length_map, List.length_map] at hlength
  rw [hlength, List.countP_eq_length_filter]

omit [Scalar K] in
/-- Of those that come one by one, the ones from the `a`-th on are counted. -/
lemma countP_flatMap_range {q : Shot K → Bool} {a m : Nat}
    (h : ∀ k < m, (born k).countP q = if a ≤ k then 1 else 0) :
    ((List.range m).flatMap born).countP q = m - a := by
  induction m with
  | zero => simp
  | succ m ih =>
    obtain ⟨hold, hlast⟩ := Nat.forall_lt_succ_right.mp h
    rw [List.range_succ, List.flatMap_append, List.flatMap_singleton, List.countP_append, ih hold,
      hlast]
    split_ifs <;> omega

/-- The beam of a laser `l` that is on its own after `n` ticks. -/
structure Beam (l : Laser K) (t : Template K) (s : Shot K) (config : Config K)
    (world : Nat → World K) (born : Nat → List (Shot K)) (n : Nat) (e : Engine K) : Prop where
  path : l.Path s world (s.outlook config world)
  /-- The laser is there up to the first tick in which a bomb stops it or it has moved out of the
  playfield. -/
  performs : Performs (l.script t (s.outlook config world)) s world born n e
  /-- In every tick up to then it lays one segment, where its cursor was. -/
  lays : ∀ k < n, (l.script t (s.outlook config world)).Lasts k →
    ∃ x, born k = [x] ∧ l.Lays t (s.outlook config world) k x

/-- The segments that are left after `n` ticks of those that nobody has harmed. -/
structure Glow (l : Laser K) (p : Script K) (born : Nat → List (Shot K)) (n : Nat)
    (e : Engine K) : Prop where
  each : ∀ k < n, ∀ x ∈ born k,
    (∃ t ∈ e.shots, t.id = x.id) ↔ n ≤ k + 1 + l.segmentLifetime.toNat
  lit : (∀ k < n, p.Lasts k) →
    (e.surviving ((List.range n).flatMap born)).length = min n (l.segmentLifetime.toNat + 1)
  dark : ∀ k, p.Last k → k + 1 + (l.segmentLifetime.toNat + 1) ≤ n →
    e.surviving ((List.range n).flatMap born) = []

variable {c : Catalog K} {config : Config K} {A : Step K → Prop} {op : Op K} {l : Laser K}
  {t : Template K}

section Laying

variable {see : Nat → View K} (h : Performs (l.script t see) s world born n e)

include h

lemma Performs.lays : ∀ k < n, (l.script t see).Lasts k →
    ∃ x, born k = [x] ∧ l.Lays t see k x := by
  intro k hk hlasts
  obtain ⟨births, st, rfl, hborn⟩ := h.fires k hk hlasts
  have hlength : (born k).length = 1 := by rw [hborn, Stage.length_newborns, Birth.length_row]
  obtain ⟨x, hx⟩ := List.length_eq_one_iff.mp hlength
  have hmem : x ∈ born k := by rw [hx]; exact List.mem_singleton_self x
  rw [hborn] at hmem
  obtain ⟨b, hb, horigin, hstep, hbody⟩ := Stage.exists_birth hmem
  obtain ⟨i, -, rfl⟩ := List.mem_map.mp hb
  exact ⟨x, hx, horigin, hstep, hbody⟩

/-- All that a laser creates is segments. -/
lemma Performs.segments : ∀ k < n, ∀ x ∈ born k,
    x.step = some (.segment ⟨l.segmentLifetime, l.trackPlayerX⟩) := by
  intro k hk x hx
  by_cases hlasts : (l.script t see).Lasts k
  · obtain ⟨y, hy, hlays⟩ := h.lays k hk hlasts
    rw [hy, List.mem_singleton] at hx
    rw [hx, hlays.step]
  · rw [h.silent k hk hlasts] at hx
    cases hx

end Laying

lemma Sheltered.glow {e₀ : Engine K} {see : Nat → View K}
    (h : Sheltered s.id world born e₀ n e) (ho : e₀.registry.InOrder)
    (hp : Performs (l.script t see) s world born n e) : Glow l (l.script t see) born n e := by
  have ho' := h.watch.later.inOrder ho
  have heach : ∀ k < n, ∀ x ∈ born k,
      (∃ y ∈ e.shots, y.id = x.id) ↔ n ≤ k + 1 + l.segmentLifetime.toNat := by
    intro k hk x hx
    refine (h.burns ho hp.segments k hk x hx).there_iff.trans ?_
    show n - 1 - k ≤ l.segmentLifetime.toNat ↔ _
    omega
  constructor
  case each => exact heach
  case lit =>
    intro hlasts
    have hcount : ∀ k < n, (born k).countP (fun x => (e.find? x.id).isSome) =
        if n - (l.segmentLifetime.toNat + 1) ≤ k then 1 else 0 := by
      intro k hk
      obtain ⟨x, hx, -⟩ := hp.lays k hk (hlasts k hk)
      have hfound : (e.find? x.id).isSome = true ↔ n - (l.segmentLifetime.toNat + 1) ≤ k := by
        rw [find?, Registry.find?, List.find?_isSome]
        simp only [beq_iff_eq]
        refine (heach k hk x (by rw [hx]; exact List.mem_singleton_self x)).trans ?_
        omega
      simp only [hx, List.countP_singleton, hfound]
    rw [length_surviving ho' (h.watch.ids ho).1, countP_flatMap_range hcount]
    omega
  case dark =>
    intro k hlast hn
    refine List.filter_eq_nil_iff.mpr fun y hy hany => ?_
    obtain ⟨x, hx, hid⟩ := List.any_eq_true.mp hany
    obtain ⟨j, hj, hx⟩ := List.mem_flatMap.mp hx
    rw [List.mem_range] at hj
    have hle := (heach j hj x hx).mp ⟨y, hy, (beq_iff_eq.mp hid).symm⟩
    -- a segment that is left was laid after the tick in which the laser was retired
    have hover : ¬ (l.script t see).Lasts j := fun h => h k (by omega) hlast
    rw [hp.silent j hj hover] at hx
    cases hx

/-- **The beam of a laser**, from the call that brings the laser about and whatever is called as
long as nobody takes it away; and if nobody takes away its segments either and none is culled, there
are as many as its lifetime allows. -/
theorem Reached.beam (h : Reached c config A e) (hs : Arrives e op s) (hbody : s.body = none)
    (hstep : s.step = some (.laser l)) (hfind : c.find? l.segment = some t) :
    (Watch s.id world born (e.apply op) n e' → Beam l t s config world born n e') ∧
      (Sheltered s.id world born (e.apply op) n e' →
        Glow l (l.script t (s.outlook config world)) born n e') := by
  have hperforms (hw : Watch s.id world born (e.apply op) n e') :
      Performs (l.script t (s.outlook config world)) s world born n e' := by
    refine hw.performs h.inOrder hs hbody hstep ?_
    obtain ⟨hcatalog, hconfig⟩ := h.setting_apply op
    rw [hcatalog, hconfig]
    exact l.fits_script hbody hfind
  constructor
  · exact fun hw => ⟨l.path s config world, hperforms hw, (hperforms hw).lays⟩
  · exact fun hsh => hsh.glow (inOrder_apply h.inOrder op) (hperforms hsh.watch)

/-- A laser that a bomb stops in its first tick. The segment it has laid lasts for two ticks. -/
theorem beam_bomb :
    let dot : Template Float32 := ⟨"dot", some ⟨7, 1, 2⟩, none, none, Vec.zero, []⟩
    let l : Laser Float32 := { Laser.of "dot" (.fixed 90) with segmentLifetime := 1 }
    let e : Engine Float32 := .new ⟨#[dot]⟩ Config.default
    let op : Op Float32 := .spawnCarrier ⟨.none, .enemyShot⟩ ⟨160, 120⟩ (.laser l)
    let s : Shot Float32 :=
      ⟨⟨1⟩, 0, .none, ⟨160, 120⟩, some (.laser l), .enemyShot, none, 0⟩
    let world (k : Nat) : World Float32 := { World.empty with bombActive := k == 0 }
    let after (n : Nat) := (e.apply op).run ((List.range n).map fun k => .tick (world k))
    let born (k : Nat) := (after k).fired ⟨1⟩ (.tick (world k))
    Beam l dot s Config.default world born 3 (after 3) ∧
      ((after 1).surviving ((List.range 1).flatMap born)).length = 1 ∧
      (after 3).surviving ((List.range 3).flatMap born) = [] := by
  intro dot l e op s world after born
  have hreached : Reached ⟨#[dot]⟩ Config.default (fun _ => True) e := .new
  obtain ⟨t, hfind⟩ := Option.isSome_iff_exists.mp
    (show ((⟨#[dot]⟩ : Catalog Float32).find? "dot").isSome = true by decide +kernel)
  obtain rfl : t = dot := by simpa using Catalog.find?_mem hfind
  have hshots : (e.apply op).shots = [s] := by with_unfolding_all rfl
  have harrives : Arrives e op s := ⟨hshots ▸ List.mem_singleton_self s, fun t ht => by cases ht⟩
  let p : Script Float32 := l.script dot (s.outlook Config.default world)
  have hbeam (n : Nat) : (Watch ⟨1⟩ world born (e.apply op) n (after n) →
      Beam l dot s Config.default world born n (after n)) ∧
      (Sheltered ⟨1⟩ world born (e.apply op) n (after n) → Glow l p born n (after n)) :=
    hreached.beam harrives rfl rfl hfind
  let beats (k : Nat) : Beat Float32 := .tick (world k)
  have hinside : ∀ k < 3, ∀ v ∈ (after k).turns (beats k), v.outcome.culled = false := by
    decide +kernel
  have h₁ : Sheltered ⟨1⟩ world born (e.apply op) 1 (after 1) :=
    sheltered_run beats fun k hk => hinside k (by omega)
  have h₃ : Sheltered ⟨1⟩ world born (e.apply op) 3 (after 3) :=
    sheltered_run beats hinside
  refine ⟨(hbeam 3).1 h₃.watch, ?_, ?_⟩
  · refine ((hbeam 1).2 h₁).lit fun k hk j hj => ?_
    omega
  · exact ((hbeam 3).2 h₃).dark 0 (.inl rfl) (by decide)

end Engine

end Barrage
