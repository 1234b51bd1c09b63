import Barrage.Proofs.Ageing
import Barrage.Proofs.Persistence
import Barrage.Scalar.Single
import Mathlib.Data.List.Induction

/-!
How a fractal grows.

A fractal and all that comes of it stay where the first shot was created, since nobody flies in a
tick. So the shots of a generation do the same in every tick: they are met at one frame, fly on, and
in one tick split all together into the next generation, which waits in the queue while the one
before it is removed. The last generation loses its step in its first tick and stays.
-/

namespace Barrage

open Engine (Reached Scene Visit act actAll judge leftBound moveAll release view visits)

variable {K : Type}

/-- All bodies lie at one place. -/
def Bodies.AllAt (bs : Bodies K) (p : Vec K) : Prop :=
  ∀ g body, bs.get? g = some body → body.position = p

/-- The bodies are in order and lie at one place. -/
structure Bodies.Still (p : Vec K) (bs : Bodies K) : Prop where
  sound : bs.Sound
  allAt : bs.AllAt p

/-- A shot of the generation `k` from the last one, that is at frame `r`. -/
structure Sprout (p : Vec K) (f : Fractal K) (k r : Nat) (x : Shot K) : Prop where
  origin : x.origin = p
  body : x.body.isSome = true
  step : ∃ heading, x.step = some (.fractal { f with depth := UInt32.ofNat k, heading })
  frame : x.frame = UInt32.ofNat r

/-- A shot of the last generation that has no step any more. -/
structure Leaf (p : Vec K) (x : Shot K) : Prop where
  origin : x.origin = p
  body : x.body.isSome = true
  step : x.step = none

variable [Scalar K]

namespace Bodies.Still

variable {p : Vec K} {bs : Bodies K}

lemma moveAll (h : bs.Still p) (body : Option BodyId) {motions : List (Motion K)}
    (hm : ∀ x : Body K, (motions.foldl Body.apply x).position = x.position) :
    Still p (Engine.moveAll bs body motions) := by
  refine ⟨sound_moveAll h.sound body motions, fun g x hx => ?_⟩
  rw [get?_moveAll] at hx
  split at hx
  · obtain ⟨y, hy, rfl⟩ := Option.map_eq_some_iff.mp hx
    rw [hm, h.allAt g y hy]
  · exact h.allAt g x hx

lemma addAll {st : Stage K} (h : st.bodies.Still p) {side : Side} {births : List (Birth K)}
    (hb : ∀ b ∈ births, b.place = p) : Still p (st.addAll side births).bodies := by
  induction births generalizing st with
  | nil => exact h
  | cons b births ih =>
    rw [Stage.addAll_cons]
    refine ih ⟨Stage.sound_add h.sound side b, fun g x hx => ?_⟩ fun b' hb' => hb b' (by simp [hb'])
    rw [Stage.add_eq] at hx
    rcases hv : b.visual with _ | v
    · simp only [Stage.embody, hv] at hx
      exact h.allAt g x hx
    · simp only [Stage.embody, hv] at hx
      rcases Arena.eq_or_of_get?_insert h.sound hx with rfl | hx
      · exact hb b (by simp)
      · exact h.allAt g x hx

omit [Scalar K] in
lemma release (h : bs.Still p) (gone : List (Shot K)) : Still p (Engine.release bs gone) :=
  ⟨sound_release h.sound gone, fun g x hx => h.allAt g x (Engine.get?_of_release hx)⟩

omit [Scalar K] in
/-- A shot that was created at this place is there. -/
lemma position (h : bs.Still p) (config : Config K) (world : World K) {x : Shot K}
    (hx : x.origin = p) : (view config world bs x).position = p := by
  rcases hpos : x.body.bind bs.position? with _ | q
  · simp [view, hpos, hx]
  · obtain ⟨g, -, hq⟩ := Option.bind_eq_some_iff.mp hpos
    obtain ⟨body, hbody, rfl⟩ := Option.map_eq_some_iff.mp hq
    simp [view, hpos, h.allAt g body hbody]

/-- So nothing is outside if the place is not. -/
lemma inside (h : bs.Still p) {config : Config K} (hcull : config.isCulled p = false)
    (x : Shot K) : Engine.isOutside config bs x = false := by
  rw [Bool.eq_false_iff, ne_eq, Engine.isOutside_iff]
  rintro ⟨g, q, -, hq, hout⟩
  obtain ⟨body, hbody, rfl⟩ := Option.map_eq_some_iff.mp hq
  rw [h.allAt g body hbody, hcull] at hout
  cases hout

/-- A shot with a body goes if its step says so, and else stays. -/
lemma retired (h : bs.Still p) {config : Config K} (hcull : config.isCulled p = false)
    {x : Shot K} (hx : x.body.isSome = true) (answer : Option Answer) :
    (judge config bs x answer).retired = answer.any Answer.isLast := by
  have hnone : x.body.isNone = false := by simpa [← Option.not_isSome] using hx
  simp [judge, h.inside hcull x, hnone]

end Bodies.Still

/-! ### One shot -/

lemma Fractal.motions_run (s : Fractal K) (v : View K) (x : Body K) :
    ((s.run v).motions.foldl Body.apply x).position = x.position := by
  have hmotions : (s.run v).motions =
      if v.frame = 0 then launchAlong s.heading s.speed else [] := by
    unfold run
    split_ifs <;> rfl
  rw [hmotions]
  split_ifs <;> rfl

/-- What a shot does that is met `k` generations from the last one, at frame `r`. -/
inductive Grows (p : Vec K) (f : Fractal K) (k r : Nat) (v : Visit K) : Prop where
  | settles (hk : k = 0) (hkept : v.outcome.retired = false) (hborn : v.born = [])
      (hleaf : Leaf p v.outcome.shot)
  | flies (hk : 0 < k) (hr : r < f.splitAfter.toNat) (hkept : v.outcome.retired = false)
      (hborn : v.born = []) (hshot : v.outcome.shot = v.met)
  | splits (hk : 0 < k) (hr : f.splitAfter.toNat ≤ r) (hretired : v.outcome.retired = true)
      (hcount : v.born.length = f.branches.toNat) (hborn : ∀ x ∈ v.born, Sprout p f (k - 1) 0 x)

variable {p : Vec K} {f : Fractal K} {k r : Nat} {c : Catalog K} {config : Config K}
  {world : World K} {v : Visit K} {t : Template K}

/-- What a fractal answers and orders in a tick. -/
lemma Fractal.run_cases (s : Fractal K) (v : View K) :
    s.depth = 0 ∧ (s.run v).signal = .detach ∧ (s.run v).orders = [] ∨
      s.depth ≠ 0 ∧ v.frame < s.splitAfter ∧ (s.run v).signal = .keep ∧ (s.run v).orders = [] ∨
      s.depth ≠ 0 ∧ s.splitAfter ≤ v.frame ∧ (s.run v).signal = .finish ∧
        (s.run v).orders = [.shots s.template s.branches.toNat fun i =>
          (v.position, .fractal (s.branch (ring s.branches s.spin i)))] := by
  by_cases hdepth : s.depth = 0
  · exact .inl (by simp [run, hdepth])
  · by_cases hlt : v.frame < s.splitAfter
    · exact .inr (.inl (by simp [run, hdepth, hlt]))
    · exact .inr (.inr (by simp [run, hdepth, hlt, UInt32.not_lt.mp hlt]))

/-- The branches of a split are of the next generation. -/
lemma Sprout.of_row {st : Stage K} {side : Side} {visual : Option (Visual K)} {heading : K}
    {count : Nat} {headings : Nat → K} (hvisual : visual.isSome = true) (hk : 0 < k)
    {x : Shot K} (hx : x ∈ st.newborns side (Birth.row visual count fun i =>
      (p, .fractal (Fractal.branch { f with depth := UInt32.ofNat k, heading } (headings i))))) :
    Sprout p f (k - 1) 0 x := by
  obtain ⟨birth, hbirth, horigin, hstep, hbody⟩ := Stage.exists_birth hx
  obtain ⟨i, -, rfl⟩ := List.mem_map.mp hbirth
  obtain ⟨m, rfl⟩ : ∃ m, k = m + 1 := ⟨k - 1, by omega⟩
  have hdepth : UInt32.ofNat (m + 1) - 1 = UInt32.ofNat m := by
    rw [UInt32.ofNat_add]
    exact UInt32.add_sub_cancel _ _
  refine ⟨horigin, hbody.trans hvisual, ⟨headings i, ?_⟩, (Stage.of_mem_newborns hx).1⟩
  rw [hstep]
  simp only [Fractal.branch, hdepth, Nat.add_sub_cancel]

/-- A fractal that creates where all bodies lie leaves them there and is judged there. -/
lemma Bodies.Still.visited {s : Fractal K} (hs : v.before.stage.bodies.Still p)
    (births : List (Birth K)) (h : act c config world v.before v.met = (v.outcome, v.after))
    (hstep : v.met.step = some (.fractal s)) (hbody : v.met.body.isSome = true)
    (hcull : config.isCulled p = false)
    (hbirths : Order.birthsAll c (s.run (view config world v.before.stage.bodies v.met)).orders =
      (births, none)) (hplace : ∀ b ∈ births, b.place = p) :
    let signal := (s.run (view config world v.before.stage.bodies v.met)).signal
    v.after.stage.bodies.Still p ∧ v.outcome.retired = Answer.isLast (.ok signal) ∧
      v.outcome.shot = { v.met with step := leftBound (.fractal s) (.ok signal) } ∧
      ∃ st : Stage K, v.born = st.newborns ⟨v.met.owner, v.met.list⟩ births := by
  obtain ⟨turn, rnd, b, failure, answer, hrun, hbirths', rfl, hstage, -, houtcome⟩ :=
    Engine.turned h hstep
  obtain rfl : s.run _ = turn := congrArg Prod.fst hrun
  obtain ⟨rfl, rfl⟩ := Prod.mk.injEq .. ▸ hbirths.symm.trans hbirths'
  have hstill : v.after.stage.bodies.Still p := by
    rw [hstage]
    exact addAll (hs.moveAll v.met.body (s.motions_run _)) hplace
  refine ⟨hstill, ?_, ?_, _, Engine.born_of_stage hstage⟩ <;> rw [houtcome]
  · rw [hstill.retired hcull (by exact hbody)]
    rfl
  · rw [s.step_run]
    rfl

/-- All that a shot of a generation does in a tick. -/
lemma Grows.of_visit (h : act c config world v.before v.met = (v.outcome, v.after))
    (hs : v.before.stage.bodies.Still p) (hx : Sprout p f k r v.met) (hk : k ≤ f.depth.toNat)
    (hr : r ≤ f.splitAfter.toNat) (hfind : c.find? f.template = some t)
    (hvisual : t.visual.isSome = true) (hcull : config.isCulled p = false) :
    v.after.stage.bodies.Still p ∧ Grows p f k r v := by
  obtain ⟨heading, hstep⟩ := hx.step
  obtain ⟨s, hfractal⟩ : ∃ s : Fractal K, s = { f with depth := UInt32.ofNat k, heading } :=
    ⟨_, rfl⟩
  rw [← hfractal] at hstep
  have hvisited births := hs.visited births h hstep hx.body hcull
  obtain ⟨w, hw⟩ : ∃ w, w = view config world v.before.stage.bodies v.met := ⟨_, rfl⟩
  rw [← hw] at hvisited
  have hpos : w.position = p := hw ▸ hs.position config world hx.origin
  have hframe : w.frame.toNat = r := by
    rw [hw, view, hx.frame]
    exact UInt32.toNat_ofNat_of_lt (Nat.lt_of_le_of_lt hr f.splitAfter.toNat_lt)
  have hdepth : s.depth.toNat = k := by
    rw [hfractal]
    exact UInt32.toNat_ofNat_of_lt (Nat.lt_of_le_of_lt hk f.depth.toNat_lt)
  have hnext (hne : s.depth ≠ 0) : 0 < k := by
    rw [← hdepth]
    exact Nat.pos_of_ne_zero fun h0 => hne (UInt32.toNat_inj.mp h0)
  have hafter : s.splitAfter = f.splitAfter := by rw [hfractal]
  rcases s.run_cases w with ⟨hzero, hsignal, horders⟩ | ⟨hne, hlt, hsignal, horders⟩ |
    ⟨hne, hle, hsignal, horders⟩
  · rw [horders, hsignal] at hvisited
    obtain ⟨hstill, hretired, hshot, _, hborn⟩ := hvisited [] rfl (by simp)
    refine ⟨hstill, .settles ?_ hretired hborn (hshot ▸ ⟨hx.origin, hx.body, rfl⟩)⟩
    rw [← hdepth, hzero]
    rfl
  · rw [horders, hsignal] at hvisited
    obtain ⟨hstill, hretired, hshot, _, hborn⟩ := hvisited [] rfl (by simp)
    refine ⟨hstill, .flies (hnext hne) ?_ hretired hborn ?_⟩
    · rw [← hframe, ← hafter]
      exact UInt32.lt_iff_toNat_lt.mp hlt
    · rw [hshot, leftBound, ← hstep]
      exact fun h => by cases h
  · have hfind' : c.find? s.template = some t := by rw [hfractal, hfind]
    rw [horders, hsignal, Order.birthsAll_shots hfind', hpos] at hvisited
    obtain ⟨hstill, hretired, -, _, hborn⟩ := hvisited _ rfl fun x hx => by
      obtain ⟨i, -, rfl⟩ := List.mem_map.mp hx
      rfl
    refine ⟨hstill, .splits (hnext hne) ?_ hretired ?_ fun x hx => ?_⟩
    · rw [← hframe, ← hafter]
      exact UInt32.le_iff_toNat_le.mp hle
    · rw [hborn, Stage.length_newborns, Birth.length_row, hfractal]
    · rw [hborn, hfractal] at hx
      exact .of_row hvisual (hnext hne) hx

/-! ### One tick -/

/-- All shots are of one generation, and will be met at one frame. -/
structure Growing (p : Vec K) (f : Fractal K) (k r count : Nat) (e : Engine K) : Prop where
  still : e.bodies.Still p
  count : e.registry.advance.live.length = count
  sprouts : ∀ x ∈ e.registry.advance.live, Sprout p f k r x

/-- The last generation has lost its step. -/
structure Grown (p : Vec K) (count : Nat) (e : Engine K) : Prop where
  still : e.bodies.Still p
  queue : e.registry.queue.pending.toList = []
  count : e.registry.live.length = count
  leaves : ∀ x ∈ e.registry.live, Leaf p x

/-- What each visit does where all bodies lie at one place, if it leaves them there. -/
lemma Bodies.Still.visits {R : Visit K → Prop} {scene : Scene K} {ss : List (Shot K)}
    (hs : scene.stage.bodies.Still p)
    (hvisit : ∀ v : Visit K, v.met ∈ ss → act c config world v.before v.met = (v.outcome, v.after) →
      v.before.stage.bodies.Still p → v.after.stage.bodies.Still p ∧ R v) :
    (actAll c config world scene ss).2.stage.bodies.Still p ∧
      ∀ v ∈ Engine.visits c config world scene ss, R v := by
  induction ss generalizing scene with
  | nil => exact ⟨hs, by simp [Engine.visits]⟩
  | cons s ss ih =>
    let v₀ : Visit K := ⟨s, scene, (act c config world scene s).2, (act c config world scene s).1⟩
    obtain ⟨hafter, hR⟩ := hvisit v₀ List.mem_cons_self rfl hs
    obtain ⟨hlast, hrest⟩ := ih hafter fun v hv => hvisit v (List.mem_cons_of_mem _ hv)
    exact ⟨hlast, List.forall_mem_cons.mpr ⟨hR, hrest⟩⟩

variable {e : Engine K} {count : Nat}

lemma Bodies.Still.tick {R : Visit K → Prop} (h : e.bodies.Still p) (world : World K)
    (hvisit : ∀ v : Visit K, v.met ∈ e.registry.advance.live →
      act e.catalog e.config world v.before v.met = (v.outcome, v.after) →
      v.before.stage.bodies.Still p → v.after.stage.bodies.Still p ∧ R v) :
    (e.tick world).2.bodies.Still p ∧ ∀ v ∈ e.tickVisits world, R v := by
  obtain ⟨hstill, hR⟩ : (e.pass world).2.stage.bodies.Still p ∧
    ∀ v ∈ e.tickVisits world, R v := visits h hvisit
  refine ⟨?_, hR⟩
  rw [Engine.bodies_tick]
  exact hstill.release _

namespace Engine

lemma length_tickVisits (e : Engine K) (world : World K) :
    (e.tickVisits world).length = e.registry.advance.live.length := by
  rw [← met_tickVisits e world, List.length_map]

/-- A tick in which every shot stays and creates nothing. -/
lemma tick_of_kept (h : ∀ v ∈ e.tickVisits world, v.outcome.retired = false ∧ v.born = []) :
    (e.tick world).2.registry.live = (e.tickVisits world).map (·.outcome.shot) ∧
      (e.tick world).2.registry.queue.pending.toList = [] := by
  constructor
  · rw [live_tick, List.filter_eq_self.mpr fun v hv => by simp [(h v hv).1]]
  · rw [queue_tick, List.flatMap_eq_nil_iff]
    exact fun v hv => (h v hv).2

/-- A tick in which every shot goes. -/
lemma tick_of_retired (h : ∀ v ∈ e.tickVisits world, v.outcome.retired = true) :
    (e.tick world).2.registry.live = [] := by
  rw [live_tick, List.map_eq_nil_iff, List.filter_eq_nil_iff]
  exact fun v hv => by simp [h v hv]

end Engine

lemma Growing.visits (h : Growing p f k r count e) (hk : k ≤ f.depth.toNat)
    (hr : r ≤ f.splitAfter.toNat) (hfind : e.catalog.find? f.template = some t)
    (hvisual : t.visual.isSome = true) (hcull : e.config.isCulled p = false) (world : World K) :
    (e.tick world).2.bodies.Still p ∧ ∀ v ∈ e.tickVisits world, Grows p f k r v := by
  exact h.still.tick world fun v hv hact hs =>
    Grows.of_visit hact hs (h.sprouts v.met hv) hk hr hfind hvisual hcull

section Tick

variable (ho : e.registry.InOrder) (hfind : e.catalog.find? f.template = some t)
  (hvisual : t.visual.isSome = true) (hcull : e.config.isCulled p = false)

include ho hfind hvisual hcull

/-- The shots fly on as long as it is not time to split. -/
lemma Growing.flies (h : Growing p f k r count e) (hpos : 0 < k) (hk : k ≤ f.depth.toNat)
    (hr : r < f.splitAfter.toNat) (world : World K) :
    Growing p f k (r + 1) count (e.tick world).2 := by
  obtain ⟨hstill, hgrows⟩ := h.visits hk (Nat.le_of_lt hr) hfind hvisual hcull world
  have hkept : ∀ v ∈ e.tickVisits world,
      v.outcome.retired = false ∧ v.born = [] ∧ v.outcome.shot = v.met := by
    intro v hv
    cases hgrows v hv with
    | settles hk _ _ _ => omega
    | flies _ _ hkept hborn hshot => exact ⟨hkept, hborn, hshot⟩
    | splits _ hle _ _ _ => omega
  obtain ⟨hlive, hqueue⟩ := Engine.tick_of_kept fun v hv => ⟨(hkept v hv).1, (hkept v hv).2.1⟩
  have hmet : (e.tick world).2.registry.live = e.registry.advance.live := by
    rw [hlive, ← Engine.met_tickVisits e world]
    exact List.map_congr_left fun v hv => (hkept v hv).2.2
  have hadvance : (e.tick world).2.registry.advance.live =
      e.registry.advance.live.map Shot.aged := by
    rw [Registry.live_advance (Engine.inOrder_tick ho world), hqueue, hmet, List.append_nil]
  refine ⟨hstill, by rw [hadvance, List.length_map, h.count], fun x hx => ?_⟩
  rw [hadvance] at hx
  obtain ⟨y, hy, rfl⟩ := List.mem_map.mp hx
  obtain ⟨horigin, hbody, hstep, hframe⟩ := h.sprouts y hy
  exact ⟨horigin, hbody, hstep, by rw [Shot.aged, hframe, UInt32.ofNat_add]; rfl⟩

/-- Then all split in the same tick. -/
lemma Growing.splits (h : Growing p f k f.splitAfter.toNat count e) (hpos : 0 < k)
    (hk : k ≤ f.depth.toNat) (world : World K) :
    Growing p f (k - 1) 0 (count * f.branches.toNat) (e.tick world).2 := by
  obtain ⟨hstill, hgrows⟩ := h.visits hk (Nat.le_refl _) hfind hvisual hcull world
  have hsplit : ∀ v ∈ e.tickVisits world, v.outcome.retired = true ∧
      v.born.length = f.branches.toNat ∧ ∀ x ∈ v.born, Sprout p f (k - 1) 0 x := by
    intro v hv
    cases hgrows v hv with
    | settles hk _ _ _ => omega
    | flies _ hlt _ _ _ => omega
    | splits _ _ hretired hcount hborn => exact ⟨hretired, hcount, hborn⟩
  have hadvance : (e.tick world).2.registry.advance.live =
      (e.tickVisits world).flatMap Visit.born := by
    rw [Registry.live_advance (Engine.inOrder_tick ho world), Engine.queue_tick,
      Engine.tick_of_retired fun v hv => (hsplit v hv).1]
    rfl
  refine ⟨hstill, ?_, fun x hx => ?_⟩
  · rw [hadvance, List.length_flatMap, List.map_congr_left fun v hv => (hsplit v hv).2.1,
      List.map_const', List.sum_replicate_nat, Engine.length_tickVisits, h.count]
  · rw [hadvance] at hx
    obtain ⟨v, hv, hx⟩ := List.mem_flatMap.mp hx
    exact (hsplit v hv).2.2 x hx

omit ho in
/-- The last generation loses its step in its first tick. -/
lemma Growing.settles (h : Growing p f 0 0 count e) (world : World K) :
    Grown p count (e.tick world).2 := by
  obtain ⟨hstill, hgrows⟩ := h.visits (Nat.zero_le _) (Nat.zero_le _) hfind hvisual hcull world
  have hkept : ∀ v ∈ e.tickVisits world,
      v.outcome.retired = false ∧ v.born = [] ∧ Leaf p v.outcome.shot := by
    intro v hv
    cases hgrows v hv with
    | settles _ hkept hborn hleaf => exact ⟨hkept, hborn, hleaf⟩
    | flies hpos _ _ _ _ => omega
    | splits hpos _ _ _ _ => omega
  obtain ⟨hlive, hqueue⟩ := Engine.tick_of_kept fun v hv => ⟨(hkept v hv).1, (hkept v hv).2.1⟩
  refine ⟨hstill, hqueue, by rw [hlive, List.length_map, Engine.length_tickVisits, h.count], ?_⟩
  intro x hx
  rw [hlive] at hx
  obtain ⟨v, hv, rfl⟩ := List.mem_map.mp hx
  exact (hkept v hv).2.2

omit hfind hvisual in
/-- After that a tick changes nothing but the frames. -/
lemma Grown.tick (h : Grown p count e) (world : World K) :
    Grown p count (e.tick world).2 ∧ (e.tick world).2.shots = e.shots.map Shot.aged ∧
      ∀ v ∈ e.tickVisits world, v.born = [] := by
  have hadvance : e.registry.advance.live = e.registry.live.map Shot.aged := by
    rw [Registry.live_advance ho, h.queue, List.append_nil]
  have hleaf : ∀ x ∈ e.registry.advance.live, Leaf p x := by
    intro x hx
    rw [hadvance] at hx
    obtain ⟨y, hy, rfl⟩ := List.mem_map.mp hx
    obtain ⟨horigin, hbody, hstep⟩ := h.leaves y hy
    exact ⟨horigin, hbody, hstep⟩
  obtain ⟨hstill, hkept⟩ := h.still.tick world
    (R := fun v => v.outcome.retired = false ∧ v.born = [] ∧ v.outcome.shot = v.met)
    fun v hv hact hs => by
      have hidle := Engine.idle_of_none hact (hleaf v.met hv).step
      have hborn : v.born = [] := by
        rw [Visit.born, hidle.scene, ← Array.length_toList, List.drop_length]
      have houtcome := Engine.judged hact
      rw [hidle.answer, hidle.shot, hidle.scene] at houtcome
      refine ⟨hidle.scene ▸ hs, ?_, hborn, hidle.shot⟩
      rw [houtcome, hs.retired hcull (hleaf v.met hv).body]
      rfl
  obtain ⟨hlive, hqueue⟩ := Engine.tick_of_kept fun v hv => ⟨(hkept v hv).1, (hkept v hv).2.1⟩
  have hlive' : (e.tick world).2.registry.live = e.registry.live.map Shot.aged := by
    rw [hlive, List.map_congr_left fun v hv => (hkept v hv).2.2, ← hadvance]
    exact Engine.met_tickVisits e world
  refine ⟨⟨hstill, hqueue, ?_, ?_⟩, ?_, fun v hv => (hkept v hv).2.1⟩
  · rw [hlive', List.length_map, h.count]
  · rw [hlive', ← hadvance]
    exact hleaf
  · rw [Engine.shots, Registry.shots, hlive', hqueue, Engine.shots, Registry.shots, h.queue,
      List.append_nil, List.append_nil]

end Tick

/-! ### All ticks -/

/-- How far a fractal has grown in `n` ticks. -/
inductive Phase (p : Vec K) (f : Fractal K) (n : Nat) (e : Engine K) : Prop where
  /-- `q` generations have split, and the next one has flown for `r` ticks. -/
  | growing {q r : Nat} (hn : n = q * (f.splitAfter.toNat + 1) + r)
      (hr : r ≤ f.splitAfter.toNat) (hq : q < f.depth.toNat ∨ q = f.depth.toNat ∧ r = 0)
      (h : Growing p f (f.depth.toNat - q) r (f.branches.toNat ^ q) e)
  | grown (hn : f.depth.toNat * (f.splitAfter.toNat + 1) < n)
      (h : Grown p (f.branches.toNat ^ f.depth.toNat) e)

lemma Phase.tick {n : Nat} (h : Phase p f n e) (ho : e.registry.InOrder)
    (hfind : e.catalog.find? f.template = some t) (hvisual : t.visual.isSome = true)
    (hcull : e.config.isCulled p = false) (world : World K) :
    Phase p f (n + 1) (e.tick world).2 := by
  cases h with
  | @growing q r hn hr hq h =>
    rcases hq with hq | ⟨rfl, rfl⟩
    · have hpos : 0 < f.depth.toNat - q := by omega
      rcases Nat.lt_or_eq_of_le hr with hlt | rfl
      · exact .growing (by omega) hlt (.inl hq)
          (h.flies ho hfind hvisual hcull hpos (Nat.sub_le _ _) hlt world)
      · have hnext := h.splits ho hfind hvisual hcull hpos (Nat.sub_le _ _) world
        rw [← Nat.pow_succ, Nat.sub_sub] at hnext
        refine .growing (q := q + 1) (r := 0) ?_ (Nat.zero_le _) (by omega) hnext
        rw [hn, Nat.succ_mul]
        rfl
    · rw [Nat.sub_self] at h
      exact .grown (by omega) (h.settles hfind hvisual hcull world)
  | grown hn h => exact .grown (by omega) (h.tick ho hcull world).1

/-- What a fractal of which the first shot was created at `p` has become after `n` ticks. -/
structure Population (f : Fractal K) (p : Vec K) (n : Nat) (e : Engine K) : Prop where
  size : e.size = f.branches.toNat ^ min (n / (f.splitAfter.toNat + 1)) f.depth.toNat
  /-- Nobody has left the place of the first shot. -/
  placed : ∀ x ∈ e.shots, x.origin = p ∧
    ∃ g, x.body = some g ∧ (e.bodies.Fits → e.bodies.position? g = some p)
  /-- A shot that splits has a depth to pass on, and the next generation has one less. -/
  nested : ∀ world, ∀ v ∈ e.tickVisits world, ∀ x ∈ v.born, ∃ s s',
    v.met.step = some (.fractal s) ∧ x.step = some (.fractal s') ∧
      s'.depth.toNat + 1 = s.depth.toNat
  /-- In the end nobody has a step, nobody is created and nobody is removed. -/
  settled : f.depth.toNat * (f.splitAfter.toNat + 1) + 1 ≤ n →
    (∀ x ∈ e.shots, x.step = none) ∧ ∀ world, (e.tick world).2.shots = e.shots.map Shot.aged

lemma Growing.nested (h : Growing p f k r count e) (hk : k ≤ f.depth.toNat)
    (hr : r ≤ f.splitAfter.toNat) (hfind : e.catalog.find? f.template = some t)
    (hvisual : t.visual.isSome = true) (hcull : e.config.isCulled p = false) (world : World K) :
    ∀ v ∈ e.tickVisits world, ∀ x ∈ v.born, ∃ s s', v.met.step = some (.fractal s) ∧
      x.step = some (.fractal s') ∧ s'.depth.toNat + 1 = s.depth.toNat := by
  intro v hv x hx
  have hmet : v.met ∈ e.registry.advance.live := by
    rw [← Engine.met_tickVisits e world]
    exact List.mem_map_of_mem hv
  obtain ⟨heading, hstep⟩ := (h.sprouts v.met hmet).step
  cases (h.visits hk hr hfind hvisual hcull world).2 v hv with
  | settles _ _ hborn _ | flies _ _ _ hborn _ =>
    rw [hborn] at hx
    cases hx
  | splits hpos _ _ _ hborn =>
    obtain ⟨heading', hstep'⟩ := (hborn x hx).step
    have hlt : k < UInt32.size := Nat.lt_of_le_of_lt hk f.depth.toNat_lt
    have hk' : (UInt32.ofNat k).toNat = k := UInt32.toNat_ofNat_of_lt hlt
    have hk'' : (UInt32.ofNat (k - 1)).toNat = k - 1 :=
      UInt32.toNat_ofNat_of_lt (Nat.lt_of_le_of_lt (Nat.sub_le k 1) hlt)
    refine ⟨_, _, hstep, hstep', ?_⟩
    dsimp only
    omega

namespace Engine

lemma frame_born (e : Engine K) (world : World K) :
    ∀ x ∈ (e.tick world).2.registry.queue.pending.toList, x.frame = 0 := by
  intro x hx
  rw [queue_tick] at hx
  obtain ⟨v, hv, hx⟩ := List.mem_flatMap.mp hx
  exact ((lawful_act (act_tickVisits hv)).fresh x hx).1

/-- Shots wait at frame zero. -/
lemma Reached.frame_queued {A : Step K → Prop} (h : Reached c config A e) :
    ∀ x ∈ e.registry.queue.pending.toList, x.frame = 0 := by
  refine h.induct (P := fun e => ∀ x ∈ e.registry.queue.pending.toList, x.frame = 0)
    (by simp [Engine.new, Registry.empty]) fun e e' _ hc ih => ?_
  cases hc with
  | create side bs _ =>
    intro x hx
    rw [queue_create] at hx
    rcases List.mem_append.mp hx with hx | hx
    · exact ih x hx
    · exact (Stage.of_mem_newborns hx).1
  | tick world => exact frame_born e world
  | advance world => exact frame_born { e with bodies := e.bodies.integrate } world
  | remove q =>
    intro x hx
    simp only [removeWhere, Registry.removeWhere, Array.toList_filter] at hx
    exact ih x (List.mem_filter.mp hx).1
  | move body m => exact ih

omit [Scalar K] in
lemma length_advance (ho : e.registry.InOrder) : e.registry.advance.live.length = e.size := by
  simp [Registry.live_advance ho, size, Registry.size]

end Engine

/-- A shot that was created where all bodies are has its own there. -/
lemma Bodies.Still.placed (h : e.bodies.Still p) (he : Engine.Settled e) {x : Shot K}
    (hx : x ∈ e.shots) (horigin : x.origin = p) (hbody : x.body.isSome = true) :
    x.origin = p ∧ ∃ g, x.body = some g ∧ (e.bodies.Fits → e.bodies.position? g = some p) := by
  obtain ⟨g, hg⟩ := Option.isSome_iff_exists.mp hbody
  refine ⟨horigin, g, hg, fun fits => ?_⟩
  obtain ⟨body, hfind, -⟩ := (he.balanced.oneToOne_of_fits he.inOrder fits).resolves x hx g hg
  rw [Bodies.position?, hfind, Option.map_some, h.allAt g body hfind]

lemma Growing.peopled {q : Nat} (h : Growing p f (f.depth.toNat - q) r (f.branches.toNat ^ q) e)
    (he : Engine.Settled e) (hr : r ≤ f.splitAfter.toNat)
    (hq : q < f.depth.toNat ∨ q = f.depth.toNat ∧ r = 0)
    (hfind : e.catalog.find? f.template = some t) (hvisual : t.visual.isSome = true)
    (hcull : e.config.isCulled p = false) :
    Population f p (q * (f.splitAfter.toNat + 1) + r) e := by
  have hdiv : (q * (f.splitAfter.toNat + 1) + r) / (f.splitAfter.toNat + 1) = q := by
    rw [Nat.mul_comm, Nat.mul_add_div (Nat.succ_pos _), Nat.div_eq_of_lt (by omega), Nat.add_zero]
  constructor
  case size => rw [← Engine.length_advance he.inOrder, h.count, hdiv, Nat.min_eq_left (by omega)]
  case placed =>
    intro x hx
    obtain ⟨y, hy, hsame⟩ := Engine.exists_met he.inOrder hx
    obtain ⟨horigin, hbody, -, -⟩ := h.sprouts y hy
    rw [hsame] at horigin hbody
    exact h.still.placed he hx horigin hbody
  case nested => exact h.nested (Nat.sub_le _ _) hr hfind hvisual hcull
  case settled =>
    -- the last generation is not there before its time
    intro hn
    have hle : q * (f.splitAfter.toNat + 1) + r ≤ f.depth.toNat * (f.splitAfter.toNat + 1) := by
      rcases hq with hq | ⟨rfl, rfl⟩
      · have := Nat.mul_le_mul_right (f.splitAfter.toNat + 1) hq
        rw [Nat.succ_mul] at this
        omega
      · exact Nat.le_refl _
    omega

lemma Grown.peopled {n : Nat} (h : Grown p (f.branches.toNat ^ f.depth.toNat) e)
    (he : Engine.Settled e) (hn : f.depth.toNat * (f.splitAfter.toNat + 1) < n)
    (hcull : e.config.isCulled p = false) : Population f p n e := by
  have hshots : e.shots = e.registry.live := by
    rw [Engine.shots, Registry.shots, h.queue, List.append_nil]
  have hdiv : f.depth.toNat ≤ n / (f.splitAfter.toNat + 1) :=
    (Nat.le_div_iff_mul_le (Nat.succ_pos _)).mpr (Nat.le_of_lt hn)
  constructor
  case size =>
    rw [Nat.min_eq_right hdiv, ← h.count, ← hshots]
    exact (Registry.length_shots e.registry).symm
  case placed =>
    intro x hx
    obtain ⟨horigin, hbody, -⟩ := h.leaves x (hshots ▸ hx)
    exact h.still.placed he hx horigin hbody
  case nested =>
    intro world v hv x hx
    rw [(h.tick he.inOrder hcull world).2.2 v hv] at hx
    cases hx
  case settled =>
    refine fun _ => ⟨fun x hx => (h.leaves x (hshots ▸ hx)).step, fun world => ?_⟩
    exact (h.tick he.inOrder hcull world).2.1

namespace Engine

variable {A : Step K → Prop}

lemma Reached.phase (h : Reached c config A e) (hphase : Phase p f 0 e)
    (hfind : c.find? f.template = some t) (hvisual : t.visual.isSome = true)
    (hcull : config.isCulled p = false) (worlds : List (World K)) :
    Phase p f worlds.length (e.run (worlds.map .tick)) := by
  induction worlds using List.reverseRecOn with
  | nil => exact hphase
  | append_singleton worlds world ih =>
    have hrun := h.run (worlds.map .tick)
    obtain ⟨hcatalog, hconfig⟩ := hrun.setting
    rw [List.map_append, Engine.run, List.foldl_append, List.length_append]
    exact ih.tick hrun.inOrder (hcatalog ▸ hfind) hvisual (hconfig ▸ hcull) world

/-- **The generations of a fractal.** Where one fractal waits as the only shot, `n` ticks later
there are as many shots as the generations that have split by then have left, and all of them are
where the first one was. -/
theorem Reached.population (h : Reached c config A e)
    (hlive : e.registry.live = []) {x : Shot K}
    (hqueue : e.registry.queue.pending.toList = [x]) (hstep : x.step = some (.fractal f))
    {g : BodyId} (hbody : x.body = some g) (hplace : e.bodies.position? g = some x.origin)
    (fits : e.bodies.Fits) (hfind : c.find? f.template = some t)
    (hvisual : t.visual.isSome = true) (hcull : config.isCulled x.origin = false)
    (worlds : List (World K)) :
    Population f x.origin worlds.length (e.run (worlds.map .tick)) := by
  have hadvance : e.registry.advance.live = [x] := by
    rw [Registry.live_advance h.inOrder, hlive, hqueue]
    rfl
  have hstill : e.bodies.Still x.origin := by
    refine ⟨h.balanced.sound, fun g' body hfind => ?_⟩
    have hsays := ((h.balanced.accounts fits).agree (g', body.desc.shot, body.desc.list)).mpr
      ⟨body, hfind, rfl, rfl⟩
    obtain ⟨y, hy, hg', -⟩ := mem_holdings.mp hsays
    rw [Engine.shots, Registry.shots, hlive, hqueue, List.nil_append, List.mem_singleton] at hy
    subst hy
    cases hbody.symm.trans hg'
    rw [Bodies.position?, hfind] at hplace
    exact Option.some.inj hplace
  have hsprout : Sprout x.origin f f.depth.toNat 0 x := by
    refine ⟨rfl, by rw [hbody]; rfl, ⟨f.heading, ?_⟩, h.frame_queued x (by simp [hqueue])⟩
    rw [hstep, UInt32.ofNat_toNat]
  have hstart : Phase x.origin f 0 e := by
    refine .growing (q := 0) (r := 0) (by simp) (Nat.zero_le _) (by omega) ⟨hstill, ?_, ?_⟩
    · rw [hadvance]
      rfl
    · rw [hadvance]
      simpa using hsprout
  have hrun := h.run (worlds.map .tick)
  obtain ⟨hcatalog, hconfig⟩ := hrun.setting
  have he : Settled (e.run (worlds.map .tick)) := ⟨hrun.inOrder, hrun.balanced⟩
  cases h.phase hstart hfind hvisual hcull worlds with
  | growing hn hr hq hgrowing =>
    rw [hn]
    exact hgrowing.peopled he hr hq (hcatalog ▸ hfind) hvisual (hconfig ▸ hcull)
  | grown hn hgrown => exact hgrown.peopled he hn (hconfig ▸ hcull)

/-- A fractal of depth two that splits in three on every fifth tick, after seven ticks. -/
theorem population_dots :
    let dot : Template Float32 := ⟨"dot", some ⟨7, 1, 2⟩, none, none, Vec.zero, []⟩
    let f : Fractal Float32 := ⟨"dot", 2, 3, 90, 15, 1, 4⟩
    let calls : List (Op Float32) :=
      [.spawnDynamic ⟨.none, .enemyShot⟩ ⟨160, 120⟩ "dot" (.fractal f)]
    let e := calls.foldl apply (.new ⟨#[dot]⟩ Config.default)
    let worlds : List (World Float32) := List.replicate 7 .empty
    Population f ⟨160, 120⟩ 7 (e.run (worlds.map .tick)) ∧
      (e.run (worlds.map .tick)).size = 3 := by
  intro dot f calls e worlds
  have hreached : Reached ⟨#[dot]⟩ Config.default (fun _ => True) e :=
    Reached.new.calls fun _ _ _ _ => trivial
  let x : Shot Float32 :=
    ⟨⟨1⟩, 0, .none, ⟨160, 120⟩, some (.fractal f), .enemyShot, some ⟨0, 0⟩, 1⟩
  obtain ⟨t, hfind⟩ := Option.isSome_iff_exists.mp
    (show ((⟨#[dot]⟩ : Catalog Float32).find? "dot").isSome = true by decide +kernel)
  obtain rfl : t = dot := by simpa using Catalog.find?_mem hfind
  have hqueue : e.registry.queue.pending.toList = [x] := by with_unfolding_all rfl
  have hplace : e.bodies.position? ⟨0, 0⟩ = some x.origin := by with_unfolding_all rfl
  have hlive : e.registry.live = [] := by with_unfolding_all rfl
  have hpopulation := hreached.population (g := ⟨0, 0⟩) hlive hqueue rfl rfl hplace
    (hreached.fits (by decide +kernel)) hfind rfl (by decide +kernel) worlds
  exact ⟨hpopulation, hpopulation.size.trans (by decide +kernel)⟩

end Engine

end Barrage
