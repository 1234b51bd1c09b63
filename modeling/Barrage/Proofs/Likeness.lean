import Barrage.Proofs.Beats
import Barrage.Proofs.Births
import Barrage.Proofs.Correspondence

/-!
A shot on its own.

The *likeness* of a shot is all there is to it and to the flight of its body, without the number of
the one and the handle of the other. What comes of a shot in a tick is a matter of its likeness and
of the random numbers when its turn comes: neither the other shots nor their bodies have a say in
it, and nobody else's turn changes what has come of it.
-/

namespace Barrage

open Scalar (nat)
open Engine (Scene Visit act leftBound moveAll visits release)

/-- How a body flies: all of it but what it was created from. -/
structure Flight (K : Type) where
  position : Vec K
  velocity : Vec K
  rotation : K

structure Likeness (K : Type) where
  frame : UInt32
  owner : Owner
  origin : Vec K
  step : Option (Step K)
  list : CollisionList
  damage : Int32
  /-- The flight of its body, if it has one. A handle that finds no body has no flight. -/
  body : Option (Option (Flight K))

/-- What comes of a shot in its turn. -/
structure Fate (K : Type) where
  shot : Likeness K
  answer : Option Answer
  culled : Bool
  retired : Bool
  children : List (Likeness K)

variable {K : Type}

def Body.flight (b : Body K) : Flight K := ⟨b.position, b.velocity, b.rotation⟩

def Bodies.flight? (bs : Bodies K) (b : BodyId) : Option (Flight K) := (bs.get? b).map (·.flight)

def Shot.likeness (bs : Bodies K) (s : Shot K) : Likeness K :=
  ⟨s.frame, s.owner, s.origin, s.step, s.list, s.damage, s.body.map bs.flight?⟩

def Engine.likeness (e : Engine K) (s : Shot K) : Likeness K := s.likeness e.bodies

namespace Likeness

/-- One tick older. -/
def aged (l : Likeness K) : Likeness K := { l with frame := l.frame + 1 }

/-- The place of the body. -/
def position? (l : Likeness K) : Option (Vec K) := l.body.join.map (·.position)

end Likeness

lemma Shot.position?_likeness (bs : Bodies K) (s : Shot K) :
    (s.likeness bs).position? = s.body.bind fun b => (bs.get? b).map (·.position) := by
  rcases hb : s.body with _ | b
  · simp [Shot.likeness, Likeness.position?, hb]
  · rcases hg : bs.get? b with _ | body <;>
      simp [Shot.likeness, Likeness.position?, Bodies.flight?, hb, hg, Body.flight]

lemma Shot.likeness_congr {bs bs' : Bodies K} {s : Shot K}
    (h : ∀ b, s.body = some b → bs'.get? b = bs.get? b) : s.likeness bs' = s.likeness bs := by
  rcases hb : s.body with _ | b
  · simp [Shot.likeness, hb]
  · simp [Shot.likeness, Bodies.flight?, hb, h b hb]

/-- The handle of the shot, if it has one, finds a body. -/
def Shot.Whole (bs : Bodies K) (s : Shot K) : Prop :=
  ∀ b, s.body = some b → ∃ body, bs.get? b = some body

variable [Scalar K]

namespace Flight

def apply (f : Flight K) : Motion K → Flight K
  | .moveTo p => { f with position := p }
  | .fly v => { f with velocity := v }
  | .push dv => { f with velocity := f.velocity + dv }
  | .turnTo r => { f with rotation := r }

/-- One tick of flight. -/
def step (f : Flight K) : Flight K := { f with position := f.position + f.velocity }

/-- No flight at all. -/
def rest (p : Vec K) : Flight K := ⟨p, Vec.zero, nat 0⟩

end Flight

lemma Body.flight_apply (b : Body K) (m : Motion K) : (b.apply m).flight = b.flight.apply m := by
  cases m <;> rfl

lemma Body.flight_step (b : Body K) : b.step.flight = b.flight.step := rfl

lemma Body.flight_foldl (b : Body K) (motions : List (Motion K)) :
    (motions.foldl Body.apply b).flight = motions.foldl Flight.apply b.flight := by
  induction motions generalizing b with
  | nil => rfl
  | cons m motions ih => rw [List.foldl_cons, ih, Body.flight_apply, List.foldl_cons]

/-! ### The turn of a likeness -/

namespace Likeness

/-- One tick of flight. -/
def flown (l : Likeness K) : Likeness K := { l with body := l.body.map (·.map Flight.step) }

/-- A shot that has just been created. -/
def ofBirth (side : Side) (b : Birth K) : Likeness K where
  frame := 0
  owner := side.owner
  origin := b.place
  step := b.step
  list := side.list
  damage := (b.visual.map (·.damage)).getD 0
  body := b.visual.map fun _ => some (.rest b.place)

def view (config : Config K) (world : World K) (l : Likeness K) : View K where
  frame := l.frame
  owner := l.owner
  position := l.position?.getD l.origin
  hasBody := l.body.isSome
  world := world
  config := config

def judge (config : Config K) (l : Likeness K) (answer : Option Answer)
    (children : List (Likeness K)) : Fate K :=
  let finished := answer.any Answer.isLast
  let outside := l.position?.any config.isCulled
  { shot := l
    answer
    culled := outside && !finished
    retired := finished || outside || (l.body.isNone && l.step.isNone)
    children }

/-- The turn of a shot, by its likeness alone. -/
def act (c : Catalog K) (config : Config K) (world : World K) (l : Likeness K) (r : Random) :
    Fate K × Random :=
  match l.step with
  | none => (l.judge config none [], r)
  | some step =>
    let (turn, r) := step.run (l.view config world) r
    let (births, failure) := Order.birthsAll c turn.orders
    let answer : Answer := match failure with
      | some e => .error e
      | none => .ok turn.signal
    let l' : Likeness K := { l with
      step := leftBound turn.step answer
      body := l.body.map fun f => f.map (turn.motions.foldl Flight.apply) }
    (l'.judge config (some answer) (births.map (ofBirth ⟨l.owner, l.list⟩)), r)

end Likeness

/-! ### What is done to bodies -/

lemma Shot.likeness_integrate (bs : Bodies K) (s : Shot K) :
    s.likeness bs.integrate = (s.likeness bs).flown := by
  rcases hb : s.body with _ | b
  · simp [Shot.likeness, Likeness.flown, hb]
  · simp [Shot.likeness, Likeness.flown, Bodies.flight?, Bodies.integrate, Arena.get?_map, hb,
      Function.comp_def, Body.flight_step]

/-- A new shot looks like its birth. -/
lemma Birth.Becomes.likeness {before after : Bodies K} {side : Side} {b : Birth K} {n : Nat}
    {s : Shot K} (h : b.Becomes before after side n s) (fits : after.Fits) :
    s.likeness after = .ofBirth side b := by
  have hbody : s.body.map after.flight? = b.visual.map fun _ => some (.rest b.place) := by
    rcases hv : b.visual with _ | v
    · rw [h.bodiless hv]
      rfl
    · obtain ⟨g, hg, hfind⟩ := h.embodied v hv
      rw [hg, Option.map_some, Bodies.flight?, (hfind fits).2]
      rfl
  rw [Shot.likeness, hbody, h.shot]
  rfl

namespace Stage

variable {st : Stage K} {side : Side} {bs : List (Birth K)}

lemma likeness_newborn (h : st.bodies.Sound) {b : Birth K}
    (fits : (st.add side b).bodies.Fits) :
    (st.newborn side b).likeness (st.add side b).bodies = .ofBirth side b :=
  (becomes_newborn h side b).likeness fits

/-- What has come of a birth, later births leave alone. -/
lemma likeness_newborns (h : st.bodies.Sound) (fits : (st.addAll side bs).bodies.Fits) :
    (st.newborns side bs).map (·.likeness (st.addAll side bs).bodies) =
      bs.map (.ofBirth side) := by
  have hall : List.Forall₂ (· = ·)
      ((bs.zipIdx (st.queue.issued + 1)).map (Likeness.ofBirth side ∘ Prod.fst))
      ((st.newborns side bs).map (·.likeness (st.addAll side bs).bodies)) := by
    rw [List.forall₂_map_left_iff, List.forall₂_map_right_iff]
    exact (becomes_newborns h side bs).imp fun b s hb => (hb.likeness fits).symm
  rw [List.forall₂_eq_eq_eq] at hall
  rw [← hall, ← List.map_map, List.zipIdx_map_fst]

end Stage

namespace Engine

variable {c : Catalog K} {config : Config K} {world : World K} {v : Visit K}

/-! ### One visit -/

/-- What comes of the shot that is visited, as the bodies `bs` show it. -/
def Visit.fate (bs : Bodies K) (v : Visit K) : Fate K where
  shot := v.outcome.shot.likeness bs
  answer := v.outcome.answer
  culled := v.outcome.culled
  retired := v.outcome.retired
  children := v.born.map (·.likeness bs)

/-- A shot is judged by its likeness. -/
lemma judge_likeness (bs : Bodies K) (s : Shot K) (answer : Option Answer)
    (children : List (Likeness K)) : (s.likeness bs).judge config answer children =
      ⟨s.likeness bs, answer, (judge config bs s answer).culled,
        (judge config bs s answer).retired, children⟩ := by
  have hbody : (s.likeness bs).body.isNone = s.body.isNone := by simp [Shot.likeness]
  simp only [Likeness.judge, Shot.position?_likeness, hbody]
  rfl

omit [Scalar K] in
lemma view_likeness (bs : Bodies K) (s : Shot K) :
    (s.likeness bs).view config world = Engine.view config world bs s := by
  have hbody : (s.likeness bs).body.isSome = s.body.isSome := by simp [Shot.likeness]
  simp only [Likeness.view, Shot.position?_likeness, hbody]
  rfl

lemma born_of_stage {bodies : Bodies K} {side : Side} {bs : List (Birth K)}
    (h : v.after.stage = Stage.addAll ⟨v.before.stage.queue, bodies⟩ side bs) :
    v.born = Stage.newborns ⟨v.before.stage.queue, bodies⟩ side bs := by
  rw [Visit.born, h, Stage.pending_addAll, ← Array.length_toList, List.drop_left]

/-- The shot of a visit looks as the turn of its likeness leaves it. -/
lemma likeness_moved {bs : Bodies K} (hs : bs.Sound) {s : Shot K} (hw : s.Whole bs)
    (queue : Queue K) (motions : List (Motion K)) (side : Side) (births : List (Birth K))
    (step : Option (Step K)) :
    ({ s with step } : Shot K).likeness
        (Stage.addAll ⟨queue, moveAll bs s.body motions⟩ side births).bodies =
      { s.likeness bs with
        step
        body := (s.likeness bs).body.map fun f => f.map (motions.foldl Flight.apply) } := by
  rcases hb : s.body with _ | b
  · simp [Shot.likeness, hb]
  · obtain ⟨body, hbody⟩ := hw b hb
    have hmoved : (moveAll bs (some b) motions).get? b = some (motions.foldl Body.apply body) := by
      rw [Bodies.get?_moveAll, if_pos rfl, hbody]
      rfl
    have hkept : (Stage.addAll ⟨queue, moveAll bs (some b) motions⟩ side births).bodies.get? b =
        some (motions.foldl Body.apply body) :=
      Stage.get?_addAll (Bodies.sound_moveAll hs (some b) motions) hmoved
    simp [Shot.likeness, hb, Bodies.flight?, hkept, hbody, Body.flight_foldl]

/-- All that happens in the visit of a shot with a step. -/
lemma turned (h : act c config world v.before v.met = (v.outcome, v.after)) {step : Step K}
    (hstep : v.met.step = some step) : ∃ t r b failure answer,
      step.run (Engine.view config world v.before.stage.bodies v.met) v.before.random = (t, r) ∧
      Order.birthsAll c t.orders = (b, failure) ∧
      answer = (match failure with | some e => .error e | none => .ok t.signal) ∧
      v.after.stage = Stage.addAll
        ⟨v.before.stage.queue, moveAll v.before.stage.bodies v.met.body t.motions⟩
        ⟨v.met.owner, v.met.list⟩ b ∧
      v.after.random = r ∧
      v.outcome = Engine.judge config v.after.stage.bodies
        { v.met with step := leftBound t.step answer } (some answer) := by
  rw [act_of_some hstep, runStep_eq, Prod.mk.injEq] at h
  obtain ⟨houtcome, hafter⟩ := h
  refine ⟨_, _, _, _, _, rfl, rfl, rfl, congrArg Scene.stage hafter.symm,
    congrArg Scene.random hafter.symm, ?_⟩
  rw [← houtcome, ← hafter]
  rfl

/-- **What comes of a visit is a matter of the likeness of the shot.** -/
theorem act_likeness (h : act c config world v.before v.met = (v.outcome, v.after))
    (hs : v.before.stage.bodies.Sound) (fits : v.after.stage.bodies.Fits)
    (hw : v.met.Whole v.before.stage.bodies) :
    (v.met.likeness v.before.stage.bodies).act c config world v.before.random =
      (v.fate v.after.stage.bodies, v.after.random) := by
  rcases hstep : v.met.step with _ | step
  · obtain ⟨hanswer, hshot, hscene⟩ := idle_of_none h hstep
    have hborn : v.born = [] := by
      rw [Visit.born, hscene, ← Array.length_toList, List.drop_length]
    have houtcome := judged h
    rw [hanswer, hshot, hscene] at houtcome
    have hlikeness : (v.met.likeness v.before.stage.bodies).step = none := hstep
    rw [Likeness.act, hlikeness]
    simp only [judge_likeness, Visit.fate, hborn, hscene, hanswer, hshot, List.map_nil]
    rw [houtcome]
  · obtain ⟨t, r, b, failure, answer, hrun, hbirths, hanswer, hstage, hrandom, houtcome⟩ :=
      turned h hstep
    rw [hstage] at fits
    have hborn := Stage.likeness_newborns (Bodies.sound_moveAll hs v.met.body t.motions) fits
    have hmoved := likeness_moved hs hw v.before.stage.queue t.motions
      ⟨v.met.owner, v.met.list⟩ b (leftBound t.step answer)
    rw [← born_of_stage hstage, ← hstage] at hborn
    rw [← hstage] at hmoved
    have hlikeness : (v.met.likeness v.before.stage.bodies).step = some step := hstep
    rw [Likeness.act, hlikeness]
    simp only [view_likeness, hrun, hbirths, ← hanswer]
    rw [← hmoved, judge_likeness, hrandom, Visit.fate, hborn, houtcome]
    rfl

/-- What a visit does to the stage. -/
lemma stage_visit (h : act c config world v.before v.met = (v.outcome, v.after)) :
    ∃ motions bs, v.after.stage = Stage.addAll
      ⟨v.before.stage.queue, moveAll v.before.stage.bodies v.met.body motions⟩
      ⟨v.met.owner, v.met.list⟩ bs := by
  have := stage_act c config world v.before v.met
  rwa [h] at this

lemma sound_act (h : act c config world v.before v.met = (v.outcome, v.after))
    (hs : v.before.stage.bodies.Sound) : v.after.stage.bodies.Sound := by
  obtain ⟨motions, bs, hstage⟩ := stage_visit h
  rw [hstage]
  exact Stage.sound_addAll (Bodies.sound_moveAll hs _ _)

/-- A visit takes no body away, and it leaves those alone that its shot does not hold. -/
lemma get?_act (h : act c config world v.before v.met = (v.outcome, v.after))
    (hs : v.before.stage.bodies.Sound) {b : BodyId} {body : Body K}
    (hb : v.before.stage.bodies.get? b = some body) :
    ∃ body', v.after.stage.bodies.get? b = some body' ∧ (v.met.body ≠ some b → body' = body) := by
  obtain ⟨motions, bs, hstage⟩ := stage_visit h
  rw [hstage]
  have hmoved := Bodies.get?_moveAll v.before.stage.bodies v.met.body motions b
  rw [hb] at hmoved
  exact ⟨_, Stage.get?_addAll (Bodies.sound_moveAll hs _ _)
    (hmoved.trans (apply_ite some _ _ _).symm), fun hne => if_neg hne⟩

/-- A shot that is created in a visit and has a body has a new one. -/
lemma get?_born (h : act c config world v.before v.met = (v.outcome, v.after))
    (hs : v.before.stage.bodies.Sound) (fits : v.after.stage.bodies.Fits) {s : Shot K}
    (hmem : s ∈ v.born) {b : BodyId} (hb : s.body = some b) :
    v.before.stage.bodies.get? b = none ∧ ∃ body, v.after.stage.bodies.get? b = some body := by
  obtain ⟨motions, bs, hstage⟩ := stage_visit h
  rw [born_of_stage hstage] at hmem
  rw [hstage] at fits ⊢
  obtain ⟨hnone, hsome⟩ :=
    Stage.get?_newborns (Bodies.sound_moveAll hs v.met.body motions) fits hmem hb
  exact ⟨Bodies.get?_moveAll_eq_none.mp hnone, hsome.imp fun _ => And.left⟩

/-! ### One pass -/

/-- Shots with bodies of their own. -/
structure Apart (bs : Bodies K) (ss : List (Shot K)) : Prop where
  whole : ∀ s ∈ ss, s.Whole bs
  distinct : (ss.filterMap (·.body)).Nodup

variable {scene : Scene K} {s : Shot K} {ss : List (Shot K)}

omit [Scalar K] in
lemma Apart.ne {bs : Bodies K} (h : Apart bs (s :: ss)) {b : BodyId} (hb : s.body = some b) :
    ∀ t ∈ ss, t.body ≠ some b := by
  have hd := h.distinct
  rw [List.filterMap_cons_some hb, List.nodup_cons] at hd
  exact fun t ht htb => hd.1 (List.mem_filterMap.mpr ⟨t, ht, htb⟩)

lemma fits_of_actAll (h : (actAll c config world scene ss).2.stage.bodies.Fits) :
    scene.stage.bodies.Fits :=
  actAll_induct (P := fun st => st.bodies.Fits → scene.stage.bodies.Fits)
    (fun _ body motions h fits => h ((Bodies.fits_moveAll _ body motions).mp fits))
    (fun _ _ _ h fits => h (Stage.fits_of_add fits)) scene ss id h

/-- A pass leaves the bodies alone that none of its shots holds. -/
lemma get?_actAll (hs : scene.stage.bodies.Sound) {b : BodyId} {body : Body K}
    (hb : scene.stage.bodies.get? b = some body) (hfree : ∀ s ∈ ss, s.body ≠ some b) :
    (actAll c config world scene ss).2.stage.bodies.get? b = some body := by
  induction ss generalizing scene with
  | nil => exact hb
  | cons s ss ih =>
    rw [actAll_cons]
    let v : Visit K := ⟨s, scene, (act c config world scene s).2, (act c config world scene s).1⟩
    have h : act c config world v.before v.met = (v.outcome, v.after) := rfl
    obtain ⟨body', hbody', hsame⟩ := get?_act h hs hb
    rw [hsame (hfree s (by simp))] at hbody'
    exact ih (sound_act h hs) hbody' fun t ht => hfree t (by simp [ht])

omit [Scalar K] in
/-- Bodies that show the shot and those it has created alike show what came of it alike. -/
lemma fate_congr {bs bs' : Bodies K}
    (h : ∀ s ∈ v.outcome.shot :: v.born, ∀ b, s.body = some b → bs'.get? b = bs.get? b) :
    v.fate bs' = v.fate bs := by
  have hborn : v.born.map (·.likeness bs') = v.born.map (·.likeness bs) :=
    List.map_congr_left fun s hs => Shot.likeness_congr (h s (by simp [hs]))
  rw [Visit.fate, Visit.fate, hborn, Shot.likeness_congr (h v.outcome.shot (by simp))]

/-- **What comes of a shot is a matter of its likeness when the pass begins**, and what came of it
is still to be seen when the pass is over. -/
theorem visits_likeness (hs : scene.stage.bodies.Sound)
    (fits : (actAll c config world scene ss).2.stage.bodies.Fits)
    (ha : Apart scene.stage.bodies ss) : ∀ v ∈ visits c config world scene ss,
      (v.met.likeness scene.stage.bodies).act c config world v.before.random =
        (v.fate (actAll c config world scene ss).2.stage.bodies, v.after.random) := by
  induction ss generalizing scene with
  | nil => simp [visits]
  | cons s ss ih =>
    rw [actAll_cons] at fits ⊢
    let v₀ : Visit K := ⟨s, scene, (act c config world scene s).2, (act c config world scene s).1⟩
    have h : act c config world v₀.before v₀.met = (v₀.outcome, v₀.after) := rfl
    have hs' := sound_act h hs
    have fits' : v₀.after.stage.bodies.Fits := fits_of_actAll fits
    have hkept : ∀ t ∈ ss, ∀ b, t.body = some b → ∃ body, scene.stage.bodies.get? b = some body ∧
        v₀.after.stage.bodies.get? b = some body := by
      intro t ht b hb
      obtain ⟨body, hbody⟩ := ha.whole t (by simp [ht]) b hb
      obtain ⟨body', hbody', hsame⟩ := get?_act h hs hbody
      rw [hsame fun hsb => ha.ne hsb t ht hb] at hbody'
      exact ⟨body, hbody, hbody'⟩
    have hd := ha.distinct.sublist ((List.sublist_cons_self s ss).filterMap _)
    have ha' : Apart v₀.after.stage.bodies ss :=
      ⟨fun t ht b hb => (hkept t ht b hb).imp fun _ => And.right, hd⟩
    rw [visits, List.forall_mem_cons]
    constructor
    · -- nobody who comes later holds a body of this visit
      have hfate : v₀.fate (actAll c config world v₀.after ss).2.stage.bodies =
          v₀.fate v₀.after.stage.bodies := by
        refine fate_congr fun t ht b hb => ?_
        suffices hown : (∃ body, v₀.after.stage.bodies.get? b = some body) ∧
            ∀ u ∈ ss, u.body ≠ some b by
          obtain ⟨⟨body, hbody⟩, hfree⟩ := hown
          rw [hbody, get?_actAll hs' hbody hfree]
        rcases List.mem_cons.mp ht with rfl | hborn
        · have hsb : s.body = some b := by
            rwa [shot_visit h] at hb
          obtain ⟨body, hbody⟩ := ha.whole s (by simp) b hsb
          obtain ⟨body', hbody', -⟩ := get?_act h hs hbody
          exact ⟨⟨body', hbody'⟩, ha.ne hsb⟩
        · obtain ⟨hnone, hsome⟩ := get?_born h hs fits' hborn hb
          refine ⟨hsome, fun u hu hub => ?_⟩
          obtain ⟨body, hbody⟩ := ha.whole u (by simp [hu]) b hub
          rw [hnone] at hbody
          cases hbody
      exact (act_likeness h hs fits' (ha.whole s (by simp))).trans (by rw [hfate])
    · intro v hv
      have hmem : v.met ∈ ss := by
        rw [← met_visits c config world v₀.after ss]
        exact List.mem_map_of_mem hv
      rw [← ih hs' fits ha' v hv]
      congr 1
      refine Shot.likeness_congr fun b hb => ?_
      obtain ⟨body, hbefore, hafter⟩ := hkept v.met hmem b hb
      rw [hbefore, hafter]

/-! ### One tick -/

variable {e : Engine K}

lemma balanced_poised (h : Balanced e) (b : Beat K) : Balanced (e.poised b) := by
  cases b with
  | tick world => exact h
  | advance world =>
    exact ⟨Arena.sound_map h.sound _, h.single.integrate, fun fits =>
      (h.accounts ((Bodies.fits_integrate _).mp fits)).integrate⟩

lemma apart_advance (h : Balanced e) (ho : e.registry.InOrder) (fits : e.bodies.Fits) :
    Apart e.bodies e.registry.advance.live := by
  have hone := h.oneToOne_of_fits ho fits
  rw [Registry.live_advance ho]
  refine ⟨fun s hs b hb => ?_, ?_⟩
  · have : ∃ t ∈ e.shots, t.body = s.body := by
      rcases List.mem_append.mp hs with hs | hs
      · obtain ⟨t, ht, rfl⟩ := List.mem_map.mp hs
        exact ⟨t, List.mem_append_left _ ht, rfl⟩
      · exact ⟨s, List.mem_append_right _ hs, rfl⟩
    obtain ⟨t, ht, htb⟩ := this
    exact (hone.resolves t ht b (htb.trans hb)).imp fun _ => And.left
  · have := hone.unshared
    rw [shots, Registry.shots, List.filterMap_append] at this
    rwa [List.filterMap_append, List.filterMap_map]

/-- **What comes of a shot in a tick is a matter of its likeness before it.** -/
theorem tick_likeness (h : Balanced e) (ho : e.registry.InOrder)
    (fits : (e.tick world).2.bodies.Fits) : ∀ v ∈ e.tickVisits world,
      (e.likeness v.met).act e.catalog e.config world v.before.random =
        (v.fate (e.pass world).2.stage.bodies, v.after.random) := by
  rw [bodies_tick, fits_release] at fits
  have hbodies : e.bodies.Fits := fits_of_actAll fits
  exact visits_likeness h.sound fits (apart_advance h ho hbodies)

omit [Scalar K] in
/-- The release of bodies changes none of those that stay. -/
lemma get?_of_release {bs : Bodies K} {gone : List (Shot K)} {b : BodyId} {body : Body K}
    (h : (release bs gone).get? b = some body) : bs.get? b = some body := by
  refine release_induct (P := fun bs' => bs'.get? b = some body → bs.get? b = some body)
    (fun bs' b' hkeep hb => hkeep ?_) id gone h
  rw [Arena.get?_erase] at hb
  split at hb
  · cases hb
  · exact hb

/-- What came of a shot in a tick is to be seen after it. -/
lemma likeness_tick (h : Balanced e) (ho : e.registry.InOrder)
    (fits : (e.tick world).2.bodies.Fits) {s : Shot K} (hs : s ∈ (e.tick world).2.shots) :
    s.likeness (e.pass world).2.stage.bodies = (e.tick world).2.likeness s := by
  have hone := (h.tick ho world).oneToOne_of_fits (inOrder_tick ho world) fits
  refine Shot.likeness_congr fun b hb => ?_
  obtain ⟨body, hbody, -⟩ := hone.resolves s hs b hb
  rw [hbody]
  rw [bodies_tick] at hbody
  exact get?_of_release hbody

/-! ### Handles enough -/

/-- As many handles as there are numbers are enough for the bodies. -/
lemma Reached.fits {A : Step K → Prop} (h : Reached c config A e)
    (hissued : e.registry.queue.issued ≤ UInt32.size) : e.bodies.Fits :=
  Nat.le_trans h.balanced.single.slots hissued

lemma fits_of_beat {b : Beat K} (h : (e.beat b).bodies.Fits) : e.bodies.Fits := by
  rw [Engine.beat, bodies_tick, fits_release] at h
  have hpoised : (e.poised b).bodies.Fits := fits_of_actAll h
  cases b with
  | tick world => exact hpoised
  | advance world => exact (Bodies.fits_integrate _).mp hpoised

lemma fits_of_run {beats : List (Beat K)} (h : (e.run beats).bodies.Fits) : e.bodies.Fits := by
  induction beats generalizing e with
  | nil => exact h
  | cons b beats ih => exact fits_of_beat (ih h)

end Engine

end Barrage
