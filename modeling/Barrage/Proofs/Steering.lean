import Barrage.Proofs.Memory

/-!
The turn of a shot that steers its own body and creates nothing.

Such a turn is a matter of what the shot sees. It looks from where its body is when the turns of the
tick begin, the body makes the motions of the turn one after the other, and where that has taken it
decides whether the shot stays, unless its step has finished it.
-/

namespace Barrage

open Engine (leftBound)

variable {K : Type} [Scalar K] {step : Step K} {turn : Turn K} {f : Flight K}

/-- The turn of a likeness with a body whose step creates nothing and does not finish it. -/
lemma Likeness.act_of_quiet (c : Catalog K) (config : Config K) (world : World K)
    {l : Likeness K} (hstep : l.step = some step) (hbody : l.body = some (some f)) {r r' : Random}
    (hrun : step.run (l.view config world) r = (turn, r')) (hsignal : turn.signal ≠ .finish)
    (horders : turn.orders = []) :
    l.act c config world r =
      (⟨{ l with
          step := leftBound turn.step (.ok turn.signal)
          body := some (some (turn.motions.foldl Flight.apply f)) },
        some (.ok turn.signal), config.isCulled (turn.motions.foldl Flight.apply f).position,
        config.isCulled (turn.motions.foldl Flight.apply f).position, []⟩, r') := by
  have hbirths : Order.birthsAll c turn.orders = ([], none) := by
    rw [horders]
    rfl
  have hgoes : Answer.isLast (.ok turn.signal) = false := by
    cases hs : turn.signal with
    | keep | detach => rfl
    | finish => exact absurd hs hsignal
  simp only [Likeness.act, hstep, hrun, hbirths, hbody]
  simp [Likeness.judge, Likeness.position?, hgoes]

namespace Engine

variable {e : Engine K} {s : Shot K} {b : Beat K} {v : Visit K} {body : BodyId} {n : ℕ}

/-- In a beat a shot has one turn, with this answer, and nothing ends it there but its place. -/
def Passes (e : Engine K) (b : Beat K) (s : Shot K) (answer : Option Answer) : Prop :=
  ∃ v ∈ e.turns b, v.met.id = s.id ∧ (∀ w ∈ e.turns b, w.met.id = s.id → w = v) ∧
    v.outcome.answer = answer ∧ v.outcome.retired = v.outcome.culled

/-- What has come of the turn of a shot, whose body has made its motions from the flight `f` on. -/
structure Steered (e : Engine K) (b : Beat K) (body : BodyId) (f : Flight K) (turn : Turn K)
    (v : Visit K) : Prop where
  step : v.outcome.shot.step = leftBound turn.step (.ok turn.signal)
  answer : v.outcome.answer = some (.ok turn.signal)
  culled : v.outcome.culled = e.config.isCulled (turn.motions.foldl Flight.apply f).position
  retired : v.outcome.retired = v.outcome.culled
  kept : v.outcome.retired = false → v.outcome.shot ∈ (e.beat b).shots ∧
    (e.beat b).bodies.flight? body = some (turn.motions.foldl Flight.apply f)

lemma Span.fits {C : Engine K → Op K → Prop} {B : ℕ → Engine K → Beat K → Prop} {e' : Engine K}
    (h : Span C B e n e') (he : Settled e) (fits : e'.bodies.Fits) : e.bodies.Fits := by
  induction h with
  | start => exact fits
  | call op h hticks hcall ih => exact ih (fits_of_apply (h.settled he) fits)
  | beat b h hbeat ih => exact ih (fits_of_beat fits)

/-- Before the turns of a tick with a flight of the bodies, every body has flown. -/
lemma flight_advance (h : e.bodies.flight? body = some f) (world : World K) :
    (e.poised (.advance world)).bodies.flight? body = some f.step := by
  obtain ⟨x, hx, rfl⟩ := Option.map_eq_some_iff.mp h
  rw [poised, Bodies.flight?, Bodies.integrate, Arena.get?_map, hx]
  rfl

/-- In its turn a shot with a body finds it as it was when the turns of the tick began. -/
lemma Runs.exists_flight (h : Runs e b s n step v) (he : Settled e)
    (fits : (e.beat b).bodies.Fits) (hbody : s.body = some body) :
    ∃ f, (e.poised b).bodies.flight? body = some f ∧
      ((e.poised b).likeness v.met).body = some (some f) := by
  obtain ⟨ho, hb⟩ := he.poised b
  have hmetBody : v.met.body = some body := by rw [h.met, hbody]
  have hmem : v.met ∈ (e.poised b).registry.advance.live := by
    rw [← met_tickVisits (e.poised b) b.world]
    exact List.mem_map_of_mem h.mem
  have fits' : (e.poised b).bodies.Fits :=
    fits_of_beat (e := e.poised b) (b := .tick b.world) fits
  obtain ⟨x, hx⟩ := (apart_advance hb ho fits').whole v.met hmem body hmetBody
  have hflight : (e.poised b).bodies.flight? body = some x.flight := by
    rw [Bodies.flight?, hx]
    rfl
  refine ⟨x.flight, hflight, ?_⟩
  rw [likeness, Shot.likeness, hmetBody, Option.map_some, hflight]

/-- **The turn of a shot with a body whose step creates nothing** and does not finish it: it looks
from where its body is when the turns of the tick begin, and its body flies as the turn has left it.
-/
theorem Runs.steered (h : Runs e b s n step v) (he : Settled e) (fits : (e.beat b).bodies.Fits)
    (hbody : s.body = some body) (hquiet : ∀ u r, u.hasBody = true →
      (step.run u r).1.signal ≠ .finish ∧ (step.run u r).1.orders = []) :
    ∃ f u r, (e.poised b).bodies.flight? body = some f ∧ s.Sees e.config b.world n u ∧
      u.hasBody = true ∧ u.position = f.position ∧ Steered e b body f (step.run u r).1 v := by
  obtain ⟨ho, hb⟩ := he.poised b
  obtain ⟨f, hflight, hlook⟩ := h.exists_flight he fits hbody
  let u := ((e.poised b).likeness v.met).view (e.poised b).config b.world
  have hsees : s.Sees e.config b.world n u :=
    ⟨congrArg Shot.frame h.met, by rw [← congrArg Shot.owner h.met]; rfl, rfl, config_poised e b,
      fun hnone => by simp [hbody] at hnone⟩
  have hhas : u.hasBody = true := congrArg Option.isSome hlook
  have hposition : u.position = f.position := by
    change (Likeness.position? _).getD _ = _
    rw [Likeness.position?, hlook]
    rfl
  have hstep : ((e.poised b).likeness v.met).step = some step := congrArg Shot.step h.met
  obtain ⟨hsignal, horders⟩ := hquiet u v.before.random hhas
  refine ⟨f, u, v.before.random, hflight, hsees, hhas, hposition, ?_⟩
  obtain ⟨turn, r', hrun⟩ : ∃ turn r', step.run u v.before.random = (turn, r') := ⟨_, _, rfl⟩
  rw [hrun] at hsignal horders ⊢
  have hfate := tick_likeness hb ho fits v h.mem
  rw [Likeness.act_of_quiet _ _ _ hstep hlook hrun hsignal horders, Prod.mk.injEq,
    config_poised] at hfate
  obtain ⟨hfate, -⟩ := hfate
  have hshot := congrArg Fate.shot hfate
  refine ⟨(congrArg Likeness.step hshot).symm, (congrArg Fate.answer hfate).symm,
    (congrArg Fate.culled hfate).symm,
    (congrArg Fate.retired hfate).symm.trans (congrArg Fate.culled hfate), fun hkept => ?_⟩
  have hthere : v.outcome.shot ∈ (e.beat b).shots :=
    List.mem_append_left _ (mem_live_tick.mpr ⟨v, h.mem, hkept, rfl⟩)
  have hleftBody : v.outcome.shot.body = some body := by
    rw [shot_visit (act_tickVisits h.mem), h.met, hbody]
  refine ⟨hthere, flight_of_likeness hleftBody ?_⟩
  have hseen := likeness_tick hb ho fits hthere
  exact congrArg Likeness.body (hseen.symm.trans hshot.symm)

/-- The turn of a shot without a body: it is not culled, and it goes if its step has finished it or
has failed, or is there no more. -/
lemma Runs.unembodied (h : Runs e b s n step v) (hbody : s.body = none) :
    v.outcome.culled = false ∧
      (v.outcome.retired = true ↔ v.Finished ∨ v.outcome.shot.step = none) := by
  have hmet : v.met.body = none := by rw [h.met, hbody]
  have hinside : ¬ v.Outside e.config := by
    rintro ⟨g, p, hg, -⟩
    rw [hmet] at hg
    cases hg
  have hleft : v.outcome.shot.body = none := by rw [shot_visit (act_tickVisits h.mem), hmet]
  constructor
  · rw [Bool.eq_false_iff]
    exact fun hculled => hinside (h.lawful.culled.mp hculled).1
  · rw [h.lawful.retired, or_iff_right hinside, and_iff_left hleft]

end Engine

end Barrage
