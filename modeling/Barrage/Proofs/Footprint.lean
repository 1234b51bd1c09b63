import Barrage.Proofs.Births
import Barrage.Proofs.Pass
import Barrage.Scalar.Single

/-!
The footprint of a step.

Whatever a step does, it does to the body of its own shot and to the end of the queue. The bodies of
others stay where they are and as they are, even though a new body may lie in a slot that was
vacated: a handle to what lay there goes on finding nothing. The shots that were queued stay in
their places, and the new ones stand behind them, numbered on, on the side of the shot that fired
them, each with a body of its own if it has one. It makes no difference whether the step is carried
out to its end or stops at a template that is not there.
-/

namespace Barrage

open Engine (Scene runStep moveAll)

variable {K : Type}

/-- What may become of the stage `before` when `own` is the only body that is moved and the shots
`new` are created on a side. -/
structure Footprint (own : Option BodyId) (side : Side) (before after : Stage K)
    (new : List (Shot K)) : Prop where
  /-- The bodies of others are there as they were. -/
  others : ∀ b body, before.bodies.get? b = some body → own ≠ some b →
    after.bodies.get? b = some body
  /-- The own body is there, and what was asked of it stays. -/
  own : ∀ b body, before.bodies.get? b = some body → own = some b →
    ∃ body', after.bodies.get? b = some body' ∧ body'.desc = body.desc
  /-- A handle that found nothing finds nothing, unless it is that of a new shot. -/
  vacant : ∀ b, before.bodies.get? b = none → (∀ t ∈ new, t.body ≠ some b) →
    after.bodies.get? b = none
  sound : after.bodies.Sound
  queued : after.queue.pending.toList = before.queue.pending.toList ++ new
  issued : after.queue.issued = before.queue.issued + new.length
  /-- The new shots have the next numbers. -/
  numbered : new.map (·.id.raw) = List.range' (before.queue.issued + 1) new.length
  started : ∀ t ∈ new, t.frame = 0 ∧ t.owner = side.owner ∧ t.list = side.list
  /-- The body of a new shot is a new one, made for it. -/
  embodied : after.bodies.Fits → ∀ t ∈ new, ∀ b, t.body = some b →
    before.bodies.get? b = none ∧
      ∃ body, after.bodies.get? b = some body ∧ body.desc.shot = t.id ∧ body.desc.list = t.list
  unshared : after.bodies.Fits → (new.filterMap (·.body)).Nodup
  /-- There are handles enough if there is one for each new shot besides those in use. -/
  room : before.bodies.slots.size + new.length ≤ UInt32.size → after.bodies.Fits

variable [Scalar K]

lemma Bodies.desc_foldl_apply (body : Body K) (motions : List (Motion K)) :
    (motions.foldl Body.apply body).desc = body.desc := by
  induction motions generalizing body with
  | nil => rfl
  | cons m motions ih => rw [List.foldl_cons, ih, desc_apply]

/-- Motions and births stay within the footprint. -/
lemma footprint_addAll {st : Stage K} (hs : st.bodies.Sound) (own : Option BodyId)
    (motions : List (Motion K)) (side : Side) (bs : List (Birth K)) :
    Footprint own side st (Stage.addAll ⟨st.queue, moveAll st.bodies own motions⟩ side bs)
      (Stage.newborns ⟨st.queue, moveAll st.bodies own motions⟩ side bs) := by
  let moved : Stage K := ⟨st.queue, moveAll st.bodies own motions⟩
  have hmoved : moved.bodies.Sound := Bodies.sound_moveAll hs own motions
  have hget (b : BodyId) : moved.bodies.get? b =
      if own = some b then (st.bodies.get? b).map (motions.foldl Body.apply)
      else st.bodies.get? b := Bodies.get?_moveAll st.bodies own motions b
  have hlength : (moved.newborns side bs).length = bs.length := Stage.length_newborns moved side bs
  constructor
  case others =>
    intro b body hb hne
    exact Stage.get?_addAll hmoved (by rw [hget, if_neg hne, hb])
  case own =>
    intro b body hb hown
    refine ⟨motions.foldl Body.apply body, Stage.get?_addAll hmoved ?_, Bodies.desc_foldl_apply ..⟩
    rw [hget, if_pos hown, hb, Option.map_some]
  case vacant =>
    intro b hb hfree
    rcases Stage.get?_addAll_cases hmoved side bs b with hsame | ⟨⟨t, ht, htb⟩, -⟩
    · exact hsame.trans (Bodies.get?_moveAll_eq_none.mpr hb)
    · exact absurd htb (hfree t ht)
  case sound => exact Stage.sound_addAll hmoved
  case queued => exact Stage.pending_addAll moved side bs
  case issued => exact (Stage.issued_addAll moved side bs).trans (by rw [hlength])
  case numbered => exact (Stage.ids_newborns moved side bs).trans (by rw [hlength])
  case started => exact fun t ht => Stage.of_mem_newborns ht
  case embodied =>
    intro fits t ht b hb
    exact (Stage.get?_newborns hmoved fits ht hb).imp_left Bodies.get?_moveAll_eq_none.mp
  case unshared => exact Stage.unshared_newborns hmoved
  case room =>
    intro hroom
    have hsize : moved.bodies.slots.size = st.bodies.slots.size :=
      Bodies.size_slots_moveAll st.bodies own motions
    have hfits : (moved.addAll side bs).bodies.Fits :=
      Stage.fits_addAll (by rwa [hsize, ← hlength])
    exact hfits

namespace Engine

/-- **A step touches only what is its own**, whatever it answers. -/
theorem runStep_footprint (c : Catalog K) (config : Config K) (world : World K) (scene : Scene K)
    (s : Shot K) (step : Step K) (hs : scene.stage.bodies.Sound) :
    ∃ new, Footprint s.body ⟨s.owner, s.list⟩ scene.stage
      (runStep c config world scene s step).1.stage new := by
  rw [runStep_eq]
  exact ⟨_, footprint_addAll hs s.body _ _ _⟩

/-- A fan that fails at its base when its two shots are there already. The first of them gets a body
in the slot that the body of another shot has left, and a handle to that one finds nothing. -/
theorem runStep_footprint_fan :
    let dot : Template Float32 := ⟨"dot", some ⟨7, 1, 2⟩, none, none, Vec.zero, []⟩
    let desc (n : Nat) : BodyDesc Float32 := ⟨⟨n⟩, Vec.zero, 7, 2, .enemyShot⟩
    let full : Bodies Float32 :=
      (((Bodies.add .empty (desc 1)).2.add (desc 2)).2.add (desc 3)).2
    let shot : Shot Float32 := ⟨⟨3⟩, 0, .none, Vec.zero, none, .enemyShot, some ⟨2, 0⟩, 1⟩
    let carrier : Shot Float32 := ⟨⟨4⟩, 0, .player, Vec.zero, none, .playerShot, none, 0⟩
    let scene : Scene Float32 := ⟨⟨⟨#[carrier], 4⟩, full.erase ⟨1, 0⟩⟩, .ofSeed 7⟩
    let (after, _, answer) := runStep ⟨#[dot]⟩ Config.default .empty scene shot
      (.fan ⟨"dot", 1, 60, 2, some "missing"⟩)
    answer = .error (.unknownTemplate "missing") ∧ after.stage.bodies.Fits ∧
      ∃ new, Footprint shot.body ⟨shot.owner, shot.list⟩ scene.stage after.stage new ∧
        new.map (·.body) = [some ⟨1, 1⟩, some ⟨3, 0⟩] ∧
        after.stage.bodies.contains ⟨1, 0⟩ = false := by
  intro dot desc full shot carrier scene
  have hadd {bs : Bodies Float32} (h : bs.Sound) (n : Nat) : (bs.add (desc n)).2.Sound :=
    Arena.sound_insert h _
  have hs : scene.stage.bodies.Sound :=
    Arena.sound_erase (hadd (hadd (hadd Arena.sound_empty 1) 2) 3) ⟨1, 0⟩
  obtain ⟨new, h⟩ := runStep_footprint ⟨#[dot]⟩ Config.default .empty scene shot
    (.fan ⟨"dot", 1, 60, 2, some "missing"⟩) hs
  have hnew := congrArg (List.drop 1) h.queued
  refine ⟨by decide +kernel, by rw [Arena.Fits]; decide +kernel, new, h, ?_, by decide +kernel⟩
  change _ = new at hnew
  rw [← hnew]
  decide +kernel

end Engine

end Barrage
