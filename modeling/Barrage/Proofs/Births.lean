import Barrage.Engine
import Barrage.Proofs.Creation
import Barrage.Proofs.Overflow
import Mathlib.Data.List.Forall2

/-!
Bodies, and what motions and births do to them.

A motion changes the body that makes it. A birth adds a body if it has something to show, in a slot
where nothing lay, and nothing else is different afterwards: every handle that found a body finds it
still, and one that found nothing finds something only if a new shot holds it. So a row of births
can be told in full, shot by shot, whatever came before in the row and whatever comes after.
-/

namespace Barrage

open Scalar (nat)
open Engine (moveAll)

variable {K : Type} [Scalar K]

namespace Bodies

/-- Motions change the body that makes them. -/
lemma get?_moveAll (bs : Bodies K) (body : Option BodyId) (motions : List (Motion K))
    (b : BodyId) : (moveAll bs body motions).get? b =
      if body = some b then (bs.get? b).map (motions.foldl Body.apply) else bs.get? b := by
  rcases body with _ | b'
  · simp [moveAll]
  · simp only [moveAll, Option.some.injEq]
    induction motions generalizing bs with
    | nil => split <;> simp
    | cons m motions ih =>
      rw [List.foldl_cons, ih, move, Arena.get?_modify]
      by_cases hb : b' = b
      · subst hb
        simp [Function.comp_def]
      · simp [hb, Ne.symm hb]

lemma get?_moveAll_eq_none {bs : Bodies K} {body : Option BodyId} {motions : List (Motion K)}
    {b : BodyId} : (moveAll bs body motions).get? b = none ↔ bs.get? b = none := by
  rw [get?_moveAll]
  split
  · exact Option.map_eq_none_iff
  · rfl

lemma sound_moveAll {bs : Bodies K} (h : bs.Sound) (body : Option BodyId)
    (motions : List (Motion K)) : (moveAll bs body motions).Sound := by
  rcases body with _ | b
  · exact h
  · rw [moveAll]
    induction motions generalizing bs with
    | nil => exact h
    | cons m motions ih => exact ih (Arena.sound_modify h b _)

@[simp] lemma size_slots_moveAll (bs : Bodies K) (body : Option BodyId)
    (motions : List (Motion K)) : (moveAll bs body motions).slots.size = bs.slots.size := by
  rcases body with _ | b
  · rfl
  · rw [moveAll]
    induction motions generalizing bs with
    | nil => rfl
    | cons m motions ih => exact (ih (bs.move b m)).trans (Arena.size_slots_modify bs b _)

@[simp] lemma fits_moveAll (bs : Bodies K) (body : Option BodyId) (motions : List (Motion K)) :
    Arena.Fits (moveAll bs body motions) ↔ bs.Fits := by
  rw [Arena.Fits, size_slots_moveAll, Arena.Fits]

end Bodies

/-- A shot is what a birth asks for, under the number `n`. It has a body if there is something to
show, and `after` its creation that is there, at rest, where nothing was `before`. -/
structure Birth.Becomes (before after : Bodies K) (side : Side) (b : Birth K) (n : Nat)
    (s : Shot K) : Prop where
  shot : s = {
    id := ⟨n⟩
    frame := 0
    owner := side.owner
    origin := b.place
    step := b.step
    list := side.list
    body := s.body
    damage := (b.visual.map (·.damage)).getD 0 }
  bodiless : b.visual = none → s.body = none
  embodied : ∀ v, b.visual = some v → ∃ g, s.body = some g ∧ (after.Fits →
    before.get? g = none ∧ after.get? g = some {
      desc := ⟨⟨n⟩, b.place, v.animation, v.radius, side.list⟩
      position := b.place
      velocity := Vec.zero
      rotation := nat 0 })

/-- A shot is still what its birth asked for when less was there before and more is afterwards. -/
lemma Birth.Becomes.mono {before before' after after' : Bodies K} {side : Side} {b : Birth K}
    {n : Nat} {s : Shot K} (h : b.Becomes before after side n s) (fits : after'.Fits → after.Fits)
    (hbefore : ∀ g, before.get? g = none → before'.get? g = none)
    (hafter : ∀ g body, after.get? g = some body → after'.get? g = some body) :
    b.Becomes before' after' side n s where
  shot := h.shot
  bodiless := h.bodiless
  embodied v hv := by
    obtain ⟨g, hg, hbody⟩ := h.embodied v hv
    exact ⟨g, hg, fun hfits => (hbody (fits hfits)).imp (hbefore g) (hafter g _)⟩

/-- The body of a new shot is a new one, made for it. -/
lemma Birth.Becomes.body {before after : Bodies K} {side : Side} {b : Birth K} {n : Nat}
    {s : Shot K} (h : b.Becomes before after side n s) (fits : after.Fits) {g : BodyId}
    (hg : s.body = some g) : before.get? g = none ∧
      ∃ body, after.get? g = some body ∧ body.desc.shot = s.id ∧ body.desc.list = s.list := by
  rcases hv : b.visual with _ | v
  · rw [h.bodiless hv] at hg
    cases hg
  · obtain ⟨g', hg', hfind⟩ := h.embodied v hv
    obtain rfl := Option.some.inj (hg'.symm.trans hg)
    obtain ⟨hnone, hsome⟩ := hfind fits
    exact ⟨hnone, _, hsome, by rw [h.shot], by rw [h.shot]⟩

omit [Scalar K] in
/-- Shots that hold bodies made for them do not share them. -/
lemma unshared_of_desc {bodies : Bodies K} {shots : List (Shot K)}
    (hids : (shots.map (·.id.raw)).Nodup)
    (hbodies : ∀ s ∈ shots, ∀ b, s.body = some b →
      ∃ body, bodies.get? b = some body ∧ body.desc.shot = s.id) :
    (shots.filterMap (·.body)).Nodup := by
  rw [List.Nodup, List.pairwise_map] at hids
  rw [List.Nodup, List.pairwise_filterMap]
  refine hids.imp_of_mem fun {s t} hs ht hne b hsb b' htb heq => hne ?_
  obtain ⟨body, hbody, hsid⟩ := hbodies s hs b hsb
  obtain ⟨body', hbody', htid⟩ := hbodies t ht b' htb
  rw [← heq, hbody] at hbody'
  obtain rfl := Option.some.inj hbody'
  rw [← hsid, htid]

namespace Stage

variable {st : Stage K} {side : Side} {bs : List (Birth K)}

lemma sound_add (h : st.bodies.Sound) (side : Side) (b : Birth K) :
    (st.add side b).bodies.Sound := by
  rw [add_eq]
  rcases hv : b.visual with _ | v
  · simpa [embody, hv] using h
  · simp only [embody, hv]
    exact Arena.sound_insert h _

lemma sound_addAll (h : st.bodies.Sound) : (st.addAll side bs).bodies.Sound := by
  induction bs generalizing st with
  | nil => exact h
  | cons b bs ih => exact ih (sound_add h side b)

lemma fits_of_add {b : Birth K} (h : (st.add side b).bodies.Fits) : st.bodies.Fits := by
  rw [add_eq] at h
  rcases hv : b.visual with _ | v
  · simpa [embody, hv] using h
  · have : ((st.embody side b).2).Fits := h
    simp only [embody, hv] at this
    exact this.of_insert

lemma fits_of_addAll (h : (st.addAll side bs).bodies.Fits) : st.bodies.Fits := by
  induction bs generalizing st with
  | nil => exact h
  | cons b bs ih => exact fits_of_add (ih h)

lemma size_slots_add (st : Stage K) (side : Side) (b : Birth K) :
    (st.add side b).bodies.slots.size ≤ st.bodies.slots.size + 1 := by
  rw [add_eq]
  rcases hv : b.visual with _ | v
  · simp [embody, hv]
  · simp only [embody, hv]
    exact Arena.size_slots_insert_le st.bodies _

/-- There are handles enough for a row of births if there is one for each besides those in use. -/
lemma fits_addAll (h : st.bodies.slots.size + bs.length ≤ UInt32.size) :
    (st.addAll side bs).bodies.Fits := by
  induction bs generalizing st with
  | nil => exact h
  | cons b bs ih =>
    have hslots := size_slots_add st side b
    have hnext : (st.add side b).bodies.slots.size + bs.length ≤ UInt32.size := by
      rw [List.length_cons] at h
      omega
    exact ih hnext

/-- What a birth changes, if anything, is what the handle of its shot finds, which found nothing. -/
lemma get?_add_cases (h : st.bodies.Sound) (side : Side) (b : Birth K) (g : BodyId) :
    (st.add side b).bodies.get? g = st.bodies.get? g ∨
      (st.newborn side b).body = some g ∧ st.bodies.get? g = none := by
  rw [add_eq]
  rcases hv : b.visual with _ | v
  · simp [embody, hv]
  · simp only [newborn, embody, hv, Option.some.injEq]
    exact (Arena.get?_insert_cases h _ g).imp_right (And.imp_left Eq.symm)

lemma get?_addAll_cases (h : st.bodies.Sound) (side : Side) (bs : List (Birth K)) (g : BodyId) :
    (st.addAll side bs).bodies.get? g = st.bodies.get? g ∨
      (∃ s ∈ st.newborns side bs, s.body = some g) ∧ st.bodies.get? g = none := by
  induction bs generalizing st with
  | nil => exact .inl rfl
  | cons b bs ih =>
    rw [newborns, List.exists_mem_cons_iff, addAll_cons]
    rcases get?_add_cases h side b g with hfirst | ⟨hbody, hnone⟩
    · rw [← hfirst]
      exact (ih (sound_add h side b)).imp_right (And.imp_left Or.inr)
    · exact .inr ⟨.inl hbody, hnone⟩

/-- Births leave the bodies that there are alone. -/
lemma get?_addAll (h : st.bodies.Sound) {g : BodyId} {body : Body K}
    (hg : st.bodies.get? g = some body) : (st.addAll side bs).bodies.get? g = some body := by
  rcases get?_addAll_cases h side bs g with hsame | ⟨-, hnone⟩
  · exact hsame.trans hg
  · rw [hg] at hnone
    cases hnone

/-- A new shot is what its birth asks for. -/
lemma becomes_newborn (h : st.bodies.Sound) (side : Side) (b : Birth K) :
    b.Becomes st.bodies (st.add side b).bodies side (st.queue.issued + 1) (st.newborn side b) := by
  rw [add_eq]
  rcases hv : b.visual with _ | v
  · exact ⟨rfl, fun _ => by simp [newborn, embody, hv], by simp [hv]⟩
  · refine ⟨rfl, by simp [hv], fun v' hv' => ?_⟩
    obtain rfl := Option.some.inj (hv.symm.trans hv')
    simp only [newborn, embody, hv]
    refine ⟨_, rfl, fun fits => ⟨Arena.get?_issued h _ fits.room, ?_⟩⟩
    rw [Bodies.add, Arena.get?_insert h _ fits.room, if_pos rfl]
    rfl

/-- **What comes of a row of births**, shot by shot, whatever comes before in the row and whatever
comes after. -/
theorem becomes_newborns (h : st.bodies.Sound) (side : Side) (bs : List (Birth K)) :
    List.Forall₂ (fun b s => b.1.Becomes st.bodies (st.addAll side bs).bodies side b.2 s)
      (bs.zipIdx (st.queue.issued + 1)) (st.newborns side bs) := by
  induction bs generalizing st with
  | nil => exact .nil
  | cons b bs ih =>
    have hnext := sound_add h side b
    have hback (fits : (st.addAll side (b :: bs)).bodies.Fits) : (st.add side b).bodies.Fits :=
      fits_of_addAll fits
    have hissued : (st.add side b).queue.issued = st.queue.issued + 1 := issued_addAll st side [b]
    have hrest := ih hnext
    rw [hissued] at hrest
    refine .cons ?_ (hrest.imp fun b' s hs => ?_)
    · exact (becomes_newborn h side b).mono hback (fun _ => id) fun _ _ => get?_addAll hnext
    · -- what finds nothing after the first birth found nothing before it
      refine hs.mono id (fun g hnone => ?_) fun _ _ => id
      rcases get?_add_cases h side b g with hsame | ⟨-, hnone'⟩
      · exact hsame ▸ hnone
      · exact hnone'

/-- A new shot that has a body has a new one, made for it. -/
lemma get?_newborns (h : st.bodies.Sound) (fits : (st.addAll side bs).bodies.Fits) {s : Shot K}
    (hmem : s ∈ st.newborns side bs) {g : BodyId} (hg : s.body = some g) :
    st.bodies.get? g = none ∧ ∃ body, (st.addAll side bs).bodies.get? g = some body ∧
      body.desc.shot = s.id ∧ body.desc.list = s.list := by
  obtain ⟨i, hi, rfl⟩ := List.mem_iff_getElem.mp hmem
  have hall := becomes_newborns h side bs
  exact (hall.get (hall.length_eq ▸ hi) hi).body fits hg

lemma unshared_newborns (h : st.bodies.Sound) (fits : (st.addAll side bs).bodies.Fits) :
    ((st.newborns side bs).filterMap (·.body)).Nodup := by
  refine unshared_of_desc ?_ fun s hs g hg =>
    (get?_newborns h fits hs hg).2.imp fun _ hbody => ⟨hbody.1, hbody.2.1⟩
  rw [ids_newborns]
  exact List.nodup_range'

end Stage

end Barrage
