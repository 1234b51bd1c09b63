import Barrage.Proofs.Likeness
import Mathlib.Data.List.Flatten
import Mathlib.Data.List.Sort

/-!
Shots do not disturb each other.

An engine mirrors another one if it has a copy of each of its shots, equal to it in all but its
number and the handle of its body, and the numbers of the copies are in the order of those of the
shots. In a pass the copies have their turns in that order, with other shots between. If those draw
no random numbers, then every copy finds the random numbers that its shot finds, so the same comes
of both, and the shots that the two create can be taken for copies of each other.
-/

namespace Barrage

variable {K : Type} [Scalar K]

namespace Engine

/-- The shots with the numbers of `P` that are visited in a beat, and those that they create. -/
def offspring (e : Engine K) (b : Beat K) (P : ShotId → Prop) (id : ShotId) : Prop :=
  ∃ v ∈ e.turns b, P v.met.id ∧ v.Brood id

/-- The shots with the numbers of `P`, and what descends from them in a run. -/
def descend (e : Engine K) (P : ShotId → Prop) : List (Beat K) → ShotId → Prop
  | [] => P
  | b :: beats => (e.beat b).descend (e.offspring b P) beats

/-- In a run neither the shots with the numbers of `P` nor what descends from them draws a random
number. -/
def Quiet (e : Engine K) (P : ShotId → Prop) : List (Beat K) → Prop
  | [] => True
  | b :: beats => (∀ v ∈ e.turns b, P v.met.id → v.after.random = v.before.random) ∧
      (e.beat b).Quiet (e.offspring b P) beats

/-- A copy of every shot of `e` is in `e'`, under the number that `f` gives it. -/
structure Mirrors (f : ShotId → ShotId) (e e' : Engine K) : Prop where
  increasing : ∀ s ∈ e.shots, ∀ t ∈ e.shots, s.id.raw < t.id.raw → (f s.id).raw < (f t.id).raw
  live : ∀ s ∈ e.registry.live, ∃ t ∈ e'.registry.live,
    t.id = f s.id ∧ e'.likeness t = e.likeness s
  queued : ∀ s ∈ e.registry.queue.pending.toList, ∃ t ∈ e'.registry.queue.pending.toList,
    t.id = f s.id ∧ e'.likeness t = e.likeness s
  random : e'.random = e.random

/-- The numbers of the shots that are no copies. -/
def Extra (f : ShotId → ShotId) (e e' : Engine K) (id : ShotId) : Prop :=
  (∃ t ∈ e'.shots, t.id = id) ∧ ∀ s ∈ e.shots, f s.id ≠ id

/-! ### The turns of shots and of their copies -/

variable {f : ShotId → ShotId} {P : ShotId → Prop}

/-- The visits of a shot and of its copy, of which the same comes. -/
structure Twins (f : ShotId → ShotId) (fate fate' : Visit K → Fate K)
    (p : Visit K × Visit K) : Prop where
  id : p.2.met.id = f p.1.met.id
  fate : fate' p.2 = fate p.1

variable {c : Catalog K} {config : Config K} {world : World K}

/-- What comes of the visits of a pass, where `look` is how the shots are met. -/
structure Told (c : Catalog K) (config : Config K) (world : World K) (start : Scene K)
    (vs : List (Visit K)) (final : Scene K) (look : Visit K → Likeness K)
    (fate : Visit K → Fate K) : Prop where
  linked : Linked start vs final
  act : ∀ v ∈ vs, (look v).act c config world v.before.random = (fate v, v.after.random)

lemma Told.tail {start final : Scene K} {v : Visit K} {vs : List (Visit K)}
    {look : Visit K → Likeness K} {fate : Visit K → Fate K}
    (h : Told c config world start (v :: vs) final look fate) :
    Told c config world v.after vs final look fate :=
  ⟨h.linked.2, fun w hw => h.act w (by simp [hw])⟩

/-- If the others draw no random numbers, the same comes of shots and of their copies. -/
lemma exists_twins [DecidablePred P] {start start' final final' : Scene K}
    {vs vs' : List (Visit K)} {look look' : Visit K → Likeness K} {fate fate' : Visit K → Fate K}
    (h : Told c config world start vs final look fate)
    (h' : Told c config world start' vs' final' look' fate')
    (hids : (vs'.filter fun v => ¬ P v.met.id).map (·.met.id) = vs.map fun v => f v.met.id)
    (hlook : ∀ v ∈ vs, ∀ v' ∈ vs', v'.met.id = f v.met.id → look' v' = look v)
    (hquiet : ∀ v ∈ vs', P v.met.id → v.after.random = v.before.random)
    (hrandom : start'.random = start.random) :
    ∃ ps : List (Visit K × Visit K), ps.map (·.1) = vs ∧
      ps.map (·.2) = (vs'.filter fun v => ¬ P v.met.id) ∧ (∀ p ∈ ps, Twins f fate fate' p) ∧
      final'.random = final.random := by
  induction vs' generalizing vs start start' with
  | nil =>
    obtain rfl : vs = [] := by simpa using hids.symm
    obtain rfl : final = start := h.linked
    obtain rfl : final' = start' := h'.linked
    exact ⟨[], rfl, rfl, by simp, hrandom⟩
  | cons v' vs' ih =>
    obtain ⟨hbefore', -⟩ := h'.linked
    by_cases hP : P v'.met.id
    · rw [List.filter_cons_of_neg (by simpa using hP)] at hids ⊢
      have hskip : v'.after.random = start.random := by
        rw [hquiet v' (by simp) hP, hbefore', hrandom]
      exact ih h h'.tail hids (fun v hv w hw => hlook v hv w (by simp [hw]))
        (fun w hw => hquiet w (by simp [hw])) hskip
    · rw [List.filter_cons_of_pos (by simpa using hP)] at hids ⊢
      rcases vs with _ | ⟨v, vs⟩
      · simp at hids
      · rw [List.map_cons, List.map_cons, List.cons.injEq] at hids
        obtain ⟨hid, hids⟩ := hids
        obtain ⟨hbefore, -⟩ := h.linked
        have hact := h.act v (by simp)
        have hact' := h'.act v' (by simp)
        rw [hlook v (by simp) v' (by simp) hid, hbefore', hrandom, ← hbefore, hact,
          Prod.mk.injEq] at hact'
        obtain ⟨ps, hfst, hsnd, htwins, hrandom⟩ := ih h.tail h'.tail hids
          (fun v hv w hw => hlook v (by simp [hv]) w (by simp [hw]))
          (fun w hw => hquiet w (by simp [hw])) hact'.2.symm
        refine ⟨(v, v') :: ps, by rw [List.map_cons, hfst], by rw [List.map_cons, hsnd], ?_,
          hrandom⟩
        rw [List.forall_mem_cons]
        exact ⟨⟨hid, hact'.1.symm⟩, htwins⟩

/-! ### The numbers of copies -/

variable {e e' : Engine K}

omit [Scalar K] in
/-- Every shot has a copy, queued or not. -/
lemma Mirrors.shots (m : Mirrors f e e') {s : Shot K} (hs : s ∈ e.shots) :
    ∃ t ∈ e'.shots, t.id = f s.id := by
  rcases List.mem_append.mp hs with hs | hs
  · obtain ⟨t, ht, hid, -⟩ := m.live s hs
    exact ⟨t, List.mem_append_left _ ht, hid⟩
  · obtain ⟨t, ht, hid, -⟩ := m.queued s hs
    exact ⟨t, List.mem_append_right _ ht, hid⟩

omit [Scalar K] in
/-- The numbers of the copies are in the order of those of the shots. -/
lemma Mirrors.ids (m : Mirrors f e e') (ho : e.registry.InOrder) (ho' : e'.registry.InOrder)
    [DecidablePred (Extra f e e')] :
    ((e'.shots.map (·.id)).filter fun i => ¬ Extra f e e' i) = e.shots.map fun s => f s.id := by
  let before (i j : ShotId) : Prop := i.raw < j.raw
  have : Std.Irrefl before := ⟨fun i => Nat.lt_irrefl i.raw⟩
  have : Std.Antisymm before := ⟨fun _ _ h h' => absurd h' (Nat.lt_asymm h)⟩
  have hraw := List.pairwise_map.mp ho.sorted
  have hraw' := List.pairwise_map.mp ho'.sorted
  have hsorted : (e.shots.map fun s => f s.id).Pairwise before :=
    List.pairwise_map.mpr (hraw.imp_of_mem fun hs ht => m.increasing _ hs _ ht)
  have hsorted' : (e'.shots.map (·.id)).Pairwise before := List.pairwise_map.mpr hraw'
  refine (hsorted'.sublist List.filter_sublist).eq_of_mem_iff hsorted fun i => ?_
  simp only [List.mem_filter, List.mem_map, decide_eq_true_eq]
  constructor
  · rintro ⟨ht, hcopy⟩
    by_contra hno
    exact hcopy ⟨ht, fun s hs hi => hno ⟨s, hs, hi⟩⟩
  · rintro ⟨s, hs, rfl⟩
    exact ⟨m.shots hs, fun hextra => hextra.2 s hs rfl⟩

/-! ### One tick -/

omit [Scalar K] in
/-- The copies are met as their shots are. -/
lemma Mirrors.met (m : Mirrors f e e') (ho : e.registry.InOrder) (ho' : e'.registry.InOrder)
    {s t : Shot K} (hs : s ∈ e.registry.advance.live) (ht : t ∈ e'.registry.advance.live)
    (hid : t.id = f s.id) : e'.likeness t = e.likeness s := by
  have hnodup : (e'.registry.advance.live.map (·.id)).Nodup := by
    refine List.Nodup.of_map ShotId.raw ?_
    rw [List.map_map]
    exact (Registry.ids_live_advance ho').symm ▸ ho'.sorted.imp Nat.ne_of_lt
  suffices hcopy : ∃ u ∈ e'.registry.advance.live, u.id = f s.id ∧ e'.likeness u = e.likeness s by
    obtain ⟨u, hu, huid, hlikeness⟩ := hcopy
    rw [List.inj_on_of_nodup_map hnodup ht hu (hid.trans huid.symm), hlikeness]
  rw [Registry.live_advance ho] at hs
  rw [Registry.live_advance ho']
  rcases List.mem_append.mp hs with hs | hs
  · obtain ⟨r, hr, rfl⟩ := List.mem_map.mp hs
    obtain ⟨u, hu, hid, hlikeness⟩ := m.live r hr
    exact ⟨u.aged, List.mem_append_left _ (List.mem_map_of_mem hu), hid,
      congrArg Likeness.aged hlikeness⟩
  · obtain ⟨u, hu, hid, hlikeness⟩ := m.queued s hs
    exact ⟨u, List.mem_append_right _ hu, hid, hlikeness⟩

omit [Scalar K] in
/-- Numbers can be given to new shots as one likes. -/
lemma exists_renaming (f : ShotId → ShotId) {bp : List (Shot K × Shot K)}
    (h : (bp.map (·.1.id)).Nodup) :
    ∃ f' : ShotId → ShotId, (∀ i ∉ bp.map (·.1.id), f' i = f i) ∧
      ∀ p ∈ bp, f' p.1.id = p.2.id := by
  induction bp with
  | nil => exact ⟨f, fun _ _ => rfl, by simp⟩
  | cons p bp ih =>
    rw [List.map_cons, List.nodup_cons] at h
    obtain ⟨f', hold, hnew⟩ := ih h.2
    refine ⟨Function.update f' p.1.id p.2.id, fun i hi => ?_, ?_⟩
    · rw [List.map_cons, List.mem_cons, not_or] at hi
      rw [Function.update_of_ne hi.1, hold i hi.2]
    · rw [List.forall_mem_cons]
      refine ⟨Function.update_self .., fun q hq => ?_⟩
      have hne : q.1.id ≠ p.1.id := fun he => h.1 (he ▸ List.mem_map_of_mem hq)
      rw [Function.update_of_ne hne, hnew q hq]

/-- The visits of one tick beside those of the copies in another one. -/
structure Paired (f : ShotId → ShotId) (e e' : Engine K) (world : World K)
    (ps : List (Visit K × Visit K)) : Prop where
  all : ps.map (·.1) = e.tickVisits world
  sublist : (ps.map (·.2)).Sublist (e'.tickVisits world)
  copies : ∀ v ∈ e'.tickVisits world, v ∈ ps.map (·.2) ↔ ¬ Extra f e e' v.met.id
  twins : ∀ p ∈ ps, Twins f (·.fate (e.pass world).2.stage.bodies)
    (·.fate (e'.pass world).2.stage.bodies) p

/-- If the others draw no random numbers, the visits of the copies are as those of the shots. -/
lemma exists_paired (m : Mirrors f e e') (hb : Balanced e) (hb' : Balanced e')
    (ho : e.registry.InOrder) (ho' : e'.registry.InOrder) (hcatalog : e'.catalog = e.catalog)
    (hconfig : e'.config = e.config) (fits : (e.tick world).2.bodies.Fits)
    (fits' : (e'.tick world).2.bodies.Fits)
    (quiet : ∀ v ∈ e'.tickVisits world, Extra f e e' v.met.id →
      v.after.random = v.before.random) :
    (∃ ps, Paired f e e' world ps) ∧ (e'.tick world).2.random = (e.tick world).2.random := by
  classical
  have hids : ((e'.tickVisits world).filter fun v => ¬ Extra f e e' v.met.id).map (·.met.id) =
      (e.tickVisits world).map fun v => f v.met.id := by
    have hcopies := m.ids ho ho'
    have hall := congrArg (List.map f) (ids_tickVisits ho world)
    rw [List.map_map, List.map_map] at hall
    rw [← ids_tickVisits ho' world, List.filter_map] at hcopies
    exact hcopies.trans hall.symm
  have htold : Told e.catalog e.config world ⟨⟨e.registry.advance.queue, e.bodies⟩, e.random⟩
      (e.tickVisits world) (e.pass world).2 (e.likeness ·.met)
      (·.fate (e.pass world).2.stage.bodies) :=
    ⟨linked_tickVisits e world, tick_likeness hb ho fits⟩
  have htold' : Told e.catalog e.config world
      ⟨⟨e'.registry.advance.queue, e'.bodies⟩, e'.random⟩ (e'.tickVisits world)
      (e'.pass world).2 (e'.likeness ·.met) (·.fate (e'.pass world).2.stage.bodies) :=
    ⟨linked_tickVisits e' world, hcatalog ▸ hconfig ▸ tick_likeness hb' ho' fits'⟩
  have hlook : ∀ v ∈ e.tickVisits world, ∀ v' ∈ e'.tickVisits world, v'.met.id = f v.met.id →
      e'.likeness v'.met = e.likeness v.met := by
    intro v hv v' hv' hid
    refine m.met ho ho' ?_ ?_ hid
    · rw [← met_tickVisits e world]
      exact List.mem_map_of_mem hv
    · rw [← met_tickVisits e' world]
      exact List.mem_map_of_mem hv'
  obtain ⟨ps, hfst, hsnd, htwins, hrandom⟩ :=
    exists_twins htold htold' hids hlook quiet m.random
  refine ⟨⟨ps, hfst, hsnd ▸ List.filter_sublist, fun v hv => ?_, htwins⟩, ?_⟩
  · rw [hsnd, List.mem_filter, decide_eq_true_eq]
    exact and_iff_right hv
  · rw [tick_eq, tick_eq]
    exact hrandom

variable {ps : List (Visit K × Visit K)} {p : Visit K × Visit K}

lemma Paired.mem_fst (h : Paired f e e' world ps) (hp : p ∈ ps) : p.1 ∈ e.tickVisits world :=
  h.all ▸ List.mem_map_of_mem hp

lemma Paired.mem_snd (h : Paired f e e' world ps) (hp : p ∈ ps) : p.2 ∈ e'.tickVisits world :=
  h.sublist.subset (List.mem_map_of_mem hp)

lemma Paired.retired (h : Paired f e e' world ps) (hp : p ∈ ps) :
    p.2.outcome.retired = p.1.outcome.retired := congrArg Fate.retired (h.twins p hp).fate

lemma Paired.shot (h : Paired f e e' world ps) (hp : p ∈ ps) :
    p.2.outcome.shot.likeness (e'.pass world).2.stage.bodies =
      p.1.outcome.shot.likeness (e.pass world).2.stage.bodies :=
  congrArg Fate.shot (h.twins p hp).fate

lemma Paired.children (h : Paired f e e' world ps) (hp : p ∈ ps) :
    p.2.born.map (·.likeness (e'.pass world).2.stage.bodies) =
      p.1.born.map (·.likeness (e.pass world).2.stage.bodies) :=
  congrArg Fate.children (h.twins p hp).fate

lemma Paired.length_born (h : Paired f e e' world ps) (hp : p ∈ ps) :
    p.2.born.length = p.1.born.length := by
  simpa using congrArg List.length (h.children hp)

/-- The new shots of visits beside those of their copies. -/
def broods (ps : List (Visit K × Visit K)) : List (Shot K × Shot K) :=
  ps.flatMap fun p => p.1.born.zip p.2.born

lemma Paired.broods_fst (h : Paired f e e' world ps) :
    (broods ps).map (·.1) = (e.tickVisits world).flatMap Visit.born := by
  rw [← h.all, broods, List.map_flatMap, List.flatMap_map]
  exact List.flatMap_congr fun p hp => List.map_fst_zip (h.length_born hp).ge

lemma Paired.broods_snd (h : Paired f e e' world ps) :
    ((broods ps).map (·.2)).Sublist ((e'.tickVisits world).flatMap Visit.born) := by
  have hsnd : (broods ps).map (·.2) = (ps.map (·.2)).flatMap Visit.born := by
    rw [broods, List.map_flatMap, List.flatMap_map]
    exact List.flatMap_congr fun p hp => List.map_snd_zip (h.length_born hp).le
  rw [hsnd]
  exact h.sublist.flatMap _

/-- New shots look alike. -/
lemma Paired.broods_likeness (h : Paired f e e' world ps) {q : Shot K × Shot K}
    (hq : q ∈ broods ps) : q.2.likeness (e'.pass world).2.stage.bodies =
      q.1.likeness (e.pass world).2.stage.bodies := by
  obtain ⟨p, hp, hzip⟩ := List.mem_flatMap.mp hq
  obtain ⟨i, hi, rfl⟩ := List.mem_iff_getElem.mp hzip
  have hlt : i < p.1.born.length ∧ i < p.2.born.length := by
    rw [List.length_zip] at hi
    omega
  have hchildren := congrArg (·[i]?) (h.children hp)
  rw [List.getElem_zip]
  simpa [hlt.1, hlt.2] using hchildren

/-- New shots and their copies are numbered in the same order. -/
lemma Paired.broods_increasing (h : Paired f e e' world ps) : ∀ q ∈ broods ps, ∀ r ∈ broods ps,
    q.1.id.raw < r.1.id.raw → q.2.id.raw < r.2.id.raw := by
  have hfst : (broods ps).Pairwise fun q r => q.1.id.raw < r.1.id.raw := by
    have hsorted := List.pairwise_lt_range' (s := e.registry.queue.issued + 1)
      (n := ((e.tickVisits world).flatMap Visit.born).length)
    rw [← ids_born, ← h.broods_fst, List.map_map, List.pairwise_map] at hsorted
    exact hsorted
  have hsnd : (broods ps).Pairwise fun q r => q.2.id.raw < r.2.id.raw := by
    have hsorted := List.pairwise_lt_range' (s := e'.registry.queue.issued + 1)
      (n := ((e'.tickVisits world).flatMap Visit.born).length)
    rw [← ids_born] at hsorted
    have hsub := hsorted.sublist (h.broods_snd.map _)
    rw [List.map_map, List.pairwise_map] at hsub
    exact hsub
  refine List.Pairwise.forall_of_forall_of_flip (fun q _ hq => absurd hq (Nat.lt_irrefl _)) ?_ ?_
  · refine hsnd.imp ?_
    exact fun hlt _ => hlt
  · exact hfst.imp fun hlt hgt => absurd hgt (Nat.lt_asymm hlt)

/-- A renaming that goes on with the numbers of new shots. -/
structure Renames (f f' : ShotId → ShotId) (e : Engine K) (ps : List (Visit K × Visit K)) :
    Prop where
  same : ∀ i : ShotId, i.raw ≤ e.registry.queue.issued → f' i = f i
  new : ∀ q ∈ broods ps, f' q.1.id = q.2.id

lemma Paired.exists_renames (h : Paired f e e' world ps) : ∃ f', Renames f f' e ps := by
  have hids : (broods ps).map (·.1.id.raw) = List.range' (e.registry.queue.issued + 1)
      ((e.tickVisits world).flatMap Visit.born).length := by
    rw [← ids_born, ← h.broods_fst, List.map_map]
    rfl
  have hnodup : ((broods ps).map (·.1.id)).Nodup := by
    refine List.Nodup.of_map ShotId.raw ?_
    rw [List.map_map]
    exact hids ▸ List.nodup_range'
  obtain ⟨f', hold, hnew⟩ := exists_renaming f hnodup
  refine ⟨f', fun i hi => hold i fun hmem => ?_, hnew⟩
  obtain ⟨q, hq, rfl⟩ := List.mem_map.mp hmem
  have hraw := List.mem_map_of_mem (f := fun q : Shot K × Shot K => q.1.id.raw) hq
  rw [hids, List.mem_range'_1] at hraw
  omega

variable {f' : ShotId → ShotId}

/-- A copy comes of the visit of a copy. -/
lemma Paired.brood (h : Paired f e e' world ps) (r : Renames f f' e ps)
    (ho : e.registry.InOrder) {s : Shot K} (hs : s ∈ (e.tick world).2.shots) :
    ∃ p ∈ ps, p.1.Brood s.id ∧ p.2.Brood (f' s.id) := by
  rcases List.mem_append.mp hs with hs | hs
  · obtain ⟨v, hv, -, rfl⟩ := mem_live_tick.mp hs
    rw [← h.all] at hv
    obtain ⟨p, hp, rfl⟩ := List.mem_map.mp hv
    have hid := id_tickVisits (h.mem_fst hp)
    refine ⟨p, hp, .inl hid.symm, .inl ?_⟩
    rw [(h.twins p hp).id, hid, r.same _ (met_le_issued ho (h.mem_fst hp))]
  · have hs' : s ∈ (broods ps).map (·.1) := by
      rw [h.broods_fst, ← queue_tick]
      exact hs
    obtain ⟨q, hq, rfl⟩ := List.mem_map.mp hs'
    obtain ⟨p, hp, hzip⟩ := List.mem_flatMap.mp hq
    have hmem := List.of_mem_zip hzip
    exact ⟨p, hp, .inr ⟨q.1, hmem.1, rfl⟩, .inr ⟨q.2, hmem.2, (r.new q hq).symm⟩⟩

/-- A shot after a tick was there before it, or it is a new one. -/
lemma Paired.old_or_new (h : Paired f e e' world ps) (ho : e.registry.InOrder) {s : Shot K}
    (hs : s ∈ (e.tick world).2.shots) :
    (∃ s₀ ∈ e.shots, s₀.id = s.id) ∨ ∃ q ∈ broods ps, q.1 = s := by
  rcases List.mem_append.mp hs with hs | hs
  · obtain ⟨v, hv, -, rfl⟩ := mem_live_tick.mp hs
    refine .inl (List.mem_map.mp ?_)
    rw [← ids_tickVisits ho world, id_tickVisits hv]
    exact List.mem_map_of_mem (f := fun v : Visit K => v.met.id) hv
  · rw [queue_tick, ← h.broods_fst] at hs
    exact .inr (List.mem_map.mp hs)

/-- The order of the numbers goes on. -/
lemma Paired.increasing (h : Paired f e e' world ps) (r : Renames f f' e ps)
    (m : Mirrors f e e') (ho : e.registry.InOrder) (ho' : e'.registry.InOrder) :
    ∀ s ∈ (e.tick world).2.shots, ∀ t ∈ (e.tick world).2.shots,
      s.id.raw < t.id.raw → (f' s.id).raw < (f' t.id).raw := by
  have hissued : ∀ q ∈ broods ps, e.registry.queue.issued < q.1.id.raw ∧
      e'.registry.queue.issued < q.2.id.raw := by
    intro q hq
    obtain ⟨p, hp, hzip⟩ := List.mem_flatMap.mp hq
    have hmem := List.of_mem_zip hzip
    exact ⟨issued_lt_born (h.mem_fst hp) hmem.1, issued_lt_born (h.mem_snd hp) hmem.2⟩
  have hold : ∀ s ∈ e.shots, f' s.id = f s.id := fun s hs => r.same _ (ho.issued s hs).2
  intro s hs t ht hlt
  rcases h.old_or_new ho hs with ⟨s₀, hs₀, hsid⟩ | ⟨q, hq, rfl⟩ <;>
    rcases h.old_or_new ho ht with ⟨t₀, ht₀, htid⟩ | ⟨q', hq', rfl⟩
  · rw [← hsid, ← htid] at hlt ⊢
    rw [hold _ hs₀, hold _ ht₀]
    exact m.increasing _ hs₀ _ ht₀ hlt
  · obtain ⟨u, hu, huid⟩ := m.shots hs₀
    have hbound := (ho'.issued u hu).2
    have hnew := (hissued q' hq').2
    rw [← hsid, hold _ hs₀, ← huid, r.new q' hq']
    omega
  · have hbound := (ho.issued t₀ ht₀).2
    have hnew := (hissued q hq).1
    rw [← htid] at hlt
    omega
  · rw [r.new q hq, r.new q' hq']
    exact h.broods_increasing q hq q' hq' hlt

/-- The mirror is kept. -/
lemma Paired.mirrors (h : Paired f e e' world ps) (r : Renames f f' e ps) (m : Mirrors f e e')
    (hb : Balanced e) (hb' : Balanced e') (ho : e.registry.InOrder) (ho' : e'.registry.InOrder)
    (fits : (e.tick world).2.bodies.Fits) (fits' : (e'.tick world).2.bodies.Fits)
    (hrandom : (e'.tick world).2.random = (e.tick world).2.random) :
    Mirrors f' (e.tick world).2 (e'.tick world).2 := by
  refine ⟨h.increasing r m ho ho', fun s hs => ?_, fun s hs => ?_, hrandom⟩
  · have hlook := likeness_tick hb ho fits (List.mem_append_left _ hs)
    obtain ⟨v, hv, hkept, rfl⟩ := mem_live_tick.mp hs
    rw [← h.all] at hv
    obtain ⟨p, hp, rfl⟩ := List.mem_map.mp hv
    have ht : p.2.outcome.shot ∈ (e'.tick world).2.registry.live :=
      mem_live_tick.mpr ⟨p.2, h.mem_snd hp, (h.retired hp).trans hkept, rfl⟩
    have hlook' := likeness_tick hb' ho' fits' (List.mem_append_left _ ht)
    refine ⟨p.2.outcome.shot, ht, ?_, ?_⟩
    · rw [id_tickVisits (h.mem_snd hp), (h.twins p hp).id, id_tickVisits (h.mem_fst hp),
        r.same _ (met_le_issued ho (h.mem_fst hp))]
    · rw [← hlook', ← hlook, h.shot hp]
  · have hlook := likeness_tick hb ho fits (List.mem_append_right _ hs)
    rw [queue_tick, ← h.broods_fst] at hs
    obtain ⟨q, hq, rfl⟩ := List.mem_map.mp hs
    have ht : q.2 ∈ (e'.tick world).2.registry.queue.pending.toList := by
      rw [queue_tick]
      exact h.broods_snd.subset (List.mem_map_of_mem hq)
    have hlook' := likeness_tick hb' ho' fits' (List.mem_append_right _ ht)
    exact ⟨q.2, ht, (r.new q hq).symm, by rw [← hlook', ← hlook, h.broods_likeness hq]⟩

/-- Whatever comes of the visit of a copy is a copy. -/
lemma Paired.copy (h : Paired f e e' world ps) (r : Renames f f' e ps)
    (ho : e.registry.InOrder) (ho' : e'.registry.InOrder) (hp : p ∈ ps) {t : Shot K}
    (ht : t ∈ (e'.tick world).2.shots) (hbrood : p.2.Brood t.id) :
    ∃ s ∈ (e.tick world).2.shots, f' s.id = t.id := by
  rcases List.mem_append.mp ht with ht | ht
  · obtain ⟨v, hv, hkept, rfl⟩ := mem_live_tick.mp ht
    obtain rfl := brood_unique ho' hv (h.mem_snd hp) (.inl (id_tickVisits hv).symm) hbrood
    have hs := mem_live_tick.mpr ⟨p.1, h.mem_fst hp, (h.retired hp).symm.trans hkept, rfl⟩
    refine ⟨p.1.outcome.shot, List.mem_append_left _ hs, ?_⟩
    rw [id_tickVisits hv, (h.twins p hp).id, id_tickVisits (h.mem_fst hp),
      r.same _ (met_le_issued ho (h.mem_fst hp))]
  · rw [queue_tick] at ht
    obtain ⟨v, hv, ht⟩ := List.mem_flatMap.mp ht
    obtain rfl := brood_unique ho' hv (h.mem_snd hp) (.inr ⟨t, ht, rfl⟩) hbrood
    rw [← List.map_snd_zip (h.length_born hp).le] at ht
    obtain ⟨q, hzip, rfl⟩ := List.mem_map.mp ht
    have hq : q ∈ broods ps := List.mem_flatMap.mpr ⟨p, hp, hzip⟩
    refine ⟨q.1, List.mem_append_right _ ?_, r.new q hq⟩
    rw [queue_tick, ← h.broods_fst]
    exact List.mem_map_of_mem hq

/-- What is no copy after a tick comes of the visit of what was none. -/
lemma Paired.extra (h : Paired f e e' world ps) (r : Renames f f' e ps)
    (ho : e.registry.InOrder) (ho' : e'.registry.InOrder) {t : Shot K}
    (ht : t ∈ (e'.tick world).2.shots) :
    Extra f' (e.tick world).2 (e'.tick world).2 t.id ↔
      e'.offspring (.tick world) (Extra f e e') t.id := by
  constructor
  · rintro ⟨-, hnone⟩
    obtain ⟨v, hv, hbrood⟩ := exists_brood ht
    refine ⟨v, hv, by_contra fun hcopy => ?_, hbrood⟩
    obtain ⟨p, hp, rfl⟩ := List.mem_map.mp ((h.copies v hv).mpr hcopy)
    obtain ⟨s, hs, hid⟩ := h.copy r ho ho' hp ht hbrood
    exact hnone s hs hid
  · rintro ⟨v, hv, hextra, hbrood⟩
    refine ⟨⟨t, ht, rfl⟩, fun s hs hid => ?_⟩
    obtain ⟨p, hp, -, hbrood'⟩ := h.brood r ho hs
    rw [hid] at hbrood'
    obtain rfl := brood_unique ho' hv (h.mem_snd hp) hbrood hbrood'
    exact (h.copies p.2 hv).mp (List.mem_map_of_mem hp) hextra

lemma offspring_tick (ho : e.registry.InOrder) {v : Visit K} (hv : v ∈ e.tickVisits world)
    {i : ShotId} (hbrood : v.Brood i) : e.offspring (.tick world) P i ↔ P v.met.id := by
  constructor
  · rintro ⟨w, hw, hP, hbrood'⟩
    rwa [brood_unique ho hv hw hbrood hbrood']
  · exact fun hP => ⟨v, hv, hP, hbrood⟩

/-- Copies have copies for children. -/
lemma Paired.family (h : Paired f e e' world ps) (r : Renames f f' e ps)
    (ho : e.registry.InOrder) (ho' : e'.registry.InOrder) {P P' : ShotId → Prop}
    (hP : ∀ s ∈ e.shots, P s.id ↔ P' (f s.id)) {s : Shot K} (hs : s ∈ (e.tick world).2.shots) :
    e.offspring (.tick world) P s.id ↔ e'.offspring (.tick world) P' (f' s.id) := by
  obtain ⟨p, hp, hbrood, hbrood'⟩ := h.brood r ho hs
  have hmem : p.1.met.id ∈ e.shots.map (·.id) := by
    rw [← ids_tickVisits ho world]
    exact List.mem_map_of_mem (f := fun v : Visit K => v.met.id) (h.mem_fst hp)
  obtain ⟨s₀, hs₀, hid⟩ := List.mem_map.mp hmem
  rw [offspring_tick ho (h.mem_fst hp) hbrood, offspring_tick ho' (h.mem_snd hp) hbrood',
    (h.twins p hp).id, ← hid]
  exact hP s₀ hs₀

/-! ### Runs -/

/-- What is so after a run of an engine and of one that mirrors it. -/
structure Mirrored (f f' : ShotId → ShotId) (e e' : Engine K) (beats : List (Beat K)) : Prop where
  /-- The shots that there were keep their copies. -/
  same : ∀ i : ShotId, i.raw ≤ e.registry.queue.issued → f' i = f i
  mirrors : Mirrors f' (e.run beats) (e'.run beats)
  /-- What is no copy descends from what was none. -/
  extra : ∀ t ∈ (e'.run beats).shots,
    Extra f' (e.run beats) (e'.run beats) t.id ↔ e'.descend (Extra f e e') beats t.id
  /-- What descends from copies is the copy of what descends from the shots. -/
  family : ∀ P P' : ShotId → Prop, (∀ s ∈ e.shots, P s.id ↔ P' (f s.id)) →
    ∀ s ∈ (e.run beats).shots, e.descend P beats s.id ↔ e'.descend P' beats (f' s.id)

/-- The mirror is kept by one tick. -/
lemma Mirrors.tick (m : Mirrors f e e') (hb : Balanced e) (hb' : Balanced e')
    (ho : e.registry.InOrder) (ho' : e'.registry.InOrder) (hcatalog : e'.catalog = e.catalog)
    (hconfig : e'.config = e.config) (fits : (e.tick world).2.bodies.Fits)
    (fits' : (e'.tick world).2.bodies.Fits)
    (quiet : ∀ v ∈ e'.tickVisits world, Extra f e e' v.met.id →
      v.after.random = v.before.random) : ∃ f', Mirrored f f' e e' [.tick world] := by
  obtain ⟨⟨ps, h⟩, hrandom⟩ :=
    exists_paired m hb hb' ho ho' hcatalog hconfig fits fits' quiet
  obtain ⟨f', r⟩ := h.exists_renames
  exact ⟨f', r.same, h.mirrors r m hb hb' ho ho' fits fits' hrandom,
    fun t ht => h.extra r ho ho' ht, fun P P' hP s hs => h.family r ho ho' hP hs⟩

lemma Mirrors.integrate (m : Mirrors f e e') :
    Mirrors f { e with bodies := e.bodies.integrate }
      { e' with bodies := e'.bodies.integrate } := by
  have flown (e : Engine K) (s : Shot K) :
      likeness { e with bodies := e.bodies.integrate } s = (e.likeness s).flown :=
    Shot.likeness_integrate e.bodies s
  refine ⟨m.increasing, fun s hs => ?_, fun s hs => ?_, m.random⟩
  · obtain ⟨t, ht, hid, hlikeness⟩ := m.live s hs
    exact ⟨t, ht, hid, by rw [flown, flown, hlikeness]⟩
  · obtain ⟨t, ht, hid, hlikeness⟩ := m.queued s hs
    exact ⟨t, ht, hid, by rw [flown, flown, hlikeness]⟩

variable {A A' : Step K → Prop} {b : Beat K} {beats : List (Beat K)}

/-- The mirror is kept by one beat. -/
lemma Mirrors.beat (m : Mirrors f e e') (h : Reached c config A e) (h' : Reached c config A' e')
    (fits : (e.beat b).bodies.Fits) (fits' : (e'.beat b).bodies.Fits)
    (quiet : ∀ v ∈ e'.turns b, Extra f e e' v.met.id → v.after.random = v.before.random) :
    ∃ f', Mirrored f f' e e' [b] := by
  have hcatalog : e'.catalog = e.catalog := h'.setting.1.trans h.setting.1.symm
  have hconfig : e'.config = e.config := h'.setting.2.trans h.setting.2.symm
  cases b with
  | tick world =>
    exact m.tick h.balanced h'.balanced h.inOrder h'.inOrder hcatalog hconfig fits fits' quiet
  | advance world =>
    obtain ⟨f', hf'⟩ := m.integrate.tick (balanced_poised h.balanced (.advance world))
      (balanced_poised h'.balanced (.advance world)) h.inOrder h'.inOrder hcatalog hconfig fits
      fits' quiet
    exact ⟨f', hf'.same, hf'.mirrors, hf'.extra, hf'.family⟩

section Same

variable {P' : ShotId → Prop}

/-- Only the numbers of shots that are there matter. -/
lemma offspring_congr (ho : e.registry.InOrder) (h : ∀ s ∈ e.shots, P s.id ↔ P' s.id)
    (b : Beat K) : e.offspring b P = e.offspring b P' := by
  funext i
  refine propext (exists_congr fun v => and_congr_right fun hv => and_congr_left fun _ => ?_)
  obtain ⟨s, hs, hid⟩ := exists_shot_turns ho hv
  rw [← hid]
  exact h s hs

lemma descend_congr (ho : e.registry.InOrder) (h : ∀ s ∈ e.shots, P s.id ↔ P' s.id) :
    ∀ t ∈ (e.run beats).shots, e.descend P beats t.id ↔ e.descend P' beats t.id := by
  cases beats with
  | nil => exact h
  | cons b beats =>
    intro t _
    rw [descend, descend, offspring_congr ho h]

lemma quiet_congr (ho : e.registry.InOrder) (h : ∀ s ∈ e.shots, P s.id ↔ P' s.id)
    (hq : e.Quiet P beats) : e.Quiet P' beats := by
  cases beats with
  | nil => trivial
  | cons b beats =>
    refine ⟨fun v hv hP => ?_, offspring_congr ho h b ▸ hq.2⟩
    obtain ⟨s, hs, hid⟩ := exists_shot_turns ho hv
    refine hq.1 v hv ?_
    rw [← hid] at hP ⊢
    exact (h s hs).mpr hP

end Same

lemma Mirrored.cons {f₁ f₂ : ShotId → ShotId} (h : Mirrored f f₁ e e' [b])
    (h₁ : Mirrored f₁ f₂ (e.beat b) (e'.beat b) beats) (ho' : (e'.beat b).registry.InOrder) :
    Mirrored f f₂ e e' (b :: beats) := by
  refine ⟨fun i hi => ?_, h₁.mirrors, fun t ht => ?_, fun P P' hP => ?_⟩
  · rw [h₁.same i (hi.trans (issued_le_beat e b)), h.same i hi]
  · exact (h₁.extra t ht).trans (descend_congr ho' h.extra t ht)
  · exact h₁.family _ _ (h.family P P' hP)

/-- **Shots do not disturb each other**, as long as handles tell the bodies apart. If an engine has
copies of all shots of another one, and its other shots and what descends from them draw no random
numbers, then after any beats it has copies of all shots of the other one again, children have
copies of children, and everything else in it descends from what was no copy. -/
theorem Mirrors.undisturbed (h : Reached c config A e) (h' : Reached c config A' e')
    (m : Mirrors f e e') (fits : (e.run beats).bodies.Fits) (fits' : (e'.run beats).bodies.Fits)
    (quiet : e'.Quiet (Extra f e e') beats) : ∃ f', Mirrored f f' e e' beats := by
  induction beats generalizing f e e' with
  | nil => exact ⟨f, fun _ _ => rfl, m, fun _ _ => Iff.rfl, fun P P' hP => hP⟩
  | cons b beats ih =>
    obtain ⟨f₁, h₁⟩ := m.beat h h' (fits_of_run fits) (fits_of_run fits') quiet.1
    have ho' := (h'.beat b).inOrder
    have hextra : ∀ t ∈ (e'.beat b).shots,
        e'.offspring b (Extra f e e') t.id ↔ Extra f₁ (e.beat b) (e'.beat b) t.id :=
      fun t ht => (h₁.extra t ht).symm
    obtain ⟨f₂, h₂⟩ := ih (h.beat b) (h'.beat b) h₁.mirrors fits fits'
      (quiet_congr ho' hextra quiet.2)
    exact ⟨f₂, h₁.cons h₂ ho'⟩

/-- A bullet that draws a random heading, alone and behind a carrier that draws nothing. -/
theorem undisturbed_scatter :
    let look : Template Float32 := ⟨"pellet", some ⟨7, 1, 2⟩, none, none, Vec.zero, []⟩
    let start : Engine Float32 := .new ⟨#[look]⟩ Config.default
    let behind := start.apply (.spawnCarrier ⟨.none, .enemyShot⟩ Vec.zero (.launch ⟨Vec.zero⟩))
    let call : Op Float32 :=
      .spawnDynamic ⟨.none, .enemyShot⟩ ⟨160, 120⟩ "pellet" (.scatter ⟨180, 30, 2⟩)
    let e := start.apply call
    let e' := behind.apply call
    let f := fun i : ShotId => (⟨i.raw + 1⟩ : ShotId)
    let beats : List (Beat Float32) := [.tick .empty, .advance .empty]
    Mirrors f e e' ∧ (e'.beat (.tick .empty)).random.drawn = 1 ∧
      ∃ f', Mirrored f f' e e' beats := by
  intro look start behind call e e' f beats
  let side : Side := ⟨.none, .enemyShot⟩
  let birth : Birth Float32 := ⟨⟨160, 120⟩, look.visual, some (.scatter ⟨180, 30, 2⟩)⟩
  have hid : Catalog.id? (⟨#[look]⟩ : Catalog Float32) "pellet" = some 0 := by decide +kernel
  have hfind : Catalog.find? (⟨#[look]⟩ : Catalog Float32) "pellet" = some look := by
    rw [Catalog.find?, hid]
    rfl
  have hcall (e : Engine Float32) (hc : e.catalog = ⟨#[look]⟩) :
      e.apply call = e.withStage (e.stage.add side birth) := by
    simp only [call, apply, spawnDynamic, Stage.spawnDynamic, hc, hfind]
    rfl
  have he : e = start.withStage (start.stage.add side birth) := hcall start rfl
  have he' : e' = behind.withStage (behind.stage.add side birth) := hcall behind rfl
  have h : Reached ⟨#[look]⟩ Config.default (fun _ => True) e :=
    Reached.new.call call fun _ _ => trivial
  have hbehind : Reached ⟨#[look]⟩ Config.default (fun _ => True) behind :=
    Reached.new.call _ fun _ _ => trivial
  have h' : Reached ⟨#[look]⟩ Config.default (fun _ => True) e' :=
    hbehind.call call fun _ _ => trivial
  have hissued : (e.run beats).registry.queue.issued ≤ UInt32.size := by
    rw [he]
    decide +kernel
  have hissued' : (e'.run beats).registry.queue.issued ≤ UInt32.size := by
    rw [he']
    decide +kernel
  have fits := (h.run beats).fits hissued
  have fits' := (h'.run beats).fits hissued'
  have hqueue : e.registry.queue.pending.toList = [start.stage.newborn side birth] := by
    rw [he]
    rfl
  have hqueue' : behind.stage.newborn side birth ∈ e'.registry.queue.pending.toList := by
    rw [he']
    exact List.mem_cons_of_mem _ (List.mem_singleton.mpr rfl)
  have hlook : (start.stage.newborn side birth).likeness e.bodies = .ofBirth side birth := by
    have hsound : start.stage.bodies.Sound := Arena.sound_empty
    have hfits := fits_of_run fits
    rw [he] at hfits ⊢
    exact Stage.likeness_newborn hsound hfits
  have hlook' : (behind.stage.newborn side birth).likeness e'.bodies = .ofBirth side birth := by
    have hsound : behind.stage.bodies.Sound := hbehind.balanced.sound
    have hfits := fits_of_run fits'
    rw [he'] at hfits ⊢
    exact Stage.likeness_newborn hsound hfits
  have m : Mirrors f e e' := by
    refine ⟨fun s _ t _ hlt => Nat.succ_lt_succ hlt, fun s hs => ?_, fun s hs => ?_, ?_⟩
    · rw [he] at hs
      cases hs
    · rw [hqueue] at hs
      obtain rfl := List.mem_singleton.mp hs
      exact ⟨behind.stage.newborn side birth, hqueue', rfl, hlook'.trans hlook.symm⟩
    · rw [he, he']
      exact (rfl : behind.random = start.random)
  have hextra : ∀ i, Extra f e e' i → i ≠ ⟨2⟩ := by
    rintro _ ⟨-, hnone⟩ rfl
    exact hnone (start.stage.newborn side birth)
      (List.mem_append_right _ (hqueue ▸ List.mem_singleton.mpr rfl)) rfl
  have quiet : e'.Quiet (Extra f e e') beats := by
    have hfirst : ∀ v ∈ e'.turns (.tick .empty), v.met.id ≠ ⟨2⟩ →
        v.after.random = v.before.random := by
      rw [he']
      decide +kernel
    have hsecond : ∀ v ∈ (e'.beat (.tick .empty)).turns (.advance .empty),
        v.after.random = v.before.random := by
      rw [he']
      decide +kernel
    exact ⟨fun v hv hP => hfirst v hv (hextra _ hP), fun v hv _ => hsecond v hv, trivial⟩
  have hdrawn : (e'.beat (.tick .empty)).random.drawn = 1 := by
    rw [he']
    decide +kernel
  exact ⟨m, hdrawn, m.undisturbed h h' fits fits' quiet⟩

end Engine

end Barrage
