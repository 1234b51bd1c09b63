import Barrage.Proofs.Runs
import Barrage.Scalar.Single
import Mathlib.Algebra.GroupWithZero.Nat

/-!
A number is one shot for ever.

Numbers are issued in order and none is issued twice. So the numbers among the shots of a later
engine are old ones that are still in use, or lie above all that were issued before; a number that
has gone out of use stays out of use, and whoever asks for it is told that there is no such shot.
-/

namespace Barrage

variable {K : Type} [Scalar K]

/-- How many ticks a call makes. -/
def Op.ticks : Op K → Nat
  | .tick _ | .advance _ => 1
  | _ => 0

/-- A tree has its root. -/
lemma Catalog.length_tree_pos {c : Catalog K} {t : Template K} (ht : t ∈ c.templates)
    (place : Vec K) : 0 < (c.tree t place).length := by
  have hsize : 0 < c.size := Array.size_pos_of_mem ht
  obtain ⟨depth, hdepth⟩ := Nat.exists_eq_succ_of_ne_zero (Nat.ne_of_gt hsize)
  rw [Catalog.tree, hdepth, Catalog.unfold, List.length_cons]
  omega

namespace Engine

/-- The engines that come after one, and the number of ticks between: anything may be called, and
outside code may change the bodies as it likes. -/
inductive Later (e : Engine K) : Nat → Engine K → Prop where
  | refl : Later e 0 e
  | call {n : Nat} {e' : Engine K} (op : Op K) (h : Later e n e') :
      Later e (n + op.ticks) (e'.apply op)
  | disturb {n : Nat} {e' : Engine K} (bodies : Bodies K) (h : Later e n e') :
      Later e n { e' with bodies }

variable {e e' e'' : Engine K} {n m : Nat}

lemma Later.trans (h : Later e n e') (h' : Later e' m e'') : Later e (n + m) e'' := by
  induction h' with
  | refl => exact h
  | call op _ ih =>
    rw [← Nat.add_assoc]
    exact ih.call op
  | disturb bodies _ ih => exact ih.disturb bodies

lemma Later.calls (h : Later e n e') (ops : List (Op K)) :
    Later e (n + (ops.map Op.ticks).sum) (ops.foldl apply e') := by
  induction ops generalizing n e' with
  | nil => exact h
  | cons op ops ih =>
    rw [List.map_cons, List.sum_cons, ← Nat.add_assoc]
    exact ih (h.call op)

lemma Later.inOrder (h : Later e n e') (ho : e.registry.InOrder) : e'.registry.InOrder := by
  induction h with
  | refl => exact ho
  | call op _ ih => exact (change_apply (A := fun _ => True) ih op fun _ _ => trivial).inOrder ih
  | disturb bodies _ ih => exact ih

/-- The catalog and the settings are the same for ever. -/
lemma Later.setting (h : Later e n e') (ho : e.registry.InOrder) :
    e'.catalog = e.catalog ∧ e'.config = e.config := by
  induction h with
  | refl => exact ⟨rfl, rfl⟩
  | call op h ih =>
    have hc := change_apply (A := fun _ => True) (h.inOrder ho) op fun _ _ => trivial
    exact ⟨hc.setting.1.trans ih.1, hc.setting.2.trans ih.2⟩
  | disturb bodies _ ih => exact ih

/-! ### The numbers that are in use -/

/-- What becomes of the numbers in use from one registry to a later one. -/
structure Onward (r r' : Registry K) : Prop where
  issued : r.queue.issued ≤ r'.queue.issued
  /-- A number in use was in use before, or it is a new one. -/
  used : ∀ s ∈ r'.shots, (∃ t ∈ r.shots, t.id = s.id) ∨ r.queue.issued < s.id.raw

omit [Scalar K] in
lemma Onward.refl (r : Registry K) : Onward r r := ⟨Nat.le_refl _, fun s hs => .inl ⟨s, hs, rfl⟩⟩

omit [Scalar K] in
lemma Onward.trans {r r' r'' : Registry K} (h : Onward r r') (h' : Onward r' r'') :
    Onward r r'' := by
  refine ⟨Nat.le_trans h.issued h'.issued, fun s hs => ?_⟩
  rcases h'.used s hs with ⟨t, ht, hid⟩ | hnew
  · rw [← hid]
    exact h.used t ht
  · exact .inr (Nat.lt_of_le_of_lt h.issued hnew)

lemma onward_tick (ho : e.registry.InOrder) (world : World K) :
    Onward e.registry (e.tick world).2.registry := by
  obtain ⟨k, hids, hissued⟩ := numbered_pass e world
  refine ⟨?_, fun s hs => ?_⟩
  · rw [tick_eq]
    simp only
    omega
  · have hs' : s ∈ e.kept world ++ (e.pass world).2.stage.queue.pending.toList := by
      rw [← shots_tick]
      exact hs
    rcases List.mem_append.mp hs' with hkept | hborn
    · left
      obtain ⟨o, ho', rfl⟩ := List.mem_map.mp hkept
      have hid : o.shot.id ∈ (e.pass world).1.map (·.shot.id) :=
        List.mem_map_of_mem (List.mem_filter.mp ho').1
      rw [e.map_shot_pass (·.id) (fun _ _ => rfl), Registry.live_advance ho] at hid
      simpa [Registry.shots, Shot.aged, or_and_right, exists_or] using hid
    · right
      have hn := List.mem_map_of_mem (f := fun s : Shot K => s.id.raw) hborn
      rw [hids, List.mem_range'_1] at hn
      omega

lemma Change.onward {A : Step K → Prop} (hc : Change A e e') (ho : e.registry.InOrder) :
    Onward e.registry e'.registry := by
  cases hc with
  | create side bs =>
    refine ⟨?_, fun s hs => ?_⟩
    · have hend : (e.withStage (e.stage.addAll side bs)).registry.queue.issued =
          e.registry.queue.issued + bs.length := Stage.issued_addAll e.stage side bs
      omega
    · rw [shots_addAll] at hs
      rcases List.mem_append.mp hs with hs | hs
      · exact .inl ⟨s, hs, rfl⟩
      · have hn := List.mem_map_of_mem (f := fun s : Shot K => s.id.raw) hs
        rw [Stage.ids_newborns, List.mem_range'_1] at hn
        exact .inr hn.1
  | tick world => exact onward_tick ho world
  | advance world => exact onward_tick (e := { e with bodies := e.bodies.integrate }) ho world
  | remove p =>
    refine ⟨Nat.le_refl _, fun s hs => .inl ⟨s, ?_, rfl⟩⟩
    rw [removeWhere, Registry.shots_removeWhere] at hs
    exact (List.mem_filter.mp hs).1
  | move body m => exact .refl _

lemma Later.onward (h : Later e n e') (ho : e.registry.InOrder) :
    Onward e.registry e'.registry := by
  induction h with
  | refl => exact .refl _
  | call op h ih =>
    have hin := h.inOrder ho
    exact ih.trans
      ((change_apply (A := fun _ => True) hin op fun _ _ => trivial).onward hin)
  | disturb bodies _ ih => exact ih

/-! ### What is asked about a number -/

omit [Scalar K] in
lemma find?_eq_some (ho : e.registry.InOrder) {id : ShotId} {s : Shot K} :
    e.find? id = some s ↔ s ∈ e.shots ∧ s.id = id := by
  constructor
  · intro h
    exact ⟨List.mem_of_find?_eq_some h, by simpa using List.find?_some h⟩
  · rintro ⟨hs, rfl⟩
    have hsome : (e.find? s.id).isSome = true := List.find?_isSome.mpr ⟨s, hs, beq_self_eq_true _⟩
    obtain ⟨t, ht⟩ := Option.isSome_iff_exists.mp hsome
    have hid : t.id = s.id := by simpa using List.find?_some ht
    rw [ht, ho.eq_of_id (List.mem_of_find?_eq_some ht) hs hid]

/-- There is no shot of a number, whoever asks. -/
structure Gone (e : Engine K) (id : ShotId) : Prop where
  find : e.find? id = none
  remove : (e.remove id).1 = false
  struck : (e.onStruck id).1 = false
  damage : e.contactDamage id = none

omit [Scalar K] in
lemma gone_of_find? {id : ShotId} (h : e.find? id = none) : e.Gone id := by
  have hremove : (e.remove id).1 = false := by
    rw [find?] at h
    rw [Engine.remove, h]
  exact ⟨h, hremove, hremove, by rw [contactDamage, h]; rfl⟩

/-- **A number that has gone out of use stays out of use.** -/
theorem Later.gone (h : Later e n e') (ho : e.registry.InOrder) {id : ShotId}
    (hissued : id.raw ≤ e.registry.queue.issued) (hnone : e.find? id = none) : e'.Gone id := by
  refine gone_of_find? (Option.eq_none_iff_forall_ne_some.mpr fun s hs => ?_)
  obtain ⟨hmem, rfl⟩ := (find?_eq_some (h.inOrder ho)).mp hs
  rcases (h.onward ho).used s hmem with ⟨t, ht, hid⟩ | hnew
  · have : e.find? s.id = some t := (find?_eq_some ho).mpr ⟨ht, hid⟩
    rw [hnone] at this
    cases this
  · omega

/-! ### What is answered to whoever creates a shot -/

/-- A call that creates a shot answers a number and leaves an engine. -/
inductive Spawns (e : Engine K) (id : ShotId) (e' : Engine K) : Prop where
  | shot (side : Side) (place : Vec K) (name : String)
      (h : e.addShot side place name = .ok (id, e'))
  | angled (side : Side) (place : Vec K) (name : String) (heading speed : K)
      (h : e.addAngledShot side place name heading speed = .ok (id, e'))
  | aimed (side : Side) (place : Vec K) (name : String) (offset speed : K)
      (h : e.addAimedShot side place name offset speed = .ok (id, e'))
  | dynamic (side : Side) (place : Vec K) (name : String) (step : Step K)
      (h : e.spawnDynamic side place name step = .ok (id, e'))
  | carrier (side : Side) (place : Vec K) (step : Step K)
      (h : e.spawnCarrier side place step = (id, e'))

/-- Whoever creates a shot calls the engine. -/
lemma Spawns.later {id : ShotId} (h : Spawns e id e') : Later e 0 e' := by
  cases h with
  | shot side place name h =>
    have hcall := Later.refl.call (e := e) (.addShot side place name)
    rwa [apply, h] at hcall
  | angled side place name heading speed h =>
    have hcall := Later.refl.call (e := e) (.addAngledShot side place name heading speed)
    rwa [apply, h] at hcall
  | aimed side place name offset speed h =>
    have hcall := Later.refl.call (e := e) (.addAimedShot side place name offset speed)
    rwa [apply, h] at hcall
  | dynamic side place name step h =>
    have hcall := Later.refl.call (e := e) (.spawnDynamic side place name step)
    rwa [apply, h] at hcall
  | carrier side place step h =>
    have hcall := Later.refl.call (e := e) (.spawnCarrier side place step)
    rwa [apply, h] at hcall

/-- The number answered is the next one, and it counts as issued from then on. -/
def Next (e : Engine K) (id : ShotId) (e' : Engine K) : Prop :=
  id.raw = e.registry.queue.issued + 1 ∧ id.raw ≤ e'.registry.queue.issued

lemma next_addShot {side : Side} {place : Vec K} {name : String} {id : ShotId}
    (h : e.addShot side place name = .ok (id, e')) : Next e id e' := by
  rw [addShot, Stage.spawnTree] at h
  rcases hf : e.catalog.find? name with _ | t
  · rw [hf] at h
    cases h
  · rw [hf] at h
    cases h
    have htree := Catalog.length_tree_pos (Catalog.find?_mem hf) place
    refine ⟨rfl, ?_⟩
    simp only [withStage, Stage.createAll_eq, Stage.issued_addAll, List.length_map]
    omega

lemma next_spawnDynamic {side : Side} {place : Vec K} {name : String} {step : Step K}
    {id : ShotId} (h : e.spawnDynamic side place name step = .ok (id, e')) : Next e id e' := by
  rw [spawnDynamic, Stage.spawnDynamic] at h
  rcases hf : e.catalog.find? name with _ | t
  · rw [hf] at h
    cases h
  · rw [hf] at h
    cases h
    exact ⟨rfl, Nat.le_refl _⟩

lemma Spawns.next {id : ShotId} (h : Spawns e id e') : Next e id e' := by
  cases h with
  | shot side place name h => exact next_addShot h
  | angled side place name heading speed h => exact next_spawnDynamic h
  | aimed side place name offset speed h => exact next_spawnDynamic h
  | dynamic side place name step h => exact next_spawnDynamic h
  | carrier side place step h =>
    cases h
    exact ⟨rfl, Nat.le_refl _⟩

/-! ### Identity -/

/-- What numbers are good for, in an engine and in all that come after it. -/
structure Identity (e : Engine K) : Prop where
  live : (e.registry.live.map (·.id.raw)).Pairwise (· < ·)
  queued : (e.registry.queue.pending.toList.map (·.id.raw)).Pairwise (· < ·)
  behind : ∀ s ∈ e.registry.live, ∀ t ∈ e.registry.queue.pending.toList, s.id.raw < t.id.raw
  bounds : ∀ s ∈ e.shots, 1 ≤ s.id.raw ∧ s.id.raw ≤ e.registry.queue.issued
  /-- Whoever goes through all shots meets each once, in the order of the numbers. -/
  visited : (e.shots.map (·.id.raw)).Pairwise (· < ·)
  found : ∀ id s, e.find? id = some s ↔ s ∈ e.shots ∧ s.id = id
  size : e.size = e.shots.length
  onward : ∀ n e', Later e n e' → Onward e.registry e'.registry
  /-- A new shot gets a number above all that were ever issued, to shots that steps create as well
  as to those that were asked for. -/
  fresh : ∀ n e' id e'', Later e n e' → Spawns e' id e'' → e.registry.queue.issued < id.raw
  answered : ∀ id e₁ n e' id' e'', Spawns e id e₁ → Later e₁ n e' → Spawns e' id' e'' →
    id.raw < id'.raw
  /-- A shot that was removed is never found again. -/
  removed : ∀ s ∈ e.shots, ∀ n e' m e'', Later e n e' → e'.find? s.id = none →
    Later e' m e'' → e''.Gone s.id

/-- **A number is one shot for ever**, in every engine that is reached, whatever is called and
whatever is done to the bodies. -/
theorem Later.identity {c : Catalog K} {config : Config K} (h : Later (.new c config) n e) :
    Identity e := by
  have ho : e.registry.InOrder := h.inOrder Registry.inOrder_empty
  have hsorted := ho.sorted
  rw [Registry.shots, List.map_append, List.pairwise_append] at hsorted
  obtain ⟨hlive, hqueued, hbehind⟩ := hsorted
  constructor
  case live => exact hlive
  case queued => exact hqueued
  case behind =>
    exact fun s hs t ht => hbehind _ (List.mem_map_of_mem hs) _ (List.mem_map_of_mem ht)
  case bounds => exact ho.issued
  case visited => exact ho.sorted
  case found => exact fun id s => find?_eq_some ho
  case size => exact (Registry.length_shots _).symm
  case onward => exact fun n e' h' => h'.onward ho
  case fresh =>
    intro n e' id e'' h' hs
    have hissued := (h'.onward ho).issued
    have hnext := hs.next.1
    omega
  case answered =>
    intro id e₁ n e' id' e'' hs h' hs'
    have hissued := (h'.onward (hs.later.inOrder ho)).issued
    have hnext := hs.next.2
    have hnext' := hs'.next.1
    omega
  case removed =>
    intro s hs n e' m e'' h' hnone h''
    have hissued := (h'.onward ho).issued
    have hbound := (ho.issued s hs).2
    exact h''.gone (h'.inOrder ho) (Nat.le_trans hbound hissued) hnone

/-- A pair of shots and a carrier that fires a ring. The second of the pair is struck, and its
number is not found again after the tick in which the ring comes about. -/
theorem identity_struck :
    let dot : Template Float32 := ⟨"dot", some ⟨7, 1, 2⟩, none, none, Vec.zero, []⟩
    let pair : Template Float32 := ⟨"pair", none, none, none, Vec.zero, [⟨0, Vec.zero⟩]⟩
    let calls : List (Op Float32) :=
      [.addShot ⟨.none, .enemyShot⟩ Vec.zero "pair",
        .spawnCarrier ⟨.none, .enemyShot⟩ Vec.zero (.burst ⟨"dot", 2, 0, 1⟩)]
    let e := calls.foldl apply (.new ⟨#[dot, pair]⟩ Config.default)
    let e' := (e.onStruck ⟨2⟩).2
    let e'' := (e'.advance .empty).2
    Identity e ∧ Identity e'' ∧ e''.shots.map (·.id.raw) = [4, 5] ∧ e''.Gone ⟨2⟩ := by
  intro dot pair calls e e' e''
  have h : Later (.new ⟨#[dot, pair]⟩ Config.default) _ e := Later.calls .refl calls
  have hstrike : Later e 0 e' := Later.refl.call (.onStruck ⟨2⟩)
  have htick : Later e' 1 e'' := Later.refl.call (.advance .empty)
  have hthere : (e.find? ⟨2⟩).isSome = true := by decide +kernel
  obtain ⟨s, hs⟩ := Option.isSome_iff_exists.mp hthere
  obtain ⟨hmem, hid⟩ := (h.identity.found _ s).mp hs
  have hgone := h.identity.removed s hmem _ e' _ e'' hstrike (by rw [hid]; decide +kernel) htick
  exact ⟨h.identity, ((h.trans hstrike).trans htick).identity, by decide +kernel, hid ▸ hgone⟩

end Engine

end Barrage
