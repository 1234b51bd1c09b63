import Barrage.Proofs.Numbering
import Barrage.Proofs.Pass

/-!
The engines that can be reached.

From outside an engine can be ticked, shots can be created and removed, and bodies can be moved.
Whatever is called, one of a few changes comes of it: a row of births, a tick, the removal of all
shots with some property, or the motion of one body. What these changes keep holds of every engine
that is reached.
-/

namespace Barrage

variable {K : Type} [Scalar K]

/-! ### What can be called -/

inductive Op (K : Type) where
  | addShot (side : Side) (place : Vec K) (name : String)
  | addAngledShot (side : Side) (place : Vec K) (name : String) (heading speed : K)
  | addAimedShot (side : Side) (place : Vec K) (name : String) (offset speed : K)
  | spawnDynamic (side : Side) (place : Vec K) (name : String) (step : Step K)
  | spawnCarrier (side : Side) (place : Vec K) (step : Step K)
  | tick (world : World K)
  | advance (world : World K)
  | remove (id : ShotId)
  | onStruck (id : ShotId)
  | removeWhere (p : Shot K → Bool)
  | removeAllOwnedBy (list : CollisionList)
  | removeAllSimpleOwnedBy (list : CollisionList)
  | moveBody (body : BodyId) (m : Motion K)

/-- The step that a call brings along. -/
def Op.step? : Op K → Option (Step K)
  | .spawnDynamic _ _ _ step | .spawnCarrier _ _ step => some step
  | _ => none

namespace Engine

/-- The engine after the attempt to create a shot; a failure leaves it as it is. -/
def attempted (e : Engine K) : Except SpawnError (ShotId × Engine K) → Engine K
  | .ok (_, e') => e'
  | .error _ => e

def apply (e : Engine K) : Op K → Engine K
  | .addShot side place name => e.attempted (e.addShot side place name)
  | .addAngledShot side place name heading speed =>
    e.attempted (e.addAngledShot side place name heading speed)
  | .addAimedShot side place name offset speed =>
    e.attempted (e.addAimedShot side place name offset speed)
  | .spawnDynamic side place name step => e.attempted (e.spawnDynamic side place name step)
  | .spawnCarrier side place step => (e.spawnCarrier side place step).2
  | .tick world => (e.tick world).2
  | .advance world => (e.advance world).2
  | .remove id => (e.remove id).2
  | .onStruck id => (e.onStruck id).2
  | .removeWhere p => (e.removeWhere p).2
  | .removeAllOwnedBy list => (e.removeAllOwnedBy list).2
  | .removeAllSimpleOwnedBy list => (e.removeAllSimpleOwnedBy list).2
  | .moveBody body m => { e with bodies := e.bodies.move body m }

/-- The engines that calls lead to, where every step that a call brings along is one of `A`. -/
inductive Reached (c : Catalog K) (config : Config K) (A : Step K → Prop) : Engine K → Prop where
  | new : Reached c config A (.new c config)
  | call {e : Engine K} (op : Op K) (h : Reached c config A e)
      (hstep : ∀ step, op.step? = some step → A step) : Reached c config A (e.apply op)

/-! ### What comes of a call -/

/-- The steps of the shots that calls create: those brought along, those of the templates, and the
two that send a shot off. -/
inductive Admitted (c : Catalog K) (A : Step K → Prop) : Step K → Prop where
  | brought {step : Step K} (h : A step) : Admitted c A step
  | bound {t : Template K} {step : Step K} (ht : t ∈ c.templates) (h : t.step = some step) :
      Admitted c A step
  | angled (s : Angled K) : Admitted c A (.angled s)
  | aimed (s : Aimed K) : Admitted c A (.aimed s)

inductive Change (A : Step K → Prop) (e : Engine K) : Engine K → Prop where
  | create (side : Side) (bs : List (Birth K))
      (h : ∀ b ∈ bs, ∀ step, b.step = some step → Admitted e.catalog A step) :
      Change A e (e.withStage (e.stage.addAll side bs))
  | tick (world : World K) : Change A e (e.tick world).2
  | advance (world : World K) : Change A e (e.advance world).2
  | remove (p : Shot K → Bool) : Change A e (e.removeWhere p).2
  | move (body : BodyId) (m : Motion K) : Change A e { e with bodies := e.bodies.move body m }

variable {A : Step K → Prop} {e : Engine K}

/-- What comes of a call that creates shots: a row of births, without any if it fails. -/
def Created (A : Step K → Prop) (e e' : Engine K) : Prop :=
  ∃ side bs, (∀ b ∈ bs, ∀ step, b.step = some step → Admitted e.catalog A step) ∧
    e' = e.withStage (e.stage.addAll side bs)

lemma Created.change {e' : Engine K} (h : Created A e e') : Change A e e' := by
  obtain ⟨side, bs, hstep, rfl⟩ := h
  exact .create side bs hstep

lemma Created.same : Created A e e := ⟨⟨.none, .player⟩, [], by simp, rfl⟩

lemma created_addShot (side : Side) (place : Vec K) (name : String) :
    Created A e (e.attempted (e.addShot side place name)) := by
  rcases hf : e.catalog.find? name with _ | t
  · simpa [addShot, Stage.spawnTree, hf, Except.map, attempted] using Created.same
  · simp only [addShot, Stage.spawnTree, hf, Except.map, attempted, Stage.createAll_eq]
    refine ⟨side, _, fun b hb step hstep => ?_, rfl⟩
    obtain ⟨n, hn, rfl⟩ := List.mem_map.mp hb
    exact Admitted.bound (Catalog.unfold_mem (Catalog.find?_mem hf) hn) hstep

/-- The birth of one shot that runs a step. -/
lemma created_single (side : Side) (place : Vec K) (visual : Option (Visual K)) {step : Step K}
    (h : Admitted e.catalog A step) :
    Created A e (e.withStage (e.stage.add side ⟨place, visual, some step⟩)) := by
  refine ⟨side, [⟨place, visual, some step⟩], fun b hb step' hstep => ?_, rfl⟩
  obtain rfl := List.mem_singleton.mp hb
  cases hstep
  exact h

lemma created_spawnDynamic (side : Side) (place : Vec K) (name : String) {step : Step K}
    (h : Admitted e.catalog A step) :
    Created A e (e.attempted (e.spawnDynamic side place name step)) := by
  rcases hf : e.catalog.find? name with _ | t
  · simpa [spawnDynamic, Stage.spawnDynamic, hf, Except.map, attempted] using Created.same
  · simp only [spawnDynamic, Stage.spawnDynamic, hf, Except.map, attempted]
    exact created_single side place t.visual h

/-- **One of a few changes comes of every call.** -/
theorem change_apply (h : e.registry.InOrder) (op : Op K)
    (hstep : ∀ step, op.step? = some step → A step) : Change A e (e.apply op) := by
  cases op with
  | addShot side place name => exact (created_addShot side place name).change
  | addAngledShot side place name heading speed =>
    exact (created_spawnDynamic side place name (.angled _)).change
  | addAimedShot side place name offset speed =>
    exact (created_spawnDynamic side place name (.aimed _)).change
  | spawnDynamic side place name step =>
    exact (created_spawnDynamic side place name (.brought (hstep step rfl))).change
  | spawnCarrier side place step =>
    exact (created_single side place none (.brought (hstep step rfl))).change
  | tick world => exact .tick world
  | advance world => exact .advance world
  | remove id | onStruck id =>
    simp only [apply, onStruck, remove_eq h]
    exact .remove _
  | removeWhere p => exact .remove p
  | removeAllOwnedBy list => exact .remove _
  | removeAllSimpleOwnedBy list => exact .remove _
  | moveBody body m => exact .move body m

/-! ### What is kept -/

lemma inOrder_tick (h : e.registry.InOrder) (world : World K) :
    (e.tick world).2.registry.InOrder := by
  obtain ⟨k, hids, hissued⟩ := numbered_pass e world
  have hkept : ((e.kept world).map (·.id.raw)).Sublist (e.registry.shots.map (·.id.raw)) := by
    rw [← Registry.ids_live_advance h, ← e.map_shot_pass (·.id.raw) (fun _ _ => rfl) world, kept,
      List.map_map]
    exact List.filter_sublist.map _
  have hshots : (e.tick world).2.registry.shots.map (·.id.raw) =
      (e.kept world).map (·.id.raw) ++ List.range' (e.registry.queue.issued + 1) k := by
    have := congrArg (List.map fun s : Shot K => s.id.raw) (shots_tick e world)
    rwa [List.map_append, hids] at this
  have hlow : ∀ n ∈ (e.kept world).map (·.id.raw), 1 ≤ n ∧ n ≤ e.registry.queue.issued := by
    intro n hn
    obtain ⟨s, hs, rfl⟩ := List.mem_map.mp (hkept.subset hn)
    exact h.issued s hs
  refine ⟨?_, fun s hs => ?_⟩
  · rw [hshots, List.pairwise_append]
    refine ⟨h.sorted.sublist hkept, List.pairwise_lt_range', fun n hn m hm => ?_⟩
    have := (hlow n hn).2
    rw [List.mem_range'_1] at hm
    omega
  · have hs' := List.mem_map_of_mem (f := fun s : Shot K => s.id.raw) hs
    rw [hshots, List.mem_append, List.mem_range'_1] at hs'
    have hend : (e.tick world).2.registry.queue.issued = e.registry.queue.issued + k := by
      rw [tick_eq, hissued]
    rw [hend]
    rcases hs' with hs' | hs'
    · have := hlow _ hs'
      omega
    · omega

lemma Change.inOrder {e' : Engine K} (hc : Change A e e') (h : e.registry.InOrder) :
    e'.registry.InOrder := by
  cases hc with
  | create side bs => exact inOrder_addAll h side bs
  | tick world => exact inOrder_tick h world
  | advance world => exact inOrder_tick (e := { e with bodies := e.bodies.integrate }) h world
  | remove p => exact h.removeWhere p
  | move body m => exact h

lemma Change.setting {e' : Engine K} (hc : Change A e e') :
    e'.catalog = e.catalog ∧ e'.config = e.config := by
  cases hc <;> exact ⟨rfl, rfl⟩

variable {c : Catalog K} {config : Config K}

/-- The shots of every engine that is reached stand in the order of their numbers. -/
theorem Reached.inOrder (h : Reached c config A e) : e.registry.InOrder := by
  induction h with
  | new => exact Registry.inOrder_empty
  | call op _ hstep ih => exact (change_apply ih op hstep).inOrder ih

/-- **What every change keeps, holds of every engine that is reached.** -/
theorem Reached.induct {P : Engine K → Prop} (new : P (.new c config))
    (change : ∀ e e', Reached c config A e → Change A e e' → P e → P e')
    (h : Reached c config A e) : P e := by
  induction h with
  | new => exact new
  | call op h hstep ih => exact change _ _ h (change_apply h.inOrder op hstep) ih

lemma Reached.calls (h : Reached c config A e) {ops : List (Op K)}
    (hstep : ∀ op ∈ ops, ∀ step, op.step? = some step → A step) :
    Reached c config A (ops.foldl apply e) := by
  induction ops generalizing e with
  | nil => exact h
  | cons op ops ih =>
    exact ih (h.call op (hstep op (by simp))) fun op' h' => hstep op' (by simp [h'])

lemma Reached.setting (h : Reached c config A e) : e.catalog = c ∧ e.config = config := by
  refine h.induct (P := fun e => e.catalog = c ∧ e.config = config) ⟨rfl, rfl⟩
    fun e e' _ hc ih => ?_
  rw [hc.setting.1, hc.setting.2]
  exact ih

end Engine

end Barrage
