import Barrage.Proofs.TwoPhase
import Mathlib.Data.List.Pairwise

/-!
The visits of ticks.

Every shot is visited once in a tick, and what is there after the tick comes of these visits: a shot
that was visited and kept, or one that was created in a visit. So each number that is in use then
belongs to one visit. A beat is a tick, or a tick with the flight of the bodies before it.
-/

namespace Barrage

variable {K : Type} [Scalar K]

namespace Engine

variable {c : Catalog K} {config : Config K} {world : World K} {v w : Visit K} {e : Engine K}

/-- What a visit does to its shot. -/
lemma shot_visit (h : act c config world v.before v.met = (v.outcome, v.after)) :
    v.outcome.shot = { v.met with step := v.outcome.shot.step } := by
  have := shot_act c config world v.before v.met
  rwa [h] at this

/-- The visits of a tick. -/
def tickVisits (e : Engine K) (world : World K) : List (Visit K) :=
  visits e.catalog e.config world ⟨⟨e.registry.advance.queue, e.bodies⟩, e.random⟩
    e.registry.advance.live

lemma met_tickVisits (e : Engine K) (world : World K) :
    (e.tickVisits world).map (·.met) = e.registry.advance.live := met_visits ..

lemma act_tickVisits (hv : v ∈ e.tickVisits world) :
    act e.catalog e.config world v.before v.met = (v.outcome, v.after) := act_of_mem_visits hv

lemma linked_tickVisits (e : Engine K) (world : World K) :
    Linked ⟨⟨e.registry.advance.queue, e.bodies⟩, e.random⟩ (e.tickVisits world)
      (e.pass world).2 := linked_visits ..

lemma live_tick (e : Engine K) (world : World K) : (e.tick world).2.registry.live =
    ((e.tickVisits world).filter (!·.outcome.retired)).map (·.outcome.shot) := by
  have houtcomes : (e.tickVisits world).map (·.outcome) = (e.pass world).1 := outcomes_visits ..
  rw [tick_eq, kept, ← houtcomes, List.filter_map, List.map_map]
  rfl

lemma queue_tick (e : Engine K) (world : World K) :
    (e.tick world).2.registry.queue.pending.toList = (e.tickVisits world).flatMap Visit.born := by
  have hqueue := ((linked_tickVisits e world).queue fun v hv => lawful_act (act_tickVisits hv)).1
  rw [tick_eq]
  simpa [Registry.advance] using hqueue

/-! ### Numbers -/

lemma ids_tickVisits (ho : e.registry.InOrder) (world : World K) :
    (e.tickVisits world).map (·.met.id) = e.shots.map (·.id) := by
  have hmet := congrArg (List.map (·.id)) (met_tickVisits e world)
  rw [List.map_map] at hmet
  refine hmet.trans ?_
  simp [Registry.live_advance ho, shots, Registry.shots, Shot.aged, Function.comp_def]

/-- The shots that are created in a tick are numbered on from the last number issued. -/
lemma ids_born (e : Engine K) (world : World K) :
    ((e.tickVisits world).flatMap Visit.born).map (·.id.raw) =
      List.range' (e.registry.queue.issued + 1)
        ((e.tickVisits world).flatMap Visit.born).length :=
  ((linked_tickVisits e world).queue fun _ hv => lawful_act (act_tickVisits hv)).2.1

lemma issued_lt_born (hv : v ∈ e.tickVisits world) {s : Shot K} (hs : s ∈ v.born) :
    e.registry.queue.issued < s.id.raw := by
  have hmem : s.id.raw ∈ ((e.tickVisits world).flatMap Visit.born).map (·.id.raw) :=
    List.mem_map_of_mem (f := fun s : Shot K => s.id.raw) (List.mem_flatMap.mpr ⟨v, hv, hs⟩)
  rw [ids_born, List.mem_range'_1] at hmem
  omega

lemma met_le_issued (ho : e.registry.InOrder) (hv : v ∈ e.tickVisits world) :
    v.met.id.raw ≤ e.registry.queue.issued := by
  have hmem : v.met.id ∈ e.shots.map (·.id) := by
    rw [← ids_tickVisits ho world]
    exact List.mem_map_of_mem (f := fun v : Visit K => v.met.id) hv
  obtain ⟨s, hs, hid⟩ := List.mem_map.mp hmem
  rw [← hid]
  exact (ho.issued s hs).2

/-- The number of the shot that is visited, or of one that is created in the visit. -/
def Visit.Brood (v : Visit K) (id : ShotId) : Prop := v.met.id = id ∨ ∃ s ∈ v.born, s.id = id

/-- No two visits have to do with one number. -/
lemma brood_unique (ho : e.registry.InOrder) (hv : v ∈ e.tickVisits world)
    (hw : w ∈ e.tickVisits world) {i : ShotId} (hvi : v.Brood i) (hwi : w.Brood i) : v = w := by
  rcases hvi with rfl | ⟨s, hs, rfl⟩ <;> rcases hwi with hid | ⟨t, ht, hid⟩
  · have hnodup : ((e.tickVisits world).map (·.met.id)).Nodup := ids_tickVisits ho world ▸ ho.nodup
    exact List.inj_on_of_nodup_map hnodup hv hw hid.symm
  · have hold := met_le_issued ho hv
    have hnew := issued_lt_born hw ht
    rw [hid] at hnew
    omega
  · have hold := met_le_issued ho hw
    have hnew := issued_lt_born hv hs
    rw [hid] at hold
    omega
  · have hnodup : ((e.tickVisits world).flatMap fun v => v.born.map (·.id.raw)).Nodup := by
      rw [← List.map_flatMap, ids_born]
      exact List.nodup_range'
    by_contra hne
    have : Std.Symm (Function.onFun List.Disjoint fun v : Visit K => v.born.map (·.id.raw)) :=
      ⟨fun _ _ h => List.disjoint_symm h⟩
    have hdisjoint := List.Pairwise.forall (List.nodup_flatMap.mp hnodup).2 hv hw hne
    exact hdisjoint (List.mem_map_of_mem hs) (List.mem_map.mpr ⟨t, ht, by rw [hid]⟩)

/-- What a tick leaves of a shot. -/
lemma mem_live_tick {s : Shot K} : s ∈ (e.tick world).2.registry.live ↔
    ∃ v ∈ e.tickVisits world, v.outcome.retired = false ∧ v.outcome.shot = s := by
  rw [live_tick, List.mem_map]
  simp only [List.mem_filter, Bool.not_eq_true', and_assoc]

lemma id_tickVisits (hv : v ∈ e.tickVisits world) :
    v.outcome.shot.id = v.met.id := by
  rw [shot_visit (act_tickVisits hv)]

/-- Every shot after a tick comes of a visit. -/
lemma exists_brood {s : Shot K} (hs : s ∈ (e.tick world).2.shots) :
    ∃ v ∈ e.tickVisits world, v.Brood s.id := by
  rcases List.mem_append.mp hs with hs | hs
  · obtain ⟨v, hv, -, rfl⟩ := mem_live_tick.mp hs
    exact ⟨v, hv, .inl (id_tickVisits hv).symm⟩
  · rw [queue_tick] at hs
    obtain ⟨v, hv, hs⟩ := List.mem_flatMap.mp hs
    exact ⟨v, hv, .inr ⟨s, hs, rfl⟩⟩

end Engine

/-! ### Beats -/

/-- A tick, or a tick with the flight of the bodies before it. -/
inductive Beat (K : Type) where
  | tick (world : World K)
  | advance (world : World K)

namespace Beat

def world : Beat K → World K
  | .tick world | .advance world => world

/-- The call that makes the beat. -/
def op : Beat K → Op K
  | .tick world => .tick world
  | .advance world => .advance world

end Beat

namespace Engine

/-- The engine whose shots are visited in a beat. -/
def poised (e : Engine K) : Beat K → Engine K
  | .tick _ => e
  | .advance _ => { e with bodies := e.bodies.integrate }

def beat (e : Engine K) (b : Beat K) : Engine K := ((e.poised b).tick b.world).2

def run (e : Engine K) (beats : List (Beat K)) : Engine K := beats.foldl beat e

/-- The visits of a beat. -/
def turns (e : Engine K) (b : Beat K) : List (Visit K) := (e.poised b).tickVisits b.world

variable {c : Catalog K} {config : Config K} {A : Step K → Prop} {e : Engine K} {b : Beat K}
  {v : Visit K}

lemma apply_op (e : Engine K) (b : Beat K) : e.apply b.op = e.beat b := by
  cases b <;> rfl

@[simp] lemma registry_poised (e : Engine K) (b : Beat K) :
    (e.poised b).registry = e.registry := by
  cases b <;> rfl

@[simp] lemma catalog_poised (e : Engine K) (b : Beat K) : (e.poised b).catalog = e.catalog := by
  cases b <;> rfl

@[simp] lemma config_poised (e : Engine K) (b : Beat K) : (e.poised b).config = e.config := by
  cases b <;> rfl

/-- What is a turn of a beat is a visit under the settings of the engine. -/
lemma act_turns (hv : v ∈ e.turns b) :
    act e.catalog e.config b.world v.before v.met = (v.outcome, v.after) := by
  rw [← catalog_poised e b, ← config_poised e b]
  exact act_tickVisits hv

lemma Reached.beat (h : Reached c config A e) (b : Beat K) : Reached c config A (e.beat b) := by
  rw [← apply_op]
  exact h.call b.op (by cases b <;> simp [Beat.op, Op.step?])

lemma Reached.run (h : Reached c config A e) (beats : List (Beat K)) :
    Reached c config A (e.run beats) := by
  induction beats generalizing e with
  | nil => exact h
  | cons b beats ih => exact ih (h.beat b)

lemma issued_le_beat (e : Engine K) (b : Beat K) :
    e.registry.queue.issued ≤ (e.beat b).registry.queue.issued := by
  obtain ⟨k, -, hissued⟩ := numbered_pass (e.poised b) b.world
  rw [registry_poised] at hissued
  rw [Engine.beat, tick_eq]
  exact hissued ▸ Nat.le_add_right _ k

/-- In a beat the shots that there are are visited. -/
lemma ids_turns (ho : e.registry.InOrder) (b : Beat K) :
    (e.turns b).map (·.met.id) = e.shots.map (·.id) := by
  have hids := ids_tickVisits (e := e.poised b) (by rwa [registry_poised]) b.world
  rwa [shots, registry_poised] at hids

omit [Scalar K] in
/-- A shot is met as it is but for its frame. -/
lemma exists_met (ho : e.registry.InOrder) {s : Shot K} (hs : s ∈ e.shots) :
    ∃ t ∈ e.registry.advance.live, t = { s with frame := t.frame } := by
  rw [Registry.live_advance ho]
  rcases List.mem_append.mp hs with hs | hs
  · exact ⟨s.aged, List.mem_append_left _ (List.mem_map_of_mem hs), rfl⟩
  · exact ⟨s, List.mem_append_right _ hs, rfl⟩

/-- Every shot has its turn in a beat. -/
lemma exists_turn (ho : e.registry.InOrder) (b : Beat K) {s : Shot K} (hs : s ∈ e.shots) :
    ∃ v ∈ e.turns b, v.met = { s with frame := v.met.frame } := by
  obtain ⟨t, ht, hsame⟩ := exists_met ho hs
  rw [← registry_poised e b, ← met_tickVisits (e.poised b) b.world] at ht
  obtain ⟨v, hv, rfl⟩ := List.mem_map.mp ht
  exact ⟨v, hv, hsame⟩

/-- No shot has two turns in a beat. -/
lemma turn_unique (ho : e.registry.InOrder) {w : Visit K} (hv : v ∈ e.turns b)
    (hw : w ∈ e.turns b) (hid : w.met.id = v.met.id) : w = v :=
  brood_unique (by rwa [registry_poised]) hw hv (.inl rfl) (.inl hid.symm)

lemma exists_shot_turns (ho : e.registry.InOrder) (hv : v ∈ e.turns b) :
    ∃ s ∈ e.shots, s.id = v.met.id := by
  refine List.mem_map.mp ?_
  rw [← ids_turns ho b]
  exact List.mem_map_of_mem (f := fun v : Visit K => v.met.id) hv

end Engine

end Barrage
