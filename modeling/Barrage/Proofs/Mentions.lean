import Barrage.Step.Run
import Mathlib.Tactic.Common

/-!
The names that come of running a step.

A step lists the templates that it fires. Whatever it orders in a turn is on that list, and so is
whatever the shots that it orders will fire in their turn: a branch of a fractal fires what the
fractal fires, a laser of a ring lays the segment of the ring. The step that a turn leaves lists
nothing new either. So the list of a step covers all that can ever come of it.
-/

namespace Barrage

variable {K : Type}

/-- All names that an order mentions, and all that the steps of its shots list, are among `names`.
-/
def Order.Within (names : List String) : Order K → Prop
  | .shots template _ each => template ∈ names ∧ ∀ i, (each i).2.references ⊆ names
  | .tree template _ => template ∈ names
  | .carriers _ each => ∀ i, (each i).2.references ⊆ names

structure Turn.Within (names : List String) (t : Turn K) : Prop where
  step : t.step.references ⊆ names
  orders : ∀ o ∈ t.orders, o.Within names

variable {names : List String}

/-- A step that orders nothing. -/
lemma Turn.within_quiet {t : Turn K} (hs : t.step.references ⊆ names) (ho : t.orders = []) :
    t.Within names :=
  ⟨hs, by simp [ho]⟩

variable [Scalar K]

lemma within_aimedVolley {template : String} (h : template ∈ names) (place : Vec K)
    (count : UInt32) (first turn speed speedStep : K) :
    (aimedVolley template place count first turn speed speedStep).Within names :=
  ⟨h, fun _ => List.nil_subset _⟩

omit [Scalar K] in
lemma within_emit {v : View K} {step : Step K} {orders : Vec K → List (Order K)}
    (hs : step.references ⊆ names) (ho : ∀ place, ∀ o ∈ orders place, o.Within names) :
    (emit v step orders).Within names := by
  rw [emit]
  split
  · exact Turn.within_quiet hs rfl
  · exact ⟨hs, ho _⟩

omit [Scalar K] in
lemma within_onPeriod {v : View K} {every : UInt32} {orders : List (Order K)}
    (h : ∀ o ∈ orders, o.Within names) : ∀ o ∈ onPeriod v every orders, o.Within names := by
  rw [onPeriod]
  split
  · exact h
  · simp

/-! ### The kinds that fire -/

lemma Burst.within_run (s : Burst K) (v : View K) :
    (s.run v).Within (Step.burst s).references := by
  refine ⟨fun _ h => h, fun o ho => ?_⟩
  obtain rfl := List.mem_singleton.mp ho
  exact ⟨.head _, fun _ => List.nil_subset _⟩

lemma Fan.within_run (s : Fan K) (v : View K) : (s.run v).Within (Step.fan s).references := by
  refine ⟨fun _ h => h, fun o ho => ?_⟩
  rcases List.mem_cons.mp ho with rfl | ho
  · exact ⟨.head _, fun _ => List.nil_subset _⟩
  · obtain ⟨base, hbase, rfl⟩ := List.mem_map.mp ho
    exact List.mem_cons_of_mem _ hbase

lemma Volley.within_run (s : Volley K) (v : View K) :
    (s.run v).Within (Step.volley s).references := by
  refine ⟨fun _ h => h, fun o ho => ?_⟩
  obtain rfl := List.mem_singleton.mp ho
  exact within_aimedVolley (.head _) ..

lemma LaserBurst.within_run (s : LaserBurst K) (v : View K) :
    (s.run v).Within (Step.laserBurst s).references := by
  refine ⟨fun _ h => h, fun o ho => ?_⟩
  obtain rfl := List.mem_singleton.mp ho
  exact fun _ _ h => h

lemma Flower.within_run (s : Flower K) (v : View K) :
    (s.run v).Within (Step.flower s).references := by
  refine within_emit (fun _ h => h) fun place => within_onPeriod fun o ho => ?_
  obtain rfl := List.mem_singleton.mp ho
  exact ⟨.head _, fun _ => List.nil_subset _⟩

lemma Spiral.within_run (s : Spiral K) (v : View K) :
    (s.run v).Within (Step.spiral s).references := by
  refine within_emit (fun _ h => h) fun place => within_onPeriod fun o ho => ?_
  obtain rfl := List.mem_singleton.mp ho
  exact ⟨.head _, fun _ => List.nil_subset _⟩

lemma Stream.within_run (s : Stream K) (v : View K) :
    (s.run v).Within (Step.stream s).references := by
  refine within_emit (fun _ h => h) fun place o ho => ?_
  rcases List.mem_append.mp ho with ho | ho
  · refine within_onPeriod (fun o ho => ?_) o ho
    obtain ⟨heading, -, rfl⟩ := List.mem_map.mp ho
    exact ⟨.head _, fun _ => List.nil_subset _⟩
  · obtain ⟨extra, hextra, ho⟩ := List.mem_flatMap.mp ho
    have hname : s.extra = some extra := Option.mem_toList.mp hextra
    refine within_onPeriod (fun o ho => ?_) o ho
    obtain rfl := List.mem_singleton.mp ho
    exact List.mem_cons_of_mem _ (by simp [hname])

lemma Rain.within_run (s : Rain K) (v : View K) (r : Random) :
    (s.run v r).1.Within (Step.rain s).references := by
  rw [Rain.run]
  split
  · exact Turn.within_quiet (fun _ h => h) rfl
  · refine ⟨fun _ h => h, fun o ho => ?_⟩
    rcases List.mem_append.mp ho with ho | ho
    · split at ho
      · obtain rfl := List.mem_singleton.mp ho
        exact ⟨.head _, fun _ => List.nil_subset _⟩
      · simp at ho
    · obtain ⟨volley, hvolley, ho⟩ := List.mem_flatMap.mp ho
      have hname : s.volley = some volley := Option.mem_toList.mp hvolley
      refine within_onPeriod (fun o ho => ?_) o ho
      obtain rfl := List.mem_singleton.mp ho
      exact within_aimedVolley (List.mem_cons_of_mem _ (by simp [hname])) ..

lemma Laser.within_run (s : Laser K) (v : View K) :
    (s.run v).Within (Step.laser s).references := by
  have hsegment : (if v.frame = 0 then s.start v else s).segment = s.segment := by
    split <;> rfl
  have hlist : (s.run v).step.references = [s.segment] := congrArg (fun name => [name]) hsegment
  refine ⟨?_, fun o ho => ?_⟩
  · rw [hlist]
    exact fun _ h => h
  · obtain rfl := List.mem_singleton.mp ho
    exact ⟨List.mem_singleton.mpr hsegment, fun _ => List.nil_subset _⟩

lemma Fractal.within_run (s : Fractal K) (v : View K) :
    (s.run v).Within (Step.fractal s).references := by
  rw [Fractal.run]
  split
  · exact Turn.within_quiet (fun _ h => h) rfl
  · split
    · exact Turn.within_quiet (fun _ h => h) rfl
    · refine ⟨fun _ h => h, fun o ho => ?_⟩
      obtain rfl := List.mem_singleton.mp ho
      exact ⟨.head _, fun _ _ h => h⟩

lemma Cascade.within_run (s : Cascade K) (v : View K) :
    (s.run v).Within (Step.cascade s).references := by
  refine within_emit (fun _ h => h) fun place => within_onPeriod fun o ho => ?_
  obtain rfl := List.mem_singleton.mp ho
  exact ⟨.head _, fun _ _ h => h⟩

/-! ### The kinds that only fly -/

lemma Homing.within_run (s : Homing K) (v : View K) : (s.run v).Within names := by
  simp only [Homing.run]
  split
  · exact Turn.within_quiet (List.nil_subset _) rfl
  · split <;> exact Turn.within_quiet (List.nil_subset _) rfl

lemma Wobble.within_run (s : Wobble K) (v : View K) (r : Random) :
    (s.run v r).1.Within names := by
  rw [Wobble.run]
  split
  · exact Turn.within_quiet (List.nil_subset _) rfl
  · split <;> exact Turn.within_quiet (List.nil_subset _) rfl

lemma Orbit.within_run (s : Orbit K) (v : View K) : (s.run v).Within names := by
  have hrelease : (s.release v).Within names := by
    rw [Orbit.release]
    split <;> exact Turn.within_quiet (List.nil_subset _) rfl
  rw [Orbit.run]
  split
  · exact hrelease
  · split
    · exact Turn.within_quiet (List.nil_subset _) rfl
    · exact hrelease

/-- **The list of a step covers its turns**, for every kind. -/
theorem Step.within_run (s : Step K) (v : View K) (r : Random) :
    (s.run v r).1.Within s.references := by
  cases s with
  | launch s | accelerate s | angled s | aimed s | scatter s | sway s | curve s | zigzag s
  | segment s => exact Turn.within_quiet (fun _ h => h) rfl
  | homing s => exact s.within_run v
  | wobble s => exact s.within_run v r
  | orbit s => exact s.within_run v
  | burst s => exact s.within_run v
  | fan s => exact s.within_run v
  | volley s => exact s.within_run v
  | flower s => exact s.within_run v
  | spiral s => exact s.within_run v
  | stream s => exact s.within_run v
  | rain s => exact s.within_run v r
  | laser s => exact s.within_run v
  | laserBurst s => exact s.within_run v
  | fractal s => exact s.within_run v
  | cascade s => exact s.within_run v

end Barrage
