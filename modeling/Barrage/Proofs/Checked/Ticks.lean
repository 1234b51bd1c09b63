import Barrage.Checked.Engine
import Barrage.Proofs.Catalog.Lookup
import Barrage.Proofs.Catalog.Unfolding
import Barrage.Proofs.Checked.Turns
import Barrage.Proofs.Heredity

/-!
Ticks that nothing stops.

A name is looked up by searching the templates, so the index that is found has one. The indices of
sub-shots are those of the loader, which has found them the same way, and the tree of a template
comes to an end, since the loader has refused the cycles. So over a catalog that was loaded whatever
a step orders is created, and a whole tick runs through unless the generator refuses a range that a
step draws from. The ranges of the steps that come of a tick are those of the steps that were there,
or ranges that are never refused, so what holds of one tick holds of all that follow.
-/

namespace Barrage

open Checked (Gives)
open Relation (TransGen)
open Scalar (nat)

lemma Checked.mapM_eq {α β : Type} {f : α → Checked β} {g : α → β} {xs : List α}
    (h : ∀ x ∈ xs, f x = .ok (g x)) : xs.mapM f = .ok (xs.map g) := by
  induction xs with
  | nil => rfl
  | cons x xs ih =>
    rw [List.mapM_cons, h x (by simp), ih fun y hy => h y (by simp [hy])]
    rfl

/-! ### Indices -/

namespace Catalog

variable {K : Type} [Scalar K] {c : Catalog K}

omit [Scalar K] in
lemma at?_of_getElem? {i : Nat} {t : Template K} (h : c.templates[i]? = some t) :
    c.at? i = .ok t := by
  rw [at?, h]

omit [Scalar K] in
/-- **A name that is found has a template.** -/
theorem lookup?_eq (c : Catalog K) (name : String) : c.lookup? name = .ok (c.find? name) := by
  rw [lookup?, find?]
  rcases hi : c.id? name with _ | i
  · rfl
  · obtain ⟨t, ht⟩ : ∃ t, c.templates[i]? = some t := by
      have hsome : (c.find? name).isSome = true := by rw [isSome_find?, hi]; rfl
      rw [find?, hi] at hsome
      exact Option.isSome_iff_exists.mp hsome
    simp [at?_of_getElem? ht, ht]

/-- What is unfolded at the end of a path has only indices with templates, and comes to an end, if
the depth is enough for the path to go on through all templates that are left. -/
lemma unfolded?_eq (hrange : c.InRange) (hacyclic : ∀ i, ¬ TransGen c.Edge i i) {fuel i : Nat}
    {path : List Nat} (hlead : c.Leads path i) (hfuel : c.size ≤ path.length + fuel)
    {t : Template K} (ht : c.templates[i]? = some t) (base : Vec K) :
    c.unfolded? fuel t base = .ok (c.unfold fuel t base) := by
  have hout : i ∉ path := fun hi => hacyclic i (hlead.reach i hi)
  induction fuel generalizing i path t base with
  | zero =>
    have := hlead.length_lt hout
    omega
  | succ fuel ih =>
    have hsub : ∀ s ∈ t.subShots, (do
        let u ← c.at? s.template
        c.unfolded? fuel u (base + t.offset + s.offset)) =
          .ok (c.templates[s.template]?.elim []
            fun u => c.unfold fuel u (base + t.offset + s.offset)) := by
      intro s hs
      have hedge : c.Edge i s.template := by
        rw [Edge, children, ht]
        exact List.mem_map_of_mem hs
      have hlt := hrange i _ hedge
      have hu : c.templates[s.template]? = some c.templates[s.template] :=
        Array.getElem?_eq_getElem hlt
      have hnext := hlead.cons hout hedge hlt
      rw [at?_of_getElem? hu, hu]
      exact ih hnext (by rw [List.length_cons]; omega) hu _ fun hi => hacyclic _ (hnext.reach _ hi)
    rw [unfolded?, unfold, Checked.mapM_eq hsub, List.flatMap_def]
    refine congrArg (fun rows => Except.ok ((t, base + t.offset) :: rows.flatten))
      (List.map_congr_left fun s _ => ?_)
    cases c.templates[s.template]? <;> rfl

/-- **The tree of a template is gone down to its end**, in every catalog that was loaded. -/
theorem tree?_of_load {ds : List Definition} {steps : StepLibrary K}
    (hload : ofDefinitions ds steps = .ok c) {t : Template K} (ht : t ∈ c.templates)
    (base : Vec K) : c.tree? t base = .ok (c.tree t base) := by
  obtain ⟨i, hi⟩ := List.mem_iff_getElem?.mp (Array.mem_toList_iff.mpr ht)
  rw [Array.getElem?_toList] at hi
  have hlt := (Array.getElem?_eq_some_iff.mp hi).1
  exact unfolded?_eq (inRange_of_load hload) (acyclic_of_load hload) (leads_nil hlt) (by simp) hi
    base

end Catalog

/-! ### Orders -/

namespace Stage

variable {K : Type} [Scalar K] {c : Catalog K} {ds : List Definition} {steps : StepLibrary K}

lemma obey?_of_load (hload : Catalog.ofDefinitions ds steps = .ok c) (st : Stage K) (side : Side)
    (o : Order K) : st.obey? c side o = .ok (st.obey c side o) := by
  rcases o with ⟨name, count, each⟩ | ⟨name, place⟩ | ⟨count, each⟩
  · rw [obey?, obey, Catalog.lookup?_eq]
    split
    · rfl
    · rcases c.find? name with _ | t <;> rfl
  · rw [obey?, obey, spawnTree, Catalog.lookup?_eq]
    rcases hf : c.find? name with _ | t
    · rfl
    · simp [Catalog.tree?_of_load hload (Catalog.find?_mem hf), Except.map]
  · rfl

/-- **Every order is carried out or fails for a name**, over a catalog that was loaded. -/
theorem obeyAll?_of_load (hload : Catalog.ofDefinitions ds steps = .ok c) (st : Stage K)
    (side : Side) (os : List (Order K)) :
    st.obeyAll? c side os = .ok (st.obeyAll c side os) := by
  induction os generalizing st with
  | nil => rfl
  | cons o os ih =>
    rw [obeyAll?, obeyAll, obey?_of_load hload, Checked.ok_bind]
    rcases st.obey c side o with e | st'
    · rfl
    · exact ih st'

end Stage

/-! ### What ranges are handed on -/

section Ranges

open Step (Drawable)

lemma Step.drawable_of_nil {s : Step Float32} (h : s.ranges = []) : s.Drawable := by
  simp [Drawable, h]

/-- Neither of the two ranges that are the same for all steps is refused. -/
lemma Step.drawable_rain (s : Rain Float32) : (Step.rain s).Drawable := by
  have h : Random.Admits (nat 0) (nat 1) := by decide +kernel
  exact List.forall_mem_singleton.mpr h

lemma Step.drawable_exactly (offset speed : Float32) :
    (Step.aimed (.exactly offset speed)).Drawable := by
  have h : Random.Admits (-nat 0) (nat 0) := by decide +kernel
  exact List.forall_mem_singleton.mpr h

lemma Homing.stepsIn_drawable (s : Homing Float32) (v : View Float32) :
    (s.run v).StepsIn Drawable := by
  simp only [Homing.run]
  split
  · exact .quiet (Step.drawable_of_nil rfl) rfl
  · split <;> exact .quiet (Step.drawable_of_nil rfl) rfl

lemma Wobble.stepsIn_drawable {s : Wobble Float32} (hs : (Step.wobble s).Drawable)
    (v : View Float32) (r : Random) : (s.run v r).1.StepsIn Drawable := by
  rw [Wobble.run]
  split
  · exact .quiet hs rfl
  · split <;> exact .quiet hs rfl

lemma Orbit.stepsIn_drawable (s : Orbit Float32) (v : View Float32) :
    (s.run v).StepsIn Drawable := by
  have hrelease : (s.release v).StepsIn Drawable := by
    rw [Orbit.release]
    split <;> exact .quiet (Step.drawable_of_nil rfl) rfl
  rw [Orbit.run]
  split
  · exact hrelease
  · split
    · exact .quiet (Step.drawable_of_nil rfl) rfl
    · exact hrelease

lemma stepsIn_emit {v : View Float32} {step : Step Float32}
    {orders : Vec Float32 → List (Order Float32)} (hs : step.Drawable)
    (ho : ∀ place, ∀ o ∈ orders place, o.StepsIn Drawable) :
    (emit v step orders).StepsIn Drawable := by
  rw [emit]
  split
  · exact .quiet hs rfl
  · exact ⟨hs, ho _⟩

lemma stepsIn_onPeriod {v : View Float32} {every : UInt32} {orders : List (Order Float32)}
    (h : ∀ o ∈ orders, o.StepsIn Drawable) : ∀ o ∈ onPeriod v every orders, o.StepsIn Drawable := by
  rw [onPeriod]
  split
  · exact h
  · simp

/-- The shots of a row draw from nothing, or from what they share. -/
lemma stepsIn_single {o : Order Float32} (h : o.StepsIn Drawable) :
    ∀ o' ∈ [o], o'.StepsIn Drawable := List.forall_mem_singleton.mpr h

lemma Stream.stepsIn_drawable (s : Stream Float32) (v : View Float32) :
    (s.run v).StepsIn Drawable := by
  refine stepsIn_emit (Step.drawable_of_nil rfl) fun place o ho => ?_
  rcases List.mem_append.mp ho with ho | ho
  · refine stepsIn_onPeriod (fun o ho => ?_) o ho
    obtain ⟨heading, -, rfl⟩ := List.mem_map.mp ho
    exact fun _ => Step.drawable_of_nil rfl
  · obtain ⟨extra, -, ho⟩ := List.mem_flatMap.mp ho
    refine stepsIn_onPeriod (fun o ho => ?_) o ho
    obtain rfl := List.mem_singleton.mp ho
    trivial

lemma Rain.stepsIn_drawable (s : Rain Float32) (v : View Float32) (r : Random) :
    (s.run v r).1.StepsIn Drawable := by
  rw [Rain.run]
  split
  · exact .quiet (Step.drawable_rain s) rfl
  · refine ⟨Step.drawable_rain s, fun o ho => ?_⟩
    rcases List.mem_append.mp ho with ho | ho
    · split at ho
      · obtain rfl := List.mem_singleton.mp ho
        exact fun _ => Step.drawable_of_nil rfl
      · simp at ho
    · obtain ⟨volley, -, ho⟩ := List.mem_flatMap.mp ho
      refine stepsIn_onPeriod (fun o ho => ?_) o ho
      obtain rfl := List.mem_singleton.mp ho
      exact fun _ => Step.drawable_exactly _ _

lemma Fractal.stepsIn_drawable (s : Fractal Float32) (v : View Float32) :
    (s.run v).StepsIn Drawable := by
  rw [Fractal.run]
  split
  · exact .quiet (Step.drawable_of_nil rfl) rfl
  · split
    · exact .quiet (Step.drawable_of_nil rfl) rfl
    · exact ⟨Step.drawable_of_nil rfl, stepsIn_single fun _ => Step.drawable_of_nil rfl⟩

/-- **No turn brings about a range that is refused**, if the ranges of its step are not. -/
theorem Step.handsOn_drawable : HandsOn Drawable := by
  intro s v r hs
  have hnil {s : Step Float32} (h : s.ranges = []) : s.Drawable := Step.drawable_of_nil h
  cases s with
  | launch s | accelerate s | angled s | aimed s | scatter s | sway s | curve s | zigzag s
  | segment s => exact .quiet hs rfl
  | homing s => exact s.stepsIn_drawable v
  | wobble s => exact Wobble.stepsIn_drawable hs v r
  | orbit s => exact s.stepsIn_drawable v
  | burst s => exact ⟨hs, stepsIn_single fun _ => hnil rfl⟩
  | fan s =>
    refine ⟨hs, fun o ho => ?_⟩
    rcases List.mem_cons.mp ho with rfl | ho
    · exact fun _ => hnil rfl
    · obtain ⟨base, -, rfl⟩ := List.mem_map.mp ho
      trivial
  | volley s => exact ⟨hs, stepsIn_single fun _ => Step.drawable_exactly _ _⟩
  | flower s => exact stepsIn_emit hs fun _ => stepsIn_onPeriod (stepsIn_single fun _ => hs)
  | spiral s => exact stepsIn_emit hs fun _ => stepsIn_onPeriod (stepsIn_single fun _ => hnil rfl)
  | stream s => exact s.stepsIn_drawable v
  | rain s => exact s.stepsIn_drawable v r
  | laser s => exact ⟨hnil rfl, stepsIn_single fun _ => hnil rfl⟩
  | laserBurst s => exact ⟨hs, stepsIn_single fun _ => hnil rfl⟩
  | fractal s => exact s.stepsIn_drawable v
  | cascade s => exact stepsIn_emit hs fun _ => stepsIn_onPeriod (stepsIn_single fun _ => hnil rfl)

end Ranges

/-! ### Turns and ticks -/

namespace Engine

section Loaded

variable {ds : List Definition} {steps : StepLibrary Float32} {c : Catalog Float32}
  (hload : Catalog.ofDefinitions ds steps = .ok c) (config : Config Float32) (world : World Float32)
include hload

lemma gives_runStep? (scene : Scene Float32) (s : Shot Float32) (step : Step Float32) :
    Gives (runStep? c config world scene s step) (runStep c config world scene s step)
      step.Drawable := by
  refine (step.gives_run? _ _).bind (.inl ?_)
  simp only [Stage.obeyAll?_of_load hload]
  rfl

lemma gives_act? (scene : Scene Float32) (s : Shot Float32) :
    Gives (act? c config world scene s) (act c config world scene s) (s.StepIn Step.Drawable) := by
  rw [act?, act]
  rcases hstep : s.step with _ | step
  · exact .inl rfl
  · have hrun := gives_runStep? hload config world scene s step
    exact (hrun.mono fun h => h step hstep).bind (.inl rfl)

lemma gives_actAll? (scene : Scene Float32) (ss : List (Shot Float32)) :
    Gives (actAll? c config world scene ss) (actAll c config world scene ss)
      (∀ s ∈ ss, s.StepIn Step.Drawable) := by
  induction ss generalizing scene with
  | nil => exact .inl rfl
  | cons s ss ih =>
    rw [actAll?, actAll]
    refine ((gives_act? hload config world scene s).mono fun h => h s (by simp)).bind ?_
    exact ((ih _).mono fun h t ht => h t (by simp [ht])).bind (.inl rfl)

end Loaded

/-- What nothing but a refused draw can stop, over a catalog. -/
structure Unstopped (c : Catalog Float32) : Prop where
  /-- The turn of a step of any kind with any parameters, at any frame of its shot, and the creation
  of all that it orders. -/
  turn : ∀ config world scene s step,
    Gives (runStep? c config world scene s step) (runStep c config world scene s step) step.Drawable
  /-- The turns of a tick. -/
  tick : ∀ e : Engine Float32, e.catalog = c → ∀ world,
    Gives (e.pass? world) (e.pass world) (∀ s ∈ e.shots, s.StepIn Step.Drawable)
  /-- What a tick leaves draws from no range that is refused, if none is before the tick. -/
  kept : c.StepsIn Step.Drawable → ∀ e : Engine Float32, e.catalog = c →
    (∀ s ∈ e.shots, s.StepIn Step.Drawable) →
      ∀ world, ∀ s ∈ (e.tick world).2.shots, s.StepIn Step.Drawable
  /-- The one division before a step runs is that of a ramp. -/
  ramp : ∀ first last start finish,
    Ramp.between? first last start finish = .ok (.between first last start finish)

/-- **No parameter stops a tick** of an engine over a catalog that was loaded. -/
theorem unstopped_of_load {ds : List Definition} {steps : StepLibrary Float32} {c : Catalog Float32}
    (hload : Catalog.ofDefinitions ds steps = .ok c) : Unstopped c where
  turn config world := gives_runStep? hload config world
  tick e he world := by
    subst he
    exact (gives_actAll? hload e.config world _ _).mono stepIn_advance
  kept hc e he h world := by
    subst he
    exact stepIn_tick world hc Step.handsOn_drawable h
  ramp := Ramp.between?_eq

/-- As many wobbling shots as there can be, in every tick, above a shot with a sub-shot. -/
theorem unstopped_of_load_rose :
    let ds : List Definition := [⟨[
      ⟨"Shot Rose", [("gimmick", .string "rose"), ("subshot0.name", .string "Dot")]⟩,
      ⟨"Shot Dot", [("animation", .integer 7)]⟩]⟩]
    let rose : Step Float32 := .flower ⟨"dot", 0, 0xFFFFFFFF, 1, 10, 0⟩
    ∃ c, Catalog.ofDefinitions ds (.ofList [("rose", rose)]) = .ok c ∧ c.size = 2 ∧ Unstopped c ∧
      let e : Engine Float32 :=
        (Engine.new c Config.default).apply (.spawnCarrier ⟨.none, .enemyShot⟩ Vec.zero rose)
      rose.Drawable ∧ ∀ world, e.pass? world = .ok (e.pass world) := by
  intro ds rose
  have hok : (Catalog.ofDefinitions ds (.ofList [("rose", rose)])).toOption.any
      (fun c => c.size = 2) = true := by decide +kernel
  have hrose : rose.Drawable := by
    have h : Random.Admits (-10) 10 := by decide +kernel
    exact List.forall_mem_singleton.mpr h
  rcases hload : Catalog.ofDefinitions ds (.ofList [("rose", rose)]) with err | c
  · rw [hload] at hok
    cases hok
  · rw [hload] at hok
    have hunstopped := unstopped_of_load hload
    refine ⟨c, rfl, of_decide_eq_true hok, hunstopped, hrose, fun world => ?_⟩
    refine (hunstopped.tick _ rfl world).eq_ok fun s hs step hstep => ?_
    obtain rfl := List.mem_singleton.mp hs
    cases hstep
    exact hrose

end Engine

end Barrage
