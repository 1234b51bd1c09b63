import Mathlib
import Barrage.Proofs.Footprint
import Barrage.Proofs.References
import Barrage.Scalar.Exact

/-!
Fans.

A fan fires once: one shot more than its count says, from one edge of its span to the other in equal
steps, each shot ahead of the center along its own heading, and then the tree of its base at the
center. Over exact numbers the headings therefore lie about straight up, and each has its mirror
image among them. A count of zero is the exception: its one shot takes the first heading, which is
the edge of the span and not the middle.
-/

namespace Barrage

open Engine (Scene runStep view moveAll turn birthsOf)

namespace Fan

variable {K : Type} [Scalar K]

/-- The births of the shots of a fan around a center. -/
def rays (f : Fan K) (t : Template K) (center : Vec K) : List (Birth K) :=
  Birth.row t.visual (f.count.toNat + 1) fun i =>
    (center + Heading.toVec (f.heading i), .angled ⟨f.heading i, f.speed⟩)

/-- The births of the base, if there is one. -/
def baseTree (f : Fan K) (c : Catalog K) (center : Vec K) : List (Birth K) :=
  ((f.base.bind c.find?).map fun t => (c.tree t center).map Birth.ofNode).getD []

/-- What has become of the stage `before` when a fan has fired around a center. -/
structure Fires (f : Fan K) (c : Catalog K) (center : Vec K) (side : Side)
    (before after : Stage K) (new : List (Shot K)) : Prop where
  /-- The shots of the fan and then those of the base, in order, under the next numbers. -/
  each : ∃ t, c.find? f.template = some t ∧
    List.Forall₂ (fun b s => b.1.Becomes before.bodies after.bodies side b.2 s)
      ((f.rays t center ++ f.baseTree c center).zipIdx (before.queue.issued + 1)) new
  /-- All else is as it was. -/
  footprint : Footprint none side before after new

variable {c : Catalog K} {scene : Scene K} {f : Fan K}

lemma births_base (hg : (Step.fan f).Grounded c) (center : Vec K) :
    Order.birthsAll c (f.base.toList.map (.tree · center)) = (f.baseTree c center, none) := by
  rcases hbase : f.base with _ | name
  · simp [Order.birthsAll, baseTree, hbase]
  · obtain ⟨t, ht⟩ := Catalog.find?_of_isSome
      (hg name (List.mem_cons_of_mem _ (by simp [hbase])))
    simp [Order.birthsAll, Order.births, baseTree, hbase, ht]

/-- What a fan creates is a matter of its center and of the catalog. -/
lemma births_run (hg : (Step.fan f).Grounded c) (v : View K) : ∃ t,
    c.find? f.template = some t ∧ Order.birthsAll c (f.run v).orders =
      (f.rays t (v.world.player.getD v.position) ++
        f.baseTree c (v.world.player.getD v.position), none) := by
  obtain ⟨t, ht⟩ := Catalog.find?_of_isSome (hg f.template (.head _))
  exact ⟨t, ht, Order.birthsAll_append (Order.birthsAll_shots ht _ _) (births_base hg _)⟩

lemma stage_runStep (hg : (Step.fan f).Grounded c) (config : Config K) (world : World K)
    (scene : Scene K) (s : Shot K) : ∃ t, c.find? f.template = some t ∧
    (runStep c config world scene s (.fan f)).1.stage = scene.stage.addAll ⟨s.owner, s.list⟩
      (f.rays t (world.player.getD (view config world scene.stage.bodies s).position) ++
        f.baseTree c (world.player.getD (view config world scene.stage.bodies s).position)) ∧
    (runStep c config world scene s (.fan f)).2 = (.fan f, .ok .finish) := by
  obtain ⟨t, ht, hbirths⟩ := births_run hg (view config world scene.stage.bodies s)
  have hmotions : moveAll scene.stage.bodies s.body [] = scene.stage.bodies := by
    rcases s.body with _ | b <;> rfl
  have hof : birthsOf c config world scene s (.fan f) =
      Order.birthsAll c (f.run (view config world scene.stage.bodies s)).orders := rfl
  rw [Engine.runStep_eq, hof, hbirths]
  refine ⟨t, ht, ?_, rfl⟩
  show Stage.addAll ⟨scene.stage.queue, moveAll scene.stage.bodies s.body []⟩ _ _ = _
  rw [hmotions]
  rfl

lemma exists_fires (hg : (Step.fan f).Grounded c) (hs : scene.stage.bodies.Sound)
    (config : Config K) (world : World K) (s : Shot K) : ∃ new,
    f.Fires c (world.player.getD (view config world scene.stage.bodies s).position)
      ⟨s.owner, s.list⟩ scene.stage (runStep c config world scene s (.fan f)).1.stage new := by
  obtain ⟨t, ht, hstage, -⟩ := stage_runStep hg config world scene s
  rw [hstage]
  exact ⟨_, ⟨t, ht, Stage.becomes_newborns hs _ _⟩, footprint_addAll hs none [] _ _⟩

end Fan

/-! ### Exact headings -/

/-- A direction as an upright mirror shows it. -/
def Vec.mirrored (v : Vec ℝ) : Vec ℝ := ⟨-v.x, v.y⟩

namespace Heading

lemma up_exact : (up : Vec ℝ) = ⟨0, -1⟩ := by simp [up]

lemma toVec_exact (degrees : ℝ) : toVec degrees =
    ⟨Real.sin (degrees * (Real.pi / 180)), -Real.cos (degrees * (Real.pi / 180))⟩ := by
  have hrotate : toVec degrees =
      ⟨Real.cos (degrees * (Real.pi / 180)) * 0 - Real.sin (degrees * (Real.pi / 180)) * -1,
        Real.sin (degrees * (Real.pi / 180)) * 0 + Real.cos (degrees * (Real.pi / 180)) * -1⟩ := by
    rw [toVec, up_exact]
    rfl
  rw [hrotate]
  congr 1 <;> ring

lemma toVec_zero : toVec (0 : ℝ) = up := by
  rw [toVec_exact, up_exact, zero_mul, Real.sin_zero, Real.cos_zero]

lemma toVec_neg (degrees : ℝ) : toVec (-degrees) = (toVec degrees).mirrored := by
  rw [toVec_exact, toVec_exact, Vec.mirrored, neg_mul, Real.sin_neg, Real.cos_neg]

end Heading

namespace Fan

/-- The headings of a fan, and the directions that they stand for. -/
structure Spread (f : Fan ℝ) : Prop where
  /-- Zero is straight up. -/
  middle : Heading.toVec (0 : ℝ) = Heading.up
  even : ∀ i < f.count.toNat, f.heading (i + 1) - f.heading i = f.span / f.count.toNat
  within : ∀ i ≤ f.count.toNat, |f.heading i| ≤ |f.span| / 2
  /-- They lie about straight up, unless there is one heading for a span. -/
  symmetric : (∀ i ≤ f.count.toNat, f.heading i = -f.heading (f.count.toNat - i)) ↔
    f.count ≠ 0 ∨ f.span = 0
  mirrored : f.count ≠ 0 ∨ f.span = 0 → ∀ i ≤ f.count.toNat,
    Heading.toVec (f.heading i) = (Heading.toVec (f.heading (f.count.toNat - i))).mirrored
  /-- The one heading is the edge of the span. -/
  alone : f.count = 0 → f.heading 0 = -f.span / 2

variable (f : Fan ℝ)

lemma heading_exact (i : ℕ) : f.heading i =
    -f.span / 2 + (if f.count = 0 then 0 else f.span / f.count.toNat) * i := by
  simp [heading]

lemma heading_alone (h : f.count = 0) (i : ℕ) : f.heading i = -f.span / 2 := by
  rw [heading_exact, if_pos h, zero_mul, add_zero]

variable {f} in
lemma count_pos (h : f.count ≠ 0) : (0 : ℝ) < f.count.toNat := by
  have hne : f.count.toNat ≠ 0 := fun h0 => h (UInt32.toNat_inj.mp h0)
  exact_mod_cast Nat.pos_of_ne_zero hne

/-- How far a heading lies from the middle of the span, as a share of it. -/
lemma heading_share (h : f.count ≠ 0) (i : ℕ) :
    f.heading i = f.span * (i / f.count.toNat - 1 / 2) := by
  rw [heading_exact, if_neg h]
  ring

lemma abs_heading_le {i : ℕ} (hi : i ≤ f.count.toNat) : |f.heading i| ≤ |f.span| / 2 := by
  by_cases h : f.count = 0
  · rw [f.heading_alone h, abs_div, abs_neg, abs_two]
  · have hle : (i : ℝ) / f.count.toNat ≤ 1 :=
      (div_le_one (count_pos h)).mpr (Nat.cast_le.mpr hi)
    have hge : 0 ≤ (i : ℝ) / f.count.toNat := by positivity
    have hhalf : |(i : ℝ) / f.count.toNat - 1 / 2| ≤ 1 / 2 := abs_le.mpr ⟨by linarith, by linarith⟩
    calc |f.heading i| = |f.span| * |(i : ℝ) / f.count.toNat - 1 / 2| := by
          rw [f.heading_share h, abs_mul]
      _ ≤ |f.span| * (1 / 2) := mul_le_mul_of_nonneg_left hhalf (abs_nonneg _)
      _ = |f.span| / 2 := by ring

lemma heading_symmetric : (∀ i ≤ f.count.toNat, f.heading i = -f.heading (f.count.toNat - i)) ↔
    f.count ≠ 0 ∨ f.span = 0 := by
  by_cases h : f.count = 0
  · simp only [f.heading_alone h, h, ne_eq, not_true_eq_false, false_or]
    constructor
    · intro hall
      have hfirst := hall 0 (Nat.zero_le _)
      linarith
    · intro hspan i _
      rw [hspan]
      norm_num
  · refine iff_of_true (fun i hi => ?_) (.inl h)
    rw [f.heading_share h, f.heading_share h, Nat.cast_sub hi, sub_div,
      div_self (count_pos h).ne']
    ring

lemma spread : f.Spread := by
  constructor
  case middle => exact Heading.toVec_zero
  case even =>
    intro i hi
    have h : f.count ≠ 0 := fun h0 => by simp [h0] at hi
    rw [f.heading_exact, f.heading_exact, if_neg h, Nat.cast_succ]
    ring
  case within => exact fun i hi => f.abs_heading_le hi
  case symmetric => exact f.heading_symmetric
  case mirrored =>
    intro h i hi
    rw [f.heading_symmetric.mpr h i hi, Heading.toVec_neg]
  case alone => exact fun h => f.heading_alone h 0

end Fan

namespace Engine

/-- **A fan fires about straight up** if it fires more than one shot or has no span: evenly, within
half the span to either side, with each heading opposite to another, and the base comes last. -/
theorem runStep_fan {c : Catalog ℝ} {scene : Scene ℝ} {f : Fan ℝ} (hg : (Step.fan f).Grounded c)
    (hs : scene.stage.bodies.Sound) (config : Config ℝ) (world : World ℝ) (s : Shot ℝ) :
    (∃ new, f.Fires c (world.player.getD (view config world scene.stage.bodies s).position)
        ⟨s.owner, s.list⟩ scene.stage (runStep c config world scene s (.fan f)).1.stage new) ∧
      (runStep c config world scene s (.fan f)).2 = (.fan f, .ok .finish) ∧ f.Spread := by
  obtain ⟨-, -, -, hanswer⟩ := Fan.stage_runStep hg config world scene s
  exact ⟨Fan.exists_fires hg hs config world s, hanswer, f.spread⟩

/-- A fan of three shots. -/
theorem runStep_fan_three :
    let dot : Template ℝ := ⟨"dot", some ⟨7, 1, 2⟩, none, none, Vec.zero, []⟩
    let f : Fan ℝ := ⟨"dot", 2, 60, 2, none⟩
    let s : Shot ℝ := ⟨⟨1⟩, 0, .none, Vec.zero, some (.fan f), .enemyShot, none, 0⟩
    let scene : Scene ℝ := ⟨⟨⟨#[], 1⟩, .empty⟩, .ofSeed 7⟩
    let after := (runStep ⟨#[dot]⟩ Config.default .empty scene s (.fan f)).1
    ∃ new, f.Fires ⟨#[dot]⟩ Vec.zero ⟨.none, .enemyShot⟩ scene.stage after.stage new ∧
      new.length = 3 ∧ ∀ i ≤ 2, f.heading i = -f.heading (2 - i) := by
  intro dot f s scene after
  have hg : ∀ name ∈ (Step.fan f).references,
      ((⟨#[dot]⟩ : Catalog ℝ).id? name).isSome = true := by decide +kernel
  have hs : scene.stage.bodies.Sound := Arena.sound_empty
  obtain ⟨⟨new, hfires⟩, -, hspread⟩ := runStep_fan hg hs Config.default .empty s
  refine ⟨new, hfires, ?_, hspread.symmetric.mpr (.inl (by decide))⟩
  obtain ⟨t, -, hall⟩ := hfires.each
  rw [← hall.length_eq]
  simp [Fan.rays, Fan.baseTree, f]

/-- The one shot of a fan whose count is zero flies along the edge of the span. -/
theorem runStep_fan_alone :
    let dot : Template ℝ := ⟨"dot", some ⟨7, 1, 2⟩, none, none, Vec.zero, []⟩
    let f : Fan ℝ := ⟨"dot", 0, 60, 2, none⟩
    let s : Shot ℝ := ⟨⟨1⟩, 0, .none, Vec.zero, some (.fan f), .enemyShot, none, 0⟩
    let scene : Scene ℝ := ⟨⟨⟨#[], 1⟩, .empty⟩, .ofSeed 7⟩
    let after := (runStep ⟨#[dot]⟩ Config.default .empty scene s (.fan f)).1
    (∃ x, after.stage.queue.pending.toList = [x] ∧ x.step = some (.angled ⟨-30, 2⟩)) ∧
      ¬ ∀ i ≤ f.count.toNat, f.heading i = -f.heading (f.count.toNat - i) := by
  intro dot f s scene after
  have hg : ∀ name ∈ (Step.fan f).references,
      ((⟨#[dot]⟩ : Catalog ℝ).id? name).isSome = true := by decide +kernel
  have hheading : f.heading 0 = -30 := by
    rw [f.heading_alone rfl]
    norm_num [f]
  constructor
  · obtain ⟨t, -, hstage, -⟩ := Fan.stage_runStep hg Config.default .empty scene s
    rw [hstage, Stage.pending_addAll]
    exact ⟨_, rfl, by rw [← hheading]; rfl⟩
  · intro hall
    have hfirst : f.heading 0 = -f.heading 0 := hall 0 (Nat.zero_le _)
    rw [hheading] at hfirst
    norm_num at hfirst

end Engine

end Barrage
