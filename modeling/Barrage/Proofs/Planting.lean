import Barrage.Proofs.Catalog.Unfolding
import Barrage.Proofs.Footprint
import Barrage.Proofs.Runs

/-!
The shots of a tree.

Whoever asks for a template gets a shot for every node of its tree, and gets them all: the shots
stand in the order of the nodes, under the numbers that come next, each where its node lies, with
the step and the look of its template. The number that is answered is that of the root. Who asks for
a template that is not there gets none, and nothing has changed.
-/

namespace Barrage

open Catalog (Unfolds)

variable {K : Type} [Scalar K]

/-- What has become of the stage `before` when the shots `new` were created for nodes of a tree. -/
structure Planted (side : Side) (nodes : List (Template K × Vec K)) (before after : Stage K)
    (new : List (Shot K)) : Prop where
  /-- One shot for every node, in order, under the next numbers. -/
  each : List.Forall₂ (fun n s =>
    (Birth.ofNode n.1).Becomes before.bodies after.bodies side n.2 s)
    (nodes.zipIdx (before.queue.issued + 1)) new
  /-- All else is as it was. -/
  footprint : Footprint none side before after new

lemma planted_createAll {st : Stage K} (hs : st.bodies.Sound) (side : Side)
    (nodes : List (Template K × Vec K)) :
    Planted side nodes st (st.createAll side nodes)
      (st.newborns side (nodes.map Birth.ofNode)) := by
  rw [Stage.createAll_eq]
  have heach := Stage.becomes_newborns hs side (nodes.map Birth.ofNode)
  rw [List.zipIdx_map, List.forall₂_map_left_iff] at heach
  exact ⟨heach, footprint_addAll hs none [] side _⟩

namespace Engine

/-- Whoever asks for a template is refused, and nothing has changed. -/
structure Refuses (e : Engine K) (side : Side) (place : Vec K) (name : String) : Prop where
  shot : e.addShot side place name = .error (.unknownTemplate name)
  dynamic : ∀ step, e.spawnDynamic side place name step = .error (.unknownTemplate name)
  kept : e.apply (.addShot side place name) = e
  keptDynamic : ∀ step, e.apply (.spawnDynamic side place name step) = e
  /-- Steps are refused as well, and the orders that they have left are not carried out. -/
  ordered : ∀ (st : Stage K) os, st.obeyAll e.catalog side (.tree name place :: os) =
    (st, some (.unknownTemplate name))
  orderedShots : ∀ (st : Stage K) os count each, count ≠ 0 →
    st.obeyAll e.catalog side (.shots name count each :: os) = (st, some (.unknownTemplate name))

variable {e : Engine K}

lemma refuses_of_find? {name : String} (h : e.catalog.find? name = none) (side : Side)
    (place : Vec K) : e.Refuses side place name := by
  have hshot : e.addShot side place name = .error (.unknownTemplate name) := by
    rw [addShot, Stage.spawnTree, h]
    rfl
  have hdynamic (step : Step K) :
      e.spawnDynamic side place name step = .error (.unknownTemplate name) := by
    rw [spawnDynamic, Stage.spawnDynamic, h]
    rfl
  constructor
  case shot => exact hshot
  case dynamic => exact hdynamic
  case kept => rw [apply, hshot, attempted]
  case keptDynamic =>
    intro step
    rw [apply, hdynamic, attempted]
  case ordered =>
    intro st os
    rw [Stage.obeyAll, Stage.obey, Stage.spawnTree, h]
    rfl
  case orderedShots =>
    intro st os count each hcount
    rw [Stage.obeyAll, Stage.obey, if_neg hcount, h]

/-- **A template that is asked for is created with its whole tree**, and nothing else changes, in
any engine over a catalog that was loaded. -/
theorem addShot_exact {ds : List Definition} {steps : StepLibrary K}
    (hload : Catalog.ofDefinitions ds steps = .ok e.catalog) (hs : e.bodies.Sound) (side : Side)
    (place : Vec K) (name : String) :
    match e.catalog.find? name with
    | none => e.Refuses side place name
    | some t => ∃ nodes st new, (∀ ns, e.catalog.Unfolds t place ns ↔ ns = nodes) ∧
        e.addShot side place name = .ok (⟨e.registry.queue.issued + 1⟩, e.withStage st) ∧
        e.stage.obey e.catalog side (.tree name place) = .ok st ∧
        Planted side nodes e.stage st new := by
  rcases hfind : e.catalog.find? name with _ | t
  · exact refuses_of_find? hfind side place
  · refine ⟨e.catalog.tree t place, e.stage.createAll side (e.catalog.tree t place), _,
      Catalog.unfolds_iff hload (Catalog.find?_mem hfind) place, ?_, ?_,
      planted_createAll hs side _⟩
    · rw [addShot, Stage.spawnTree, hfind]
      rfl
    · rw [Stage.obey, Stage.spawnTree, hfind]
      rfl

/-- Two arms share a tip. The tip is created below each of them, and a template without a body gets
none; whoever asks for a leg gets nothing. -/
theorem addShot_exact_arms :
    let ds : List Definition := [⟨[
      ⟨"Shot Torso", [("gimmick", .string "off"), ("offset", .vector [1, 2]),
        ("subshot0.name", .string "left"), ("subshot0.offset", .vector [-8, 0]),
        ("subshot1.name", .string "right"), ("subshot1.offset", .vector [8, 0])]⟩,
      ⟨"Shot Left", [("animation", .integer 3), ("subshot0.name", .string "Tip"),
        ("subshot0.offset", .vector [-4, 1])]⟩,
      ⟨"Shot Right", [("animation", .integer 4), ("subshot0.name", .string "Tip"),
        ("subshot0.offset", .vector [4, 1])]⟩,
      ⟨"Shot Tip", [("animation", .integer 7), ("damage", .integer 5),
        ("offset", .vector [0, 3])]⟩]⟩]
    let steps : StepLibrary Float32 := .ofList [("off", .launch ⟨⟨0, 3⟩⟩)]
    let side : Side := ⟨.none, .enemyShot⟩
    ∃ c, Catalog.ofDefinitions ds steps = .ok c ∧
      let e := (Engine.new c Config.default).apply (.spawnCarrier side Vec.zero (.angled ⟨0, 1⟩))
      e.Refuses side ⟨10, 20⟩ "leg" ∧
      ∃ t nodes st new, c.find? "TORSO" = some t ∧ (∀ ns, c.Unfolds t ⟨10, 20⟩ ns ↔ ns = nodes) ∧
        e.addShot side ⟨10, 20⟩ "TORSO" = .ok (⟨2⟩, e.withStage st) ∧
        Planted side nodes e.stage st new ∧
        new.map (fun s => (s.id.raw, s.body, s.damage)) =
          [(2, none, 0), (3, some ⟨0, 0⟩, 1), (4, some ⟨1, 0⟩, 5), (5, some ⟨2, 0⟩, 1),
            (6, some ⟨3, 0⟩, 5)] := by
  intro ds steps side
  have hok : (Catalog.ofDefinitions ds steps).toOption.any (fun c =>
      let e := (Engine.new c Config.default).apply (.spawnCarrier side Vec.zero (.angled ⟨0, 1⟩))
      (c.find? "leg").isNone ∧ (c.find? "TORSO").isSome ∧
        (e.addShot side ⟨10, 20⟩ "TORSO").toOption.any (fun r =>
          (r.2.registry.queue.pending.toList.drop 1).map
              (fun s => (s.id.raw, s.body, s.damage)) =
            [(2, none, 0), (3, some ⟨0, 0⟩, 1), (4, some ⟨1, 0⟩, 5), (5, some ⟨2, 0⟩, 1),
              (6, some ⟨3, 0⟩, 5)])) = true := by decide +kernel
  rcases hload : Catalog.ofDefinitions ds steps with err | c
  · rw [hload] at hok
    cases hok
  · rw [hload] at hok
    obtain ⟨hleg, htorso, hnew⟩ := of_decide_eq_true hok
    obtain ⟨t, ht⟩ := Option.isSome_iff_exists.mp htorso
    let e := (Engine.new c Config.default).apply (.spawnCarrier side Vec.zero (.angled ⟨0, 1⟩))
    have hs : e.bodies.Sound := Arena.sound_empty
    have hrefuses := addShot_exact (e := e) hload hs side ⟨10, 20⟩ "leg"
    rw [show e.catalog.find? "leg" = none from Option.isNone_iff_eq_none.mp hleg] at hrefuses
    have hplants := addShot_exact (e := e) hload hs side ⟨10, 20⟩ "TORSO"
    rw [show e.catalog.find? "TORSO" = some t from ht] at hplants
    obtain ⟨nodes, st, new, htree, hshot, -, hplanted⟩ := hplants
    refine ⟨c, rfl, hrefuses, t, nodes, st, new, ht, htree, hshot, hplanted, ?_⟩
    rw [hshot] at hnew
    have hqueue := congrArg (List.drop 1) hplanted.footprint.queued
    change _ = new at hqueue
    rw [← hqueue]
    exact of_decide_eq_true hnew

end Engine

end Barrage
