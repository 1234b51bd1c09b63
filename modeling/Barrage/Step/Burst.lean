import Barrage.Step.Turn

/-!
Shots that fire once and are done.
-/

namespace Barrage

open Scalar (nat)

variable {K : Type} [Scalar K]

def Burst.run (s : Burst K) (v : View K) : Turn K where
  step := .burst s
  signal := .finish
  orders := [.shots s.template s.count.toNat fun i =>
    (v.sourceOrSelf, .angled ⟨ring s.count s.first i, s.speed⟩)]

namespace Fan

/-- The `i`-th heading of the fan, from one edge of its span to the other. -/
def heading (s : Fan K) (i : Nat) : K :=
  let spacing := if s.count = 0 then nat 0 else s.span / nat s.count.toNat
  let first := -s.span / nat 2
  first + spacing * nat i

def run (s : Fan K) (v : View K) : Turn K :=
  let center := v.world.player.getD v.position
  let fan : Order K := .shots s.template (s.count.toNat + 1) fun i =>
    (center + Heading.toVec (s.heading i), .angled ⟨s.heading i, s.speed⟩)
  { step := .fan s
    signal := .finish
    orders := fan :: s.base.toList.map (.tree · center) }

end Fan

/-- Aimed shots from one place, each with a further turn and a further gain of speed. -/
def aimedVolley (template : String) (place : Vec K) (count : UInt32) (first turn : K)
    (speed speedStep : K) : Order K :=
  .shots template count.toNat fun i =>
    (place, .aimed (.exactly (first + turn * nat i) (speed + speedStep * nat i)))

def Volley.run (s : Volley K) (v : View K) : Turn K where
  step := .volley s
  signal := .finish
  orders := [aimedVolley s.template v.sourceOrSelf s.count s.first s.turn s.speed s.speedStep]

def LaserBurst.run (s : LaserBurst K) (v : View K) : Turn K where
  step := .laserBurst s
  signal := .finish
  orders := [.carriers s.count.toNat fun i =>
    (v.sourceOrSelf, .laser (.of s.segment (.fixed (ring s.count s.first i))))]

end Barrage
