import Barrage.Step.Turn

/-!
Lasers: a carrier without a body that lays segments along its path, and the segments.
-/

namespace Barrage

open Scalar (nat)

variable {K : Type} [Scalar K]

namespace Laser

def start (s : Laser K) (v : View K) : Laser K :=
  let anchor := match s.anchor with
    | .here => v.position
    | .owner => v.ownerPosition.getD v.position
    | .player => v.world.player.getD v.position
  let cursor := anchor + s.offset
  let heading := match s.heading with
    | .fixed heading => heading
    | .player => v.aimFrom cursor (nat 0)
  { s with cursor, direction := Heading.toVec heading, bendAngle := nat 0 }

/-- A period of less than two ticks counts as two. -/
def grows (s : Laser K) (frame : UInt32) : Bool :=
  let whole := max s.bendPeriod.toNat 2
  frame.toNat % whole < whole / 2

/-- The bend of a tick, given that of the tick before. -/
def bent (s : Laser K) (frame : UInt32) (angle : K) : K :=
  if s.bend == nat 0 then angle
  else if s.grows frame then angle + s.bend
  else angle - s.bend

/-- The laser with its cursor one tick further. -/
def moved (s : Laser K) (frame : UInt32) : Laser K :=
  let bendAngle := s.bent frame s.bendAngle
  { s with bendAngle, cursor := s.cursor + (s.direction.rotate bendAngle).scale s.advance }

def run (s : Laser K) (v : View K) : Turn K :=
  let s := if v.frame = 0 then s.start v else s
  let next := s.moved v.frame
  let stopped := s.stopOnBomb && v.world.bombActive
  { step := .laser next
    signal := if stopped || !v.config.contains next.cursor then .finish else .keep
    orders := [.shots s.segment 1 fun _ =>
      (s.cursor, .segment ⟨s.segmentLifetime, s.trackPlayerX⟩)] }

end Laser

def Segment.run (s : Segment) (v : View K) : Turn K where
  step := .segment s
  signal := if s.lifetime ≤ v.frame then .finish else .keep
  motions :=
    match v.world.player with
    | some p => if s.trackPlayerX then [.moveTo ⟨p.x, v.position.y⟩] else []
    | none => []

end Barrage
