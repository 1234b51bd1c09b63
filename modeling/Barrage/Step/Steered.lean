import Barrage.Step.Turn

/-!
Bullets that are steered tick by tick, most of them for as long as they live.
-/

namespace Barrage

open Scalar (nat)

variable {K : Type} [Scalar K]

namespace Accelerate

/-- The speed of a tick, given that of the tick before. -/
def faster (s : Accelerate K) (speed : K) : K :=
  match s.limit with
  | some limit => Scalar.least (speed + s.rate) limit
  | none => speed + s.rate

def run (s : Accelerate K) (v : View K) : Turn K :=
  let speed := s.faster (if v.frame = 0 then s.initial else s.speed)
  { step := .accelerate { s with speed }
    signal := .keep
    motions := launchAlong s.heading speed }

end Accelerate

namespace Homing

/-- The closest enemy or the boss, whichever is nearer; the enemy if they are equally near. -/
def acquire (v : View K) : Option Owner :=
  let reached (o : Owner) : Option (Owner × K) :=
    (v.world.locate o).map fun p => (o, p.dist v.position)
  match (v.world.closestEnemy v.position).bind reached, v.world.boss.bind reached with
  | some e, some b => some (if b.2 < e.2 then b.1 else e.1)
  | some e, none => some e.1
  | none, some b => some b.1
  | none, none => none

/-- The way to a target that is not reached yet. -/
def chase (s : Homing K) (v : View K) (target : Vec K) : List (Motion K) :=
  let d := target - v.position
  if Heading.arrival ≤ d.norm then [.fly (d.unit.scale s.speed)] else []

/-- A target that is lost is never looked for again, and the shot keeps its velocity. -/
def run (s : Homing K) (v : View K) : Turn K :=
  let target := if v.frame = 0 then acquire v else s.target
  match target with
  | none =>
    { step := .homing { s with target := none }
      signal := .keep
      motions := if v.frame = 0 then launchAlong (nat 0) s.speed else [] }
  | some o =>
    match v.world.locate o with
    | none => { step := .homing { s with target := none }, signal := .keep }
    | some p => { step := .homing { s with target }, signal := .keep, motions := s.chase v p }

end Homing

namespace Sway

/-- Whether the angle grows on a frame, rather than shrinks. -/
def grows (s : Sway K) (frame : UInt32) : Bool :=
  let half := period s.halfPeriod
  frame.toNat % min (2 * half) 0xFFFFFFFF < half

/-- The angle of a tick, given that of the tick before. -/
def swung (s : Sway K) (frame : UInt32) (angle : K) : K :=
  if s.grows frame then angle + s.rate else angle - s.rate

def run (s : Sway K) (v : View K) : Turn K :=
  let angle := s.swung v.frame (if v.frame = 0 then nat 0 else s.angle)
  let heading := if s.aimed then v.aim (s.base + angle) else s.base + angle
  let expired : Bool := match s.lifetime with
    | some lifetime => lifetime < v.frame
    | none => false
  { step := .sway { s with angle }
    signal := if expired then .finish else .keep
    motions := launchAlong heading s.speed }

end Sway

def Wobble.run (s : Wobble K) (v : View K) (r : Random) : Turn K × Random :=
  if v.frame = 0 then
    ({ step := .wobble s, signal := .keep, motions := launchAlong s.base s.speed }, r)
  else if fires v.frame s.period then
    let (x, r) := r.between (-s.jitter) s.jitter
    ({ step := .wobble s, signal := .keep, motions := launchAlong (s.base + x) s.speed }, r)
  else ({ step := .wobble s, signal := .keep }, r)

def Curve.run (s : Curve K) (v : View K) : Turn K where
  step := .curve s
  signal := .keep
  motions := launchAlong (s.heading.valueAt v.frame) s.speed

/-- A period of less than two ticks counts as two, so that both headings get a turn. -/
def Zigzag.run (s : Zigzag K) (v : View K) : Turn K :=
  let whole := max s.period.toNat 2
  let phase := v.frame.toNat % whole
  { step := .zigzag s
    signal := .keep
    motions :=
      if phase = 0 then launchAlong s.base s.speed
      else if phase = whole / 2 then launchAlong (s.base + s.kink) s.speed
      else [] }

namespace Orbit

/-- Straight ahead of the circle, the way it is flown. -/
def tangent (s : Orbit K) : K := if s.rate < nat 0 then s.angle - nat 90 else s.angle + nat 90

def release (s : Orbit K) (v : View K) : Turn K :=
  if v.hasBody then
    { step := .orbit s, signal := .detach, motions := launchAlong s.tangent s.releaseSpeed }
  else { step := .orbit s, signal := .finish }

def run (s : Orbit K) (v : View K) : Turn K :=
  match v.ownerPosition with
  | none => s.release v
  | some center =>
    if v.frame < s.lifetime then
      { step := .orbit { s with angle := Heading.wrap (s.angle + s.rate) }
        signal := .keep
        motions := [.fly Vec.zero, .moveTo (center + (Heading.toVec s.angle).scale s.radius)] }
    else s.release v

end Orbit

end Barrage
