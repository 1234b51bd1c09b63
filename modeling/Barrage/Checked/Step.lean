import Barrage.Checked.Word
import Barrage.Step.Run

/-!
The turns of steps in checked arithmetic.

Each kind is here once more as a program over words: the periods, counts and depths stay words, the
loops count in words, and every operation that has no result for some of its arguments is a checked
one. What such an operation could stop is cut short there.
-/

namespace Barrage

open Checked (difference quotient ratio remainder rounds roundsThrough saturatingProduct)
open Scalar (nat)

/-! ### Periods, rings and draws -/

def fires? (frame every : UInt32) : Checked Bool := do
  let phase ← remainder frame (max every 1)
  return phase == 0

/-- The headings of a ring, and how many there are. -/
def ring? (count : UInt32) (first : Float32) : Checked (Nat × (Nat → Float32)) := do
  let spacing ← ratio (nat 360) (nat (max count 1).toNat)
  let size ← rounds count
  return (size, fun i => first + spacing * nat i)

def drawnOnce? (v : View Float32) (low high : Float32) (motions : Float32 → List (Motion Float32))
    (r : Random) : Checked (List (Motion Float32) × Random) := do
  if v.frame = 0 then
    let (x, r) ← r.between? low high
    return (motions x, r)
  else return ([], r)

/-- The vector of length one needs a length to be divided by. -/
def Vec.unit? (v : Vec Float32) : Checked (Vec Float32) := do
  let inverse ← ratio (nat 1) v.norm
  return v.scale inverse

/-! ### Bullets -/

def Aimed.run? (s : Aimed Float32) (v : View Float32) (r : Random) :
    Checked (Turn Float32 × Random) := do
  let (motions, r) ← drawnOnce? v (-s.spread) s.spread
    (fun x => launchAlong (v.aim (s.offset + x)) s.speed) r
  return ({ step := .aimed s, signal := .detach, motions }, r)

def Scatter.run? (s : Scatter Float32) (v : View Float32) (r : Random) :
    Checked (Turn Float32 × Random) := do
  let (motions, r) ← drawnOnce? v (-s.spread) s.spread
    (fun x => launchAlong (s.center + x) s.speed) r
  return ({ step := .scatter s, signal := .detach, motions }, r)

namespace Homing

def chase? (s : Homing Float32) (v : View Float32) (target : Vec Float32) :
    Checked (List (Motion Float32)) := do
  let d := target - v.position
  if Heading.arrival ≤ d.norm then
    let direction ← d.unit?
    return [.fly (direction.scale s.speed)]
  else return []

def run? (s : Homing Float32) (v : View Float32) : Checked (Turn Float32) := do
  let target := if v.frame = 0 then acquire v else s.target
  match target with
  | none =>
    return { step := .homing { s with target := none }
             signal := .keep
             motions := if v.frame = 0 then launchAlong (nat 0) s.speed else [] }
  | some o =>
    match v.world.locate o with
    | none => return { step := .homing { s with target := none }, signal := .keep }
    | some p =>
      let motions ← s.chase? v p
      return { step := .homing { s with target }, signal := .keep, motions }

end Homing

namespace Sway

def grows? (s : Sway Float32) (frame : UInt32) : Checked Bool := do
  let half := max s.halfPeriod 1
  let phase ← remainder frame (saturatingProduct half 2)
  return phase < half

def run? (s : Sway Float32) (v : View Float32) : Checked (Turn Float32) := do
  let before := if v.frame = 0 then nat 0 else s.angle
  let angle := if ← s.grows? v.frame then before + s.rate else before - s.rate
  let heading := if s.aimed then v.aim (s.base + angle) else s.base + angle
  let expired : Bool := match s.lifetime with
    | some lifetime => lifetime < v.frame
    | none => false
  return { step := .sway { s with angle }
           signal := if expired then .finish else .keep
           motions := launchAlong heading s.speed }

end Sway

def Wobble.run? (s : Wobble Float32) (v : View Float32) (r : Random) :
    Checked (Turn Float32 × Random) := do
  if v.frame = 0 then
    return ({ step := .wobble s, signal := .keep, motions := launchAlong s.base s.speed }, r)
  else if ← fires? v.frame s.period then
    let (x, r) ← r.between? (-s.jitter) s.jitter
    return ({ step := .wobble s, signal := .keep, motions := launchAlong (s.base + x) s.speed }, r)
  else return ({ step := .wobble s, signal := .keep }, r)

def Curve.run? (s : Curve Float32) (v : View Float32) : Checked (Turn Float32) := do
  let heading ← s.heading.valueAt? v.frame
  return { step := .curve s, signal := .keep, motions := launchAlong heading s.speed }

def Zigzag.run? (s : Zigzag Float32) (v : View Float32) : Checked (Turn Float32) := do
  let whole := max s.period 2
  let phase ← remainder v.frame whole
  let motions ← if phase = 0 then pure (launchAlong s.base s.speed)
    else do
      let half ← quotient whole 2
      pure (if phase = half then launchAlong (s.base + s.kink) s.speed else [])
  return { step := .zigzag s, signal := .keep, motions }

/-! ### Shots that fire once -/

def Burst.run? (s : Burst Float32) (v : View Float32) : Checked (Turn Float32) := do
  let (size, heading) ← ring? s.count s.first
  return { step := .burst s
           signal := .finish
           orders := [.shots s.template size fun i =>
             (v.sourceOrSelf, .angled ⟨heading i, s.speed⟩)] }

namespace Fan

def spacing? (s : Fan Float32) : Checked Float32 :=
  if s.count = 0 then return nat 0 else ratio s.span (nat s.count.toNat)

def run? (s : Fan Float32) (v : View Float32) : Checked (Turn Float32) := do
  let center := v.world.player.getD v.position
  let spacing ← s.spacing?
  let first ← ratio (-s.span) (nat 2)
  let size ← roundsThrough s.count
  let heading (i : Nat) := first + spacing * nat i
  let fan : Order Float32 := .shots s.template size fun i =>
    (center + Heading.toVec (heading i), .angled ⟨heading i, s.speed⟩)
  return { step := .fan s
           signal := .finish
           orders := fan :: s.base.toList.map (.tree · center) }

end Fan

def aimedVolley? (template : String) (place : Vec Float32) (count : UInt32)
    (first turn speed speedStep : Float32) : Checked (Order Float32) := do
  let size ← rounds count
  return .shots template size fun i =>
    (place, .aimed (.exactly (first + turn * nat i) (speed + speedStep * nat i)))

def Volley.run? (s : Volley Float32) (v : View Float32) : Checked (Turn Float32) := do
  let volley ← aimedVolley? s.template v.sourceOrSelf s.count s.first s.turn s.speed s.speedStep
  return { step := .volley s, signal := .finish, orders := [volley] }

def LaserBurst.run? (s : LaserBurst Float32) (v : View Float32) : Checked (Turn Float32) := do
  let (size, heading) ← ring? s.count s.first
  return { step := .laserBurst s
           signal := .finish
           orders := [.carriers size fun i =>
             (v.sourceOrSelf, .laser (.of s.segment (.fixed (heading i))))] }

/-! ### Emitters -/

def emit? (v : View Float32) (step : Step Float32)
    (orders : Vec Float32 → Checked (List (Order Float32))) : Checked (Turn Float32) := do
  match v.source with
  | none => return { step, signal := .finish }
  | some place =>
    let orders ← orders place
    return { step, signal := .keep, orders }

def onPeriod? (v : View Float32) (every : UInt32) (orders : Checked (List (Order Float32))) :
    Checked (List (Order Float32)) := do
  if ← fires? v.frame every then orders else return []

/-- The orders of something an emitter may have besides. -/
def ordersOf? {α : Type} (extra : Option α) (orders : α → Checked (List (Order Float32))) :
    Checked (List (Order Float32)) :=
  match extra with
  | none => return []
  | some a => orders a

def Flower.run? (s : Flower Float32) (v : View Float32) : Checked (Turn Float32) :=
  emit? v (.flower s) fun place => onPeriod? v s.every do
    let (size, heading) ← ring? s.count (nat 0)
    return [.shots s.template size fun i =>
      (place, .wobble ⟨heading i, s.jitter, s.period, s.speed⟩)]

def Spiral.run? (s : Spiral Float32) (v : View Float32) : Checked (Turn Float32) :=
  emit? v (.spiral s) fun place => onPeriod? v s.every do
    let (size, heading) ← ring? s.count (Heading.wrap (s.turn * nat v.frame.toNat))
    return [.shots s.template size fun i =>
      (place + (Heading.toVec (heading i)).scale s.radius,
        .zigzag ⟨heading i, s.kink, s.period, s.speed⟩)]

def Stream.run? (s : Stream Float32) (v : View Float32) : Checked (Turn Float32) :=
  emit? v (.stream s) fun place => do
    let pair ← onPeriod? v s.every <| pure <| (s.headings v.frame).map fun heading =>
      .shots s.template 1 fun _ => (place, .angled ⟨heading, s.speed⟩)
    let extra ← ordersOf? s.extra fun e => onPeriod? v e.2 (pure [.tree e.1 place])
    return pair ++ extra

namespace Rain

def drops? (s : Rain Float32) (v : View Float32) (r : Random) :
    Checked (List (Order Float32) × Random) := do
  if ← fires? v.frame s.every then
    let (share, r) ← r.between? (nat 0) (nat 1)
    let drop : Order Float32 := .shots s.template 1 fun _ =>
      (dropPoint v.config share, .angled ⟨Heading.down, s.speed⟩)
    return ([drop], r)
  else return ([], r)

def run? (s : Rain Float32) (v : View Float32) (r : Random) :
    Checked (Turn Float32 × Random) := do
  match v.source with
  | none => return ({ step := .rain s, signal := .finish }, r)
  | some place =>
    let (drops, r) ← s.drops? v r
    let volleys ← ordersOf? s.volley fun w => onPeriod? v w.every do
      let volley ← aimedVolley? w.template place w.count w.first w.turn w.speed (nat 0)
      return [volley]
    return ({ step := .rain s, signal := .keep, orders := drops ++ volleys }, r)

end Rain

/-! ### Shots that split -/

def Fractal.run? (s : Fractal Float32) (v : View Float32) : Checked (Turn Float32) := do
  let motions := if v.frame = 0 then launchAlong s.heading s.speed else []
  if s.depth = 0 then return { step := .fractal s, signal := .detach, motions }
  else if v.frame < s.splitAfter then return { step := .fractal s, signal := .keep, motions }
  else
    let (size, heading) ← ring? s.branches s.spin
    let depth ← difference s.depth 1
    return { step := .fractal s
             signal := .finish
             motions
             orders := [.shots s.template size fun i =>
               (v.position, .fractal { s with depth, heading := heading i })] }

def Cascade.run? (s : Cascade Float32) (v : View Float32) : Checked (Turn Float32) :=
  emit? v (.cascade s) fun place => onPeriod? v s.every do
    let firings ← quotient v.frame (max s.every 1)
    let spin := s.turn * nat firings.toNat
    let (size, heading) ← ring? s.branches spin
    return [.shots s.template size fun i =>
      (place, .fractal {
        template := s.template
        depth := s.depth
        branches := s.branches
        heading := heading i
        spin := spin
        speed := s.speed
        splitAfter := s.splitAfter })]

/-! ### Lasers -/

namespace Laser

def grows? (s : Laser Float32) (frame : UInt32) : Checked Bool := do
  let whole := max s.bendPeriod 2
  let phase ← remainder frame whole
  let half ← quotient whole 2
  return phase < half

def bent? (s : Laser Float32) (frame : UInt32) (angle : Float32) : Checked Float32 := do
  if s.bend == nat 0 then return angle
  else if ← s.grows? frame then return angle + s.bend
  else return angle - s.bend

def moved? (s : Laser Float32) (frame : UInt32) : Checked (Laser Float32) := do
  let bendAngle ← s.bent? frame s.bendAngle
  return { s with bendAngle, cursor := s.cursor + (s.direction.rotate bendAngle).scale s.advance }

def run? (s : Laser Float32) (v : View Float32) : Checked (Turn Float32) := do
  let s := if v.frame = 0 then s.start v else s
  let next ← s.moved? v.frame
  let stopped := s.stopOnBomb && v.world.bombActive
  return { step := .laser next
           signal := if stopped || !v.config.contains next.cursor then .finish else .keep
           orders := [.shots s.segment 1 fun _ =>
             (s.cursor, .segment ⟨s.segmentLifetime, s.trackPlayerX⟩)] }

end Laser

/-! ### All kinds -/

namespace Step

/-- Five kinds have nothing to check. -/
def run? (s : Step Float32) (v : View Float32) (r : Random) : Checked (Turn Float32 × Random) :=
  match s with
  | launch s => pure (s.run v, r)
  | accelerate s => pure (s.run v, r)
  | angled s => pure (s.run v, r)
  | aimed s => s.run? v r
  | scatter s => s.run? v r
  | homing s => (s.run? v).map (·, r)
  | sway s => (s.run? v).map (·, r)
  | wobble s => s.run? v r
  | curve s => (s.run? v).map (·, r)
  | zigzag s => (s.run? v).map (·, r)
  | orbit s => pure (s.run v, r)
  | burst s => (s.run? v).map (·, r)
  | fan s => (s.run? v).map (·, r)
  | volley s => (s.run? v).map (·, r)
  | flower s => (s.run? v).map (·, r)
  | spiral s => (s.run? v).map (·, r)
  | stream s => (s.run? v).map (·, r)
  | rain s => s.run? v r
  | laser s => (s.run? v).map (·, r)
  | segment s => pure (s.run v, r)
  | laserBurst s => (s.run? v).map (·, r)
  | fractal s => (s.run? v).map (·, r)
  | cascade s => (s.run? v).map (·, r)

/-- The ranges that a step draws from, and those that come of it. -/
def ranges : Step Float32 → List (Float32 × Float32)
  | aimed s => [(-s.spread, s.spread)]
  | scatter s => [(-s.spread, s.spread)]
  | wobble s => [(-s.jitter, s.jitter)]
  | flower s => [(-s.jitter, s.jitter)]
  | rain _ => [(nat 0, nat 1)]
  | _ => []

end Step

end Barrage
