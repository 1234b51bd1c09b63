import Barrage.Ramp
import Barrage.Vec
import Barrage.World

/-!
The behaviours that can be bound to a shot. Each kind carries its parameters and what it remembers
from one tick to the next; the templates it fires are names. Headings and turns are in degrees,
periods and lifetimes in ticks.
-/

namespace Barrage

open Scalar (nat)

/-! ### Bullets that fly straight -/

/-- A fixed velocity on the first tick. -/
structure Launch (K : Type) where
  velocity : Vec K

/-- Along a fixed heading. -/
structure Angled (K : Type) where
  heading : K
  speed : K

/-- Towards the player, turned by an offset and at random by up to a spread either way. -/
structure Aimed (K : Type) where
  offset : K
  spread : K
  speed : K

/-- Along a random heading around a center. -/
structure Scatter (K : Type) where
  center : K
  spread : K
  speed : K

/-! ### Bullets that are steered -/

/-- Along a fixed heading, faster every tick, up to a limit if there is one. -/
structure Accelerate (K : Type) where
  heading : K
  initial : K
  rate : K
  limit : Option K
  speed : K

/-- After the closest enemy or the boss, whichever is nearer when the shot starts. -/
structure Homing (K : Type) where
  speed : K
  target : Option Owner

/-- Around a base heading, turning by a rate and back again. -/
structure Sway (K : Type) where
  base : K
  rate : K
  halfPeriod : UInt32
  speed : K
  /-- Around the heading towards the player instead, turned by the base. -/
  aimed : Bool
  lifetime : Option UInt32
  angle : K

/-- Near a base heading, picked again every period. -/
structure Wobble (K : Type) where
  base : K
  jitter : K
  period : UInt32
  speed : K

/-- From one heading to another, then straight on. -/
structure Curve (K : Type) where
  heading : Ramp K
  speed : K

/-- Along a base heading for half a period and a kinked one for the other half. -/
structure Zigzag (K : Type) where
  base : K
  kink : K
  period : UInt32
  speed : K

/-- Around the owner, and off along the tangent once the owner is gone or the orbit is over. -/
structure Orbit (K : Type) where
  radius : K
  rate : K
  lifetime : UInt32
  releaseSpeed : K
  angle : K

/-! ### Shots that fire once -/

/-- A ring from the owner. -/
structure Burst (K : Type) where
  template : String
  count : UInt32
  first : K
  speed : K

/-- One shot more than the count, spread around straight up from the player. -/
structure Fan (K : Type) where
  template : String
  count : UInt32
  span : K
  speed : K
  /-- A template placed at the center. -/
  base : Option String

/-- Aimed shots, each turned by a step more than the one before, and faster if so wished. -/
structure Volley (K : Type) where
  template : String
  count : UInt32
  first : K
  turn : K
  speed : K
  speedStep : K

/-- A ring of lasers. -/
structure LaserBurst (K : Type) where
  segment : String
  count : UInt32
  first : K

/-! ### Shots that fire again and again -/

/-- Rings of wobbling shots. -/
structure Flower (K : Type) where
  template : String
  every : UInt32
  count : UInt32
  speed : K
  jitter : K
  period : UInt32

/-- Rings that rotate from one firing to the next. -/
structure Spiral (K : Type) where
  template : String
  every : UInt32
  count : UInt32
  turn : K
  radius : K
  speed : K
  kink : K
  period : UInt32

/-- A sweeping heading and its mirror image; perhaps a second template, with a period of its own. -/
structure Stream (K : Type) where
  template : String
  every : UInt32
  turn : K
  speed : K
  extra : Option (String × UInt32)

/-- The aimed volleys of a rain. -/
structure RainVolley (K : Type) where
  template : String
  every : UInt32
  count : UInt32
  first : K
  turn : K
  speed : K

/-- Drops from random points along the top of the playfield. -/
structure Rain (K : Type) where
  template : String
  every : UInt32
  speed : K
  volley : Option (RainVolley K)

/-! ### Lasers -/

/-- Where a laser starts; its own place stands in for an owner or a player that is not there. -/
inductive Anchor where
  | here
  | owner
  | player
  deriving Repr, DecidableEq

inductive LaserHeading (K : Type) where
  | fixed (heading : K)
  /-- Towards the player, as the laser starts. -/
  | player

/-- A cursor that lays one segment per tick along its path, until it leaves the playfield or a bomb
goes off. -/
structure Laser (K : Type) where
  segment : String
  anchor : Anchor
  offset : Vec K
  heading : LaserHeading K
  advance : K
  segmentLifetime : UInt32
  bend : K
  bendPeriod : UInt32
  trackPlayerX : Bool
  stopOnBomb : Bool
  cursor : Vec K
  direction : Vec K
  bendAngle : K

/-- A piece of a laser. -/
structure Segment where
  lifetime : UInt32
  /-- Follow the player to the left and to the right. -/
  trackPlayerX : Bool

/-! ### Shots that split -/

/-- A shot that splits into branches of one depth less; at depth zero it is a bullet. -/
structure Fractal (K : Type) where
  template : String
  depth : UInt32
  branches : UInt32
  heading : K
  spin : K
  speed : K
  splitAfter : UInt32

/-- Rings of splitting shots, each turned further than the last. -/
structure Cascade (K : Type) where
  template : String
  every : UInt32
  turn : K
  depth : UInt32
  branches : UInt32
  splitAfter : UInt32
  speed : K

/-! ### All kinds -/

inductive Step (K : Type) where
  | launch (s : Launch K)
  | accelerate (s : Accelerate K)
  | angled (s : Angled K)
  | aimed (s : Aimed K)
  | scatter (s : Scatter K)
  | homing (s : Homing K)
  | sway (s : Sway K)
  | wobble (s : Wobble K)
  | curve (s : Curve K)
  | zigzag (s : Zigzag K)
  | orbit (s : Orbit K)
  | burst (s : Burst K)
  | fan (s : Fan K)
  | volley (s : Volley K)
  | flower (s : Flower K)
  | spiral (s : Spiral K)
  | stream (s : Stream K)
  | rain (s : Rain K)
  | laser (s : Laser K)
  | segment (s : Segment)
  | laserBurst (s : LaserBurst K)
  | fractal (s : Fractal K)
  | cascade (s : Cascade K)

namespace Step

variable {K : Type}

/-- Whether the step goes on working after the first tick. Shots with another kind of step are
bullets, which a bomb clears. -/
def isPersistent : Step K → Bool
  | launch _ | angled _ | aimed _ | scatter _ => false
  | fractal s => 0 < s.depth
  | _ => true

/-- The templates that the step fires. -/
def references : Step K → List String
  | burst s => [s.template]
  | fan s => s.template :: s.base.toList
  | volley s => [s.template]
  | flower s => [s.template]
  | spiral s => [s.template]
  | stream s => s.template :: (s.extra.map (·.1)).toList
  | rain s => s.template :: (s.volley.map (·.template)).toList
  | laser s => [s.segment]
  | laserBurst s => [s.segment]
  | fractal s => [s.template]
  | cascade s => [s.template]
  | _ => []

/-- The short name of the kind. -/
def kind : Step K → String
  | launch _ => "launch"
  | accelerate _ => "accelerate"
  | angled _ => "angled"
  | aimed _ => "aimed"
  | scatter _ => "scatter"
  | homing _ => "homing"
  | sway _ => "sway"
  | wobble _ => "wobble"
  | curve _ => "curve"
  | zigzag _ => "zigzag"
  | orbit _ => "orbit"
  | burst _ => "burst"
  | fan _ => "fan"
  | volley _ => "volley"
  | flower _ => "flower"
  | spiral _ => "spiral"
  | stream _ => "stream"
  | rain _ => "rain"
  | laser _ => "laser"
  | segment _ => "segment"
  | laserBurst _ => "laser-burst"
  | fractal _ => "fractal"
  | cascade _ => "cascade"

end Step

/-! ### Steps as they start -/

variable {K : Type} [Scalar K]

/-- Aimed without a spread. -/
def Aimed.exactly (offset speed : K) : Aimed K := ⟨offset, nat 0, speed⟩

def Accelerate.of (heading initial rate : K) (limit : Option K) : Accelerate K :=
  ⟨heading, initial, rate, limit, initial⟩

def Homing.of (speed : K) : Homing K := ⟨speed, none⟩

def Sway.of (base rate : K) (halfPeriod : UInt32) (speed : K) (aimed : Bool)
    (lifetime : Option UInt32) : Sway K :=
  ⟨base, rate, halfPeriod, speed, aimed, lifetime, nat 0⟩

/-- A turn from `initial` over `duration` ticks. -/
def Curve.of (initial turn : K) (duration : UInt32) (speed : K) : Curve K :=
  ⟨.between 0 duration initial (initial + turn), speed⟩

/-- Rings that do not wobble, until told otherwise. -/
def Flower.of (template : String) (every count : UInt32) (speed : K) : Flower K :=
  ⟨template, every, count, speed, nat 0, 60⟩

/-- Rings that start at the owner and do not zigzag, until told otherwise. -/
def Spiral.of (template : String) (every count : UInt32) (turn speed : K) : Spiral K :=
  ⟨template, every, count, turn, nat 0, speed, nat 0, 60⟩

/-- A straight laser from its own place that a bomb stops, until told otherwise. -/
def Laser.of (segment : String) (heading : LaserHeading K) : Laser K where
  segment := segment
  anchor := .here
  offset := Vec.zero
  heading := heading
  advance := nat 3
  segmentLifetime := 40
  bend := nat 0
  bendPeriod := 60
  trackPlayerX := false
  stopOnBomb := true
  cursor := Vec.zero
  direction := Heading.up
  bendAngle := nat 0

/-- A shot that splits in three, until told otherwise. -/
def Fractal.of (template : String) (depth : UInt32) (heading speed : K) : Fractal K :=
  ⟨template, depth, 3, heading, nat 0, speed, 40⟩

def Cascade.of (template : String) (every : UInt32) (turn : K) (depth : UInt32) (speed : K) :
    Cascade K :=
  ⟨template, every, turn, depth, 3, 40, speed⟩

end Barrage
