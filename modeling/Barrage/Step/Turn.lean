import Barrage.Bodies
import Barrage.Config
import Barrage.Random.Basic
import Barrage.Step.Basic

/-!
One tick of a step as a value. A step looks at a *view* of its shot and of the world and answers
with a *turn*: what to do to its own body, which shots to create, how to go on, and the step as it
is afterwards. Nothing else can come of running it. The orders are carried out one after the other.
-/

namespace Barrage

open Scalar (nat)

/-- What a step asks for after a tick. -/
inductive Signal where
  /-- Run again on the next tick. -/
  | keep
  /-- Retire the shot at the end of this tick. -/
  | finish
  /-- Unbind the step; the shot lives on as a plain body. -/
  | detach
  deriving Repr, DecidableEq

/-- Shots to create. -/
inductive Order (K : Type) where
  /-- So many shots that look like a template, each at a place and with a step of its own. -/
  | shots (template : String) (count : Nat) (each : Nat → Vec K × Step K)
  /-- A template and all its sub-shots. -/
  | tree (template : String) (place : Vec K)
  /-- So many shots without a body. -/
  | carriers (count : Nat) (each : Nat → Vec K × Step K)

structure Turn (K : Type) where
  step : Step K
  signal : Signal
  motions : List (Motion K) := []
  orders : List (Order K) := []

structure View (K : Type) where
  /-- Zero on the first tick of the shot. -/
  frame : UInt32
  owner : Owner
  /-- The place of the body, or where the shot was created if there is none. -/
  position : Vec K
  hasBody : Bool
  world : World K
  config : Config K

namespace View

variable {K : Type} [Scalar K]

def ownerPosition (v : View K) : Option (Vec K) := v.world.locate v.owner

/-- Where an emitter fires from: its owner, or itself if it has none; nowhere once the owner is
gone. -/
def source (v : View K) : Option (Vec K) :=
  match v.owner with
  | .none => some v.position
  | _ => v.ownerPosition

/-- Where a shot fires from that does not stop for its owner. -/
def sourceOrSelf (v : View K) : Vec K := v.source.getD v.position

/-- The heading from a point towards the player, turned by an offset; straight down if there is no
player, or if it is there already. -/
def aimFrom (v : View K) (start : Vec K) (offset : K) : K :=
  match v.world.player with
  | none => Heading.down
  | some p =>
    let d := p - start
    if Heading.arrival ≤ d.norm then Heading.ofVec d + offset else Heading.down

def aim (v : View K) (offset : K) : K := v.aimFrom v.position offset

end View

variable {K : Type} [Scalar K]

/-- Off along a heading, with the sprite turned to match. -/
def launchAlong (heading speed : K) : List (Motion K) :=
  [.fly (Heading.velocity heading speed), .turnTo (Scalar.toRadians heading)]

/-! ### Periods and rings -/

/-- A period of zero ticks counts as one tick. -/
def period (every : UInt32) : Nat := max every.toNat 1

def fires (frame every : UInt32) : Bool := frame.toNat % period every == 0

/-- The `i`-th of `count` headings evenly spaced around a circle. -/
def ring (count : UInt32) (first : K) (i : Nat) : K :=
  first + nat 360 / nat (max count.toNat 1) * nat i

end Barrage
