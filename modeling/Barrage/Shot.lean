import Barrage.Bodies
import Barrage.Step.Basic

/-!
A shot: what fired it and when, the step that drives it and the body that flies. Its number is
issued once, and numbers grow.
-/

namespace Barrage

structure Shot (K : Type) where
  id : ShotId
  /-- The ticks since the first one. -/
  frame : UInt32
  owner : Owner
  /-- Where the shot was created. -/
  origin : Vec K
  step : Option (Step K)
  list : CollisionList
  body : Option BodyId
  damage : Int32

namespace Shot

variable {K : Type}

/-- Only bodies deal damage. -/
def contactDamage (s : Shot K) : Option Int32 := s.body.map fun _ => s.damage

/-- A bullet rather than a hazard of many ticks. -/
def isSimple (s : Shot K) : Bool :=
  match s.step with
  | none => true
  | some step => !step.isPersistent

def aged (s : Shot K) : Shot K := { s with frame := s.frame + 1 }

end Shot

end Barrage
