import Barrage.Step.Turn

/-!
Shots that fly for a while and then split into branches, which split in their turn until their depth
is used up.
-/

namespace Barrage.Fractal

variable {K : Type} [Scalar K]

/-- A branch is the same shot with one depth less and a heading of its own. -/
def branch (s : Fractal K) (heading : K) : Fractal K := { s with depth := s.depth - 1, heading }

def run (s : Fractal K) (v : View K) : Turn K :=
  let motions := if v.frame = 0 then launchAlong s.heading s.speed else []
  if s.depth = 0 then { step := .fractal s, signal := .detach, motions }
  else if v.frame < s.splitAfter then { step := .fractal s, signal := .keep, motions }
  else
    { step := .fractal s
      signal := .finish
      motions
      orders := [.shots s.template s.branches.toNat fun i =>
        (v.position, .fractal (s.branch (ring s.branches s.spin i)))] }

end Barrage.Fractal
