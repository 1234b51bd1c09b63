import Barrage.Scalar.Basic

/-!
A value that moves linearly between two frames and stands still before and after. An empty stretch
of frames is a jump.
-/

namespace Barrage

open Scalar (nat)

structure Ramp (K : Type) where
  first : UInt32
  last : UInt32
  start : K
  finish : K
  /-- The change from one frame to the next. -/
  slope : K

namespace Ramp

variable {K : Type} [Scalar K]

/-- From `start` at the frame `first` to `finish` at the frame `last`. -/
def between (first last : UInt32) (start finish : K) : Ramp K where
  first := first
  last := last
  start := start
  finish := finish
  slope := (finish - start) / nat (max (last.toNat - first.toNat) 1)

def valueAt (r : Ramp K) (frame : UInt32) : K :=
  if frame < r.first then r.start
  else if frame < r.last then r.start + r.slope * nat (frame.toNat - r.first.toNat)
  else r.finish

end Ramp

end Barrage
