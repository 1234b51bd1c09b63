import Barrage.Step.Beam
import Barrage.Step.Periodic
import Barrage.Step.Splitting
import Barrage.Step.Steered
import Barrage.Step.Straight

/-!
The turn of a step of any kind.
-/

namespace Barrage.Step

variable {K : Type} [Scalar K]

/-- Five kinds draw random numbers; the others leave the generator as it is. -/
def run (s : Step K) (v : View K) (r : Random) : Turn K × Random :=
  match s with
  | launch s => (s.run v, r)
  | accelerate s => (s.run v, r)
  | angled s => (s.run v, r)
  | aimed s => s.run v r
  | scatter s => s.run v r
  | homing s => (s.run v, r)
  | sway s => (s.run v, r)
  | wobble s => s.run v r
  | curve s => (s.run v, r)
  | zigzag s => (s.run v, r)
  | orbit s => (s.run v, r)
  | burst s => (s.run v, r)
  | fan s => (s.run v, r)
  | volley s => (s.run v, r)
  | flower s => (s.run v, r)
  | spiral s => (s.run v, r)
  | stream s => (s.run v, r)
  | rain s => s.run v r
  | laser s => (s.run v, r)
  | segment s => (s.run v, r)
  | laserBurst s => (s.run v, r)
  | fractal s => (s.run v, r)
  | cascade s => (s.run v, r)

end Barrage.Step
