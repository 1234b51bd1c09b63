import Barrage.Step.Turn

/-!
Bullets that are sent off on their first tick and fly on without a step.
-/

namespace Barrage

variable {K : Type} [Scalar K]

def Launch.run (s : Launch K) (v : View K) : Turn K where
  step := .launch s
  signal := .detach
  motions := if v.frame = 0 then [.push s.velocity] else []

def Angled.run (s : Angled K) (v : View K) : Turn K where
  step := .angled s
  signal := .detach
  motions := if v.frame = 0 then launchAlong s.heading s.speed else []

/-- A draw between the bounds and what follows from it, on the first tick; otherwise neither. -/
def drawnOnce (v : View K) (low high : K) (motions : K → List (Motion K)) (r : Random) :
    List (Motion K) × Random :=
  if v.frame = 0 then
    let (x, r) := r.between low high
    (motions x, r)
  else ([], r)

def Aimed.run (s : Aimed K) (v : View K) (r : Random) : Turn K × Random :=
  let (motions, r) := drawnOnce v (-s.spread) s.spread
    (fun x => launchAlong (v.aim (s.offset + x)) s.speed) r
  ({ step := .aimed s, signal := .detach, motions }, r)

def Scatter.run (s : Scatter K) (v : View K) (r : Random) : Turn K × Random :=
  let (motions, r) := drawnOnce v (-s.spread) s.spread
    (fun x => launchAlong (s.center + x) s.speed) r
  ({ step := .scatter s, signal := .detach, motions }, r)

end Barrage
