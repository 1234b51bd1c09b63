import Barrage.Step.Basic

/-!
Steps under the names that templates give for them. Names are told apart by case, and the step that
was registered last under a name is the one that is found.
-/

namespace Barrage

open Scalar (nat)

structure StepLibrary (K : Type) where
  steps : List (String × Step K) := []

namespace StepLibrary

variable {K : Type}

def empty : StepLibrary K := {}

def register (l : StepLibrary K) (name : String) (step : Step K) : StepLibrary K :=
  ⟨(name, step) :: l.steps.filter (·.1 != name)⟩

def resolve? (l : StepLibrary K) (name : String) : Option (Step K) := l.steps.lookup name

def size (l : StepLibrary K) : Nat := l.steps.length

/-- The registered names in alphabetical order. -/
def names (l : StepLibrary K) : List String :=
  (l.steps.map (·.1)).mergeSort fun s t => !decide (t < s)

def ofList (steps : List (String × Step K)) : StepLibrary K :=
  steps.foldl (fun l s => l.register s.1 s.2) empty

/-! ### The stock of steps -/

variable [Scalar K]

def enemySteps : List (String × Step K) :=
  let d : Nat → Nat → K := Scalar.decimal
  let toPlayer : Laser K := { Laser.of "enemy_laser" .player with anchor := .owner }
  let slow : Laser K := { toPlayer with advance := nat 2, segmentLifetime := 60 }
  let down : K := Heading.down
  [("enemyStraight", .launch ⟨⟨nat 0, nat 2⟩⟩),
    ("enemySlightDownLeft", .angled ⟨nat 260, nat 1⟩),
    ("enemySlightDownRight", .angled ⟨nat 100, nat 1⟩),
    ("enemyAimed", .aimed (.exactly (nat 0) (nat 2))),
    ("enemyAimedWide", .aimed ⟨nat 0, nat 45, d 7 1⟩),
    ("enemyLowerHalf", .scatter ⟨down, nat 45, nat 1⟩),
    ("enemyLowerHalfSlow", .scatter ⟨down, nat 45, d 4 1⟩),
    ("enemyRandom", .scatter ⟨down, nat 180, d 5 1⟩),
    ("enemyCircleMid", .burst ⟨"enemy_mid", 20, nat 0, nat 1⟩),
    ("enemyCircleSlim", .burst ⟨"enemy_slim", 20, nat 0, nat 1⟩),
    ("enemyFiveAimedSlow", .volley ⟨"enemy_mid", 5, -nat 20, nat 10, d 5 1, nat 0⟩),
    ("enemyFiveAimedDifferent", .volley ⟨"enemy_slim", 10, nat 0, nat 0, d 25 2, d 25 2⟩),
    ("enemyLaserAimed", .laser toPlayer),
    ("enemyLaserAimedSlow", .laser slow),
    ("enemyLaserStraight",
      .laser { Laser.of "enemy_laser" (.fixed down) with anchor := .owner }),
    ("enemyLaserBending", .laser { slow with bend := nat 3, bendPeriod := 60 }),
    ("enemyLaserCircle", .laserBurst ⟨"enemy_laser", 5, down⟩),
    ("enemyLilyWhite", .stream ⟨"enemy_mid", 5, nat 2, nat 2, some ("enemy_five_aimed", 20)⟩),
    ("barney1", .rain ⟨"enemy_slim", 6, d 5 1,
      some ⟨"enemy_mid", 20, 5, -nat 20, nat 10, nat 1⟩⟩),
    ("ack1", .flower ⟨"enemy_slim", 20, 20, nat 1, nat 10, 60⟩),
    ("accMid", .spiral ⟨"enemy_slim", 10, 20, nat 1, nat 10, nat 1, nat 30, 60⟩),
    ("accS1", .spiral { Spiral.of "enemy_slim" 2 1 (nat 1) (nat 3) with radius := nat 20 }),
    ("enemyPCB", .sway (.of down (nat 1) 30 (nat 1) false none)),
    ("enemyPCB2", .sway (.of (nat 0) (nat 1) 30 (nat 1) true (some 400))),
    ("enemyCurve", .curve (.of down (nat 90) 60 (d 15 1))),
    ("enemyOrbit", .orbit ⟨nat 30, nat 3, 240, d 15 1, nat 0⟩),
    ("mootNS3", .cascade (.of "enemy_mid" 30 (nat 11) 4 (nat 1)))]

/-- Aimed past the player by every multiple of ten degrees. -/
def aimedPlusSteps : List (String × Step K) :=
  (List.range 35).map fun i =>
    (s!"enemyAimedPlus{10 * (i + 1)}", .aimed (.exactly (nat (10 * (i + 1))) (nat 2)))

def yournamehereSteps : List (String × Step K) :=
  [("yournamehereStraight", .launch ⟨⟨nat 0, -nat 4⟩⟩),
    ("yournamehereStrong", .accelerate (.of (nat 0) (nat 4) (Scalar.decimal 5 2) none)),
    ("yournamehereHoming", .homing (.of (nat 4)))]

/-- The fans of a power level: wide, and narrow while the player concentrates. -/
def kinomodSteps : List (String × Step K) :=
  let levels : List (Nat × UInt32 × Nat × Nat) := [(1, 4, 60, 16), (2, 6, 60, 18), (3, 8, 80, 24),
    (4, 10, 90, 30)]
  levels.flatMap fun (level, count, wide, narrow) =>
    let fan (template : String) (span : Nat) : Step K :=
      .fan ⟨template, count, nat span, nat 4, some "kinomod_base"⟩
    [(s!"kinomodUnfocused{level}", fan "kinomod_small" wide),
      (s!"kinomodFocused{level}", fan "kinomod_large" narrow)]

def aeroliteSteps : List (String × Step K) :=
  let levels : List (Nat × Nat) := [(1, 0), (2, 0), (3, 2), (4, 2)]
  levels.map fun (level, x) =>
    (s!"aeroliteUnfocused{level}", .laser {
      Laser.of s!"aerolite_laser{level}" (.fixed (nat 0)) with
      anchor := .player
      offset := ⟨nat x, -nat 10⟩
      segmentLifetime := 10
      trackPlayerX := true
      stopOnBomb := false })

/-- The steps of the stock shot set. -/
def standard : StepLibrary K :=
  ofList (enemySteps ++ yournamehereSteps ++ aimedPlusSteps ++ kinomodSteps ++ aeroliteSteps)

end StepLibrary

end Barrage
