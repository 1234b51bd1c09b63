/-!
The numbers that motion is computed with. Every formula of the engine is written once, over these
operations. A running engine takes the single precision numbers, where each operation rounds; what a
formula means is a matter of exact numbers, and those are another instance.
-/

namespace Barrage

class Scalar (K : Type) extends Add K, Sub K, Mul K, Div K, Neg K, BEq K, LT K, LE K where
  decLt : DecidableLT K
  decLe : DecidableLE K
  ofInt : Int → K
  ofFloat : Float → K
  /-- The number `digits / 10 ^ places`. -/
  decimal : (digits places : Nat) → K
  sqrt : K → K
  abs : K → K
  /-- The smaller of two numbers; what is no number gives way to one that is. -/
  least : K → K → K
  /-- The distance from one to the next larger number. -/
  epsilon : K
  sin : K → K
  cos : K → K
  /-- The angle of the direction with the second argument along the axis. -/
  atan2 : K → K → K
  toRadians : K → K
  toDegrees : K → K
  /-- The angle that differs from the given one by whole turns and is in `[0, 360)`. -/
  wrap : K → K
  /-- The number between the bounds that a random word picks. -/
  pick : (low high : K) → UInt32 → K

instance Scalar.instDecidableLT {K : Type} [Scalar K] : DecidableLT K := Scalar.decLt
instance Scalar.instDecidableLE {K : Type} [Scalar K] : DecidableLE K := Scalar.decLe

/-- A whole number, such as a count of frames. -/
def Scalar.nat {K : Type} [Scalar K] (n : Nat) : K := Scalar.ofInt n

end Barrage
