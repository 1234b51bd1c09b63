import Barrage.Scalar.Basic

/-!
Single precision. Sums, products, quotients and roots are those of the format. Sines, cosines and
angles are computed in double precision and rounded once. A whole turn is taken off an angle without
any rounding, since the remainder of two numbers of the format is one as well.
-/

namespace Barrage.Single

/-- The significand and the power of two of a finite number, without its sign. -/
def parts (x : Float32) : Nat × Int :=
  let m := (x.toBits &&& 0x7FFFFF).toNat
  let e := ((x.toBits >>> 23) &&& 0xFF).toNat
  if e = 0 then (m, -149) else (m + 0x800000, (e : Int) - 150)

/-- What is left of an angle when whole turns are taken off towards zero. -/
def withoutTurns (x : Float32) : Float32 :=
  if x.isNaN || x.isInf then 0 / 0
  else if x.abs < 360 then x
  else
    let (m, q) := parts x
    let power := Nat.pow 2 q.natAbs
    let rest :=
      if 0 ≤ q then Float32.ofNat (m * power % 360)
      else Float32.ofNat (m % (360 * power)) / Float32.ofNat power
    if x < 0 then -rest else rest

def wrap (x : Float32) : Float32 :=
  let rest := withoutTurns x
  if rest < 0 then rest + 360 else rest

def least (x y : Float32) : Float32 :=
  if x.isNaN then y else if y < x then y else x

/-- The largest number below one that a random word gives. -/
def topDraw : Float32 := 1 - Float32.ofBits 0x34000000

/-- The largest scale at most `scale` for which no draw exceeds `high`. -/
def fitScale (low high : Float32) : Nat → Float32 → Float32
  | 0, scale => scale
  | fuel + 1, scale =>
    if high < scale * topDraw + low then
      fitScale low high fuel (Float32.ofBits (scale.toBits - 1))
    else scale

/-- The upper bits of the word are the fraction of a number in `[1, 2)`. -/
def pick (low high : Float32) (word : UInt32) : Float32 :=
  let wide := (high - low) / topDraw
  let scale := fitScale low high wide.toBits.toNat wide
  let fraction := Float32.ofBits ((0x3F800000 : UInt32) ||| (word >>> 9)) - 1
  fraction * scale + low

end Barrage.Single

namespace Barrage

instance : Scalar Float32 where
  decLt := inferInstance
  decLe := inferInstance
  ofInt := Float32.ofInt
  ofFloat := Float.toFloat32
  decimal digits places := Float32.ofScientific digits true places
  sqrt := Float32.sqrt
  abs := Float32.abs
  least := Single.least
  epsilon := Float32.ofBits 0x34000000
  sin x := x.toFloat.sin.toFloat32
  cos x := x.toFloat.cos.toFloat32
  atan2 y x := (Float.atan2 y.toFloat x.toFloat).toFloat32
  toRadians x := x * Float32.ofBits 0x3C8EFA35
  toDegrees x := x * Float32.ofBits 0x42652EE1
  wrap := Single.wrap
  pick := Single.pick

end Barrage
