import Barrage.Ramp
import Barrage.Random.Basic
import Barrage.Scalar.Single

/-!
Arithmetic that can stop a program.

Not every operation of a running engine has a result. Nothing can be divided by zero, the counters,
periods and depths of steps are words of 32 bits and know nothing below zero or beyond, and the
generator draws from no range without a finite width. Elsewhere the formulas have their guards in
front of such operations, and the operations themselves are total. Here every operation says for
itself when it would stop, and a value is there only if none of those before it did.
-/

namespace Barrage

open Scalar (nat)

/-- What can stop a program. -/
inductive Trap where
  | divisionByZero
  /-- A difference of words below zero. -/
  | underflow
  /-- A sum or a product of words beyond 32 bits. -/
  | overflow
  /-- A draw from a range without a finite width. -/
  | range
  /-- An index without a template. -/
  | outOfBounds
  /-- A tree without an end. -/
  | endless
  deriving Repr, DecidableEq

abbrev Checked := Except Trap

namespace Checked

/-! ### Words -/

def sum (x y : UInt32) : Checked UInt32 :=
  if x.toNat + y.toNat < UInt32.size then .ok (x + y) else .error .overflow

def difference (x y : UInt32) : Checked UInt32 :=
  if y ≤ x then .ok (x - y) else .error .underflow

def product (x y : UInt32) : Checked UInt32 :=
  if x.toNat * y.toNat < UInt32.size then .ok (x * y) else .error .overflow

def quotient (x y : UInt32) : Checked UInt32 :=
  if y = 0 then .error .divisionByZero else .ok (x / y)

def remainder (x y : UInt32) : Checked UInt32 :=
  if y = 0 then .error .divisionByZero else .ok (x % y)

/-- A value, or what stands in for it. -/
def rescued {α : Type} (x : Checked α) (substitute : α) : α :=
  match x with
  | .ok a => a
  | .error _ => substitute

/-- Zero instead of a difference below it. -/
def saturatingDifference (x y : UInt32) : UInt32 := (difference x y).rescued 0

/-- The largest word instead of a product beyond it. -/
def saturatingProduct (x y : UInt32) : UInt32 := (product x y).rescued 0xFFFFFFFF

/-! ### Loops -/

theorem toNat_of_sum_one {i next : UInt32} (h : sum i 1 = .ok next) : next.toNat = i.toNat + 1 := by
  unfold sum at h
  split at h
  · rename_i hlt
    cases h
    rw [UInt32.toNat_add, Nat.mod_eq_of_lt hlt]
    rfl
  · cases h

/-- How often a loop runs whose counter goes from `i` up to the last word before `stop`. -/
def roundsFrom (i stop : UInt32) : Checked Nat :=
  if _ : i < stop then
    match hnext : sum i 1 with
    | .ok next => (roundsFrom next stop).map (· + 1)
    | .error t => .error t
  else .ok 0
termination_by stop.toNat - i.toNat
decreasing_by
  have := toNat_of_sum_one hnext
  rename_i hlt
  rw [UInt32.lt_iff_toNat_lt] at hlt
  omega

/-- The rounds of a loop over the words before a count. -/
def rounds (count : UInt32) : Checked Nat := roundsFrom 0 count

/-- The rounds of a loop up to a word and through it: the counter stays at the last one. -/
def roundsThrough (last : UInt32) : Checked Nat := (roundsFrom 0 last).map (· + 1)

/-! ### Numbers -/

def ratio (x y : Float32) : Checked Float32 :=
  if y == nat 0 then .error .divisionByZero else .ok (x / y)

end Checked

/-! ### Draws -/

namespace Random

/-- Whether a number between two bounds can be had. The generator stretches the width of the range a
little, so that the largest draw is the upper bound, and goes on only if the width is finite then.
Bounds that are not in order give the lower one, without a draw. -/
def Admits (low high : Float32) : Prop :=
  low < high → ((high - low) / Single.topDraw).isFinite = true

instance (low high : Float32) : Decidable (Admits low high) :=
  inferInstanceAs (Decidable (low < high → _))

def between? (low high : Float32) (r : Random) : Checked (Float32 × Random) :=
  if Admits low high then .ok (r.between low high) else .error .range

end Random

/-! ### Ramps -/

namespace Ramp

def between? (first last : UInt32) (start finish : Float32) : Checked (Ramp Float32) := do
  let span := max (Checked.saturatingDifference last first) 1
  let slope ← Checked.ratio (finish - start) (nat span.toNat)
  return ⟨first, last, start, finish, slope⟩

def valueAt? (r : Ramp Float32) (frame : UInt32) : Checked Float32 := do
  if frame < r.first then return r.start
  else if frame < r.last then
    let passed ← Checked.difference frame r.first
    return r.start + r.slope * nat passed.toNat
  else return r.finish

end Ramp

end Barrage
