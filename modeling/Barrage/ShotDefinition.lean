import Barrage.Definition.Error
import Barrage.Definition.Reader
import Barrage.Vec

/-!
A shot as its group describes it. Entries may come in any order; the sub-shots are numbered by their
keys, `subshotN.name` and `subshotN.offset`, and are taken in the order of the numbers. Keys that
say nothing about a shot are skipped.
-/

namespace Barrage

open Scalar (nat)

/-- The part of a shot that is drawn and can hit something. -/
structure Visual (K : Type) where
  animation : Int32
  /-- The damage dealt on contact. -/
  damage : Int32
  radius : K

/-- A shot created beside its parent. -/
structure SubShotEntry (K : Type) where
  /-- The name of the template, as written. -/
  name : String
  /-- Where, relative to the parent. -/
  offset : Vec K

structure ShotDefinition (K : Type) where
  /-- Shots without an animation have no body. -/
  animation : Option Int32
  damage : Int32
  radius : K
  /-- The name of the step that drives the shot, as written. -/
  gimmick : Option String
  offset : Vec K
  subShots : List (SubShotEntry K)

namespace ShotDefinition

variable {K : Type} [Scalar K]

def visual (s : ShotDefinition K) : Option (Visual K) :=
  s.animation.map fun a => ⟨a, s.damage, s.radius⟩

/-- Such a shot could never do anything. -/
def isInert (s : ShotDefinition K) : Bool := s.animation.isNone && s.gimmick.isNone

/-! ### Reading -/

def maxSubShots : Nat := 100

/-- A point of two numbers; a third one is dropped. -/
def readOffset (v : Value) : Except Fault (Vec K) := do
  match ← Reader.list Reader.scalar v with
  | [x, y] => .ok ⟨x, y⟩
  | [x, y, _] => .ok ⟨x, y⟩
  | xs => .error (.wrongLength xs.length "a vector of 2 or 3 components")

inductive SubShotField where
  | name
  | offset

/-- The index, as written, and the field of a sub-shot's key. -/
def subShotKey? (key : String) : Option (String × SubShotField) :=
  let cs := key.toList
  if "subshot".toList.isPrefixOf cs then
    let rest := cs.drop 7
    let index := String.ofList (rest.takeWhile (· != '.'))
    match String.ofList (rest.dropWhile (· != '.')) with
    | ".name" => some (index, .name)
    | ".offset" => some (index, .offset)
    | _ => none
  else none

/-- The number of a sub-shot: digits, and less than the highest number of sub-shots. -/
def subShotIndex (written : String) : Except Fault Nat :=
  let ds := written.toList
  let n := Numeral.digitsValue ds
  if !ds.isEmpty && ds.all Numeral.isDigit && n < maxSubShots then .ok n
  else .error (.subShotIndex written)

/-- What the entries of a group have given so far. -/
structure Draft (K : Type) where
  animation : Option Int32 := none
  damage : Option Int32 := none
  radius : Option K := none
  gimmick : Option String := none
  offset : Option (Vec K) := none
  names : List (Nat × String) := []
  offsets : List (Nat × Vec K) := []

def Draft.read (d : Draft K) (key : String) (v : Value) : Except Fault (Draft K) :=
  match key with
  | "animation" => (Reader.once key d.animation Reader.i32 v).map ({ d with animation := · })
  | "damage" => (Reader.once key d.damage Reader.i32 v).map ({ d with damage := · })
  | "radius" => (Reader.once key d.radius Reader.scalar v).map ({ d with radius := · })
  | "gimmick" => (Reader.once key d.gimmick Reader.string v).map ({ d with gimmick := · })
  | "offset" => (Reader.once key d.offset readOffset v).map ({ d with offset := · })
  | _ =>
    match subShotKey? key with
    | none => .ok d
    | some (written, .name) => do
      let i ← subShotIndex written
      if (d.names.lookup i).isSome then .error (.duplicate s!"subshot{i}.name")
      else
        let name ← Reader.string v
        .ok { d with names := (i, name) :: d.names }
    | some (written, .offset) => do
      let i ← subShotIndex written
      if (d.offsets.lookup i).isSome then .error (.duplicate s!"subshot{i}.offset")
      else
        let offset ← readOffset v
        .ok { d with offsets := (i, offset) :: d.offsets }

/-- The sub-shot of a number, if there is one. -/
def Draft.subShot (d : Draft K) (i : Nat) : Except Fault (Option (SubShotEntry K)) :=
  match d.names.lookup i, d.offsets.lookup i with
  | some name, offset => .ok (some ⟨name, offset.getD Vec.zero⟩)
  | none, some _ => .error (.subShotUnnamed i)
  | none, none => .ok none

def Draft.finish (d : Draft K) : Except Fault (ShotDefinition K) := do
  let slots ← (List.range maxSubShots).mapM d.subShot
  .ok {
    animation := d.animation
    damage := d.damage.getD 1
    radius := d.radius.getD (nat 1)
    gimmick := d.gimmick
    offset := d.offset.getD Vec.zero
    subShots := slots.filterMap id }

def ofGroup (g : Group) : Except Fault (ShotDefinition K) := do
  (← g.readEntries Draft.read {}).finish

/-- A shot is a whole group and never a single value. -/
def ofValue (v : Value) : Except Fault (ShotDefinition K) :=
  let fields := ["animation", "damage", "radius", "gimmick", "offset", "subshotN.name",
    "subshotN.offset"]
  .error (.wrongType v.found ("one of " ++ ticked fields ", "))

end ShotDefinition

end Barrage
