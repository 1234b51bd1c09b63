import Barrage.CollisionList
import Barrage.ShotDefinition

/-!
Reading a group by a description of its fields that is itself data. Each field has a kind; the value
of an entry is read as the kind of its key.
-/

namespace Barrage

inductive Mode where
  | fast
  | slow
  deriving Repr, DecidableEq

def Mode.read : Reader Mode := Reader.variant "Mode" [("fast", fast), ("slow", slow)]

/-- A collision list by its name. The lists that carry a number cannot be named alone. -/
def CollisionList.read (v : Value) : Except Fault CollisionList := do
  let named ← Reader.variant "CollisionList"
    [("player", some player), ("enemy", some enemy), ("player_shot", some playerShot),
      ("enemy_shot", some enemyShot), ("custom", none)] v
  match named with
  | some list => .ok list
  | none => .error (.wrongType .bareName "newtype variant")

/-- The kinds of values. -/
inductive Kind where
  | bool
  | u8
  | i32
  | u32
  | i64
  | u64
  | f32
  | f64
  | char
  | string
  | maybeI32
  | maybeString
  | listF32
  | listI32
  | pair
  | mode
  | list
  | unit
  | shot
  | ignored
  deriving Repr, DecidableEq

/-- What was read. -/
inductive Datum (K : Type) where
  | bool (b : Bool)
  | word (i : Int)
  /-- A whole number of 64 bits. -/
  | longWord (i : Int)
  | single (x : K)
  | double (x : Float)
  | string (s : String)
  | singles (xs : List K)
  | words (is : List Int)
  | mode (m : Mode)
  | list (l : CollisionList)
  | unit
  | ignored

variable {K : Type} [Scalar K]

def Kind.read (k : Kind) (v : Value) : Except Fault (Datum K) :=
  match k with
  | .bool => (Reader.bool v).map .bool
  | .u8 => (Reader.u8 v).map fun n => .word n.toNat
  | .i32 | .maybeI32 => (Reader.i32 v).map fun n => .word n.toInt
  | .u32 => (Reader.u32 v).map fun n => .word n.toNat
  | .i64 => (Reader.i64 v).map .longWord
  | .u64 => (Reader.u64 v).map fun n => .longWord n.toNat
  | .f32 => (Reader.scalar v).map .single
  | .f64 => (Reader.f64 v).map .double
  | .char => (Reader.char v).map fun c => .string c.toString
  | .string | .maybeString => (Reader.string v).map .string
  | .listF32 => (Reader.list Reader.scalar v).map .singles
  | .listI32 => (Reader.list Reader.i32 v).map fun ns => .words (ns.map (·.toInt))
  | .pair => (Reader.pair Reader.scalar v).map fun p => .singles [p.1, p.2]
  | .mode => (Mode.read v).map .mode
  | .list => (CollisionList.read v).map .list
  | .unit => (Reader.unit v).map fun _ => .unit
  | .shot => (ShotDefinition.ofValue (K := K) v).map fun _ => .ignored
  | .ignored => .ok .ignored

namespace Group

/-- Every entry in the order of the file, read as the kind of its key. -/
def readEach (g : Group) (kinds : List (String × Kind)) :
    Except Fault (List (String × Datum K)) :=
  g.entries.mapM fun e =>
    (((kinds.lookup e.1).getD .ignored).read e.2).map fun d => (e.1, d)

/-- Every entry read as one kind; the last one of a key counts. -/
def readMap (g : Group) (kind : Kind) : Except Fault (List (String × Datum K)) :=
  g.readEntries
    (fun found key v => (kind.read v).map fun d => (key, d) :: found.filter (·.1 != key)) []

end Group

/-- A field of a record. -/
structure Field where
  name : String
  kind : Kind
  optional : Bool := false

/-- The fields of a record in the order of its description, as far as the group has them. An entry
of another key is skipped; a field that is missing is found out once all entries are read. -/
def Group.readRecord (g : Group) (fields : List Field) :
    Except Fault (List (String × Option (Datum K))) := do
  let found : List (String × Datum K) ← g.readEntries
    (fun found key v =>
      match fields.find? (·.name == key) with
      | none => .ok found
      | some f =>
        if (found.lookup key).isSome then .error (.duplicate key)
        else (f.kind.read v).map fun d => (key, d) :: found) []
  fields.mapM fun f =>
    match found.lookup f.name with
    | some d => .ok (f.name, some d)
    | none => if f.optional then .ok (f.name, none) else .error (.missing f.name)

end Barrage
