import Barrage.Definition.Error
import Barrage.Definition.Reader
import Barrage.Vec

/-!
The settings of an engine. Shots play in a rectangle, the playfield; a body that drifts further than
the margin outside of it is culled.
-/

namespace Barrage

open Scalar (nat)

structure Config (K : Type) where
  left : K
  top : K
  width : K
  height : K
  cullMargin : K
  /-- The seed of the random numbers. -/
  seed : UInt64

namespace Config

variable {K : Type} [Scalar K]

def default : Config K := ⟨nat 0, nat 0, nat 320, nat 240, nat 15, 0⟩

/-- Strictly inside the playfield. -/
def contains (c : Config K) (p : Vec K) : Bool :=
  c.left < p.x && p.x < c.left + c.width && c.top < p.y && p.y < c.top + c.height

def isCulled (c : Config K) (p : Vec K) : Bool :=
  p.x < c.left - c.cullMargin || c.left + c.width + c.cullMargin < p.x ||
    p.y < c.top - c.cullMargin || c.top + c.height + c.cullMargin < p.y

/-- The point at the given shares of the width and of the height. -/
def point (c : Config K) (fx fy : K) : Vec K := ⟨c.left + c.width * fx, c.top + c.height * fy⟩

/-! ### Reading -/

/-- The settings that a group has given so far. -/
structure Draft (K : Type) where
  left : Option K := none
  top : Option K := none
  width : Option K := none
  height : Option K := none
  cullMargin : Option K := none
  seed : Option UInt64 := none

def Draft.read (d : Draft K) (key : String) (v : Value) : Except Fault (Draft K) :=
  match key with
  | "left" => (Reader.once key d.left Reader.scalar v).map ({ d with left := · })
  | "top" => (Reader.once key d.top Reader.scalar v).map ({ d with top := · })
  | "width" => (Reader.once key d.width Reader.scalar v).map ({ d with width := · })
  | "height" => (Reader.once key d.height Reader.scalar v).map ({ d with height := · })
  | "cull_margin" => (Reader.once key d.cullMargin Reader.scalar v).map ({ d with cullMargin := · })
  | "seed" => (Reader.once key d.seed Reader.u64 v).map ({ d with seed := · })
  | _ => .ok d

/-- What a group leaves out keeps its default. -/
def Draft.finish (d : Draft K) : Config K where
  left := d.left.getD default.left
  top := d.top.getD default.top
  width := d.width.getD default.width
  height := d.height.getD default.height
  cullMargin := d.cullMargin.getD default.cullMargin
  seed := d.seed.getD (default : Config K).seed

def ofGroup (g : Group) : Except Fault (Config K) :=
  (g.readEntries Draft.read {}).map Draft.finish

/-- The settings in the group `Engine` of a definition, or the defaults if there is none. -/
def ofDefinition (d : Definition) : Except DefinitionError (Config K) :=
  match d.group? "Engine" with
  | some g => g.attempt ofGroup
  | none => .ok default

end Config

end Barrage
