import Barrage.Step.Burst

/-!
Emitters that fire whenever their period comes round, from their owner, and stop once it is gone.
-/

namespace Barrage

open Scalar (nat)

variable {K : Type} [Scalar K]

/-- A tick of an emitter: the orders of its source, or the end of it. -/
def emit (v : View K) (step : Step K) (orders : Vec K → List (Order K)) : Turn K :=
  match v.source with
  | none => { step, signal := .finish }
  | some place => { step, signal := .keep, orders := orders place }

/-- Orders of the frames on which a period comes round. -/
def onPeriod (v : View K) (every : UInt32) (orders : List (Order K)) : List (Order K) :=
  if fires v.frame every then orders else []

def Flower.run (s : Flower K) (v : View K) : Turn K :=
  emit v (.flower s) fun place => onPeriod v s.every
    [.shots s.template s.count.toNat fun i =>
      (place, .wobble ⟨ring s.count (nat 0) i, s.jitter, s.period, s.speed⟩)]

def Spiral.run (s : Spiral K) (v : View K) : Turn K :=
  emit v (.spiral s) fun place =>
    let first := Heading.wrap (s.turn * nat v.frame.toNat)
    onPeriod v s.every
      [.shots s.template s.count.toNat fun i =>
        let heading := ring s.count first i
        (place + (Heading.toVec heading).scale s.radius,
          .zigzag ⟨heading, s.kink, s.period, s.speed⟩)]

namespace Stream

/-- The headings of a firing: the sweeping one and its mirror image, unless they are the same. -/
def headings (s : Stream K) (frame : UInt32) : List K :=
  let heading := Heading.wrap (s.turn * nat frame.toNat)
  let mirrored := Heading.wrap (nat 360 - heading)
  if Scalar.epsilon < Scalar.abs (mirrored - heading) then [heading, mirrored] else [heading]

def run (s : Stream K) (v : View K) : Turn K :=
  emit v (.stream s) fun place =>
    let pair := onPeriod v s.every <| (s.headings v.frame).map fun heading =>
      .shots s.template 1 fun _ => (place, .angled ⟨heading, s.speed⟩)
    let extra := s.extra.toList.flatMap fun e => onPeriod v e.2 [.tree e.1 place]
    pair ++ extra

end Stream

namespace Rain

/-- Above the top edge, but never farther than the margin allows. -/
def lead (c : Config K) : K :=
  Scalar.least (c.height * Scalar.decimal 5 2) (c.cullMargin * Scalar.decimal 5 1)

/-- Where a drop appears, at a share of the width. -/
def dropPoint (c : Config K) (share : K) : Vec K :=
  ⟨(c.point share (nat 0)).x, c.top - lead c⟩

def volleyOrder (volley : RainVolley K) (place : Vec K) : Order K :=
  aimedVolley volley.template place volley.count volley.first volley.turn volley.speed (nat 0)

def run (s : Rain K) (v : View K) (r : Random) : Turn K × Random :=
  match v.source with
  | none => ({ step := .rain s, signal := .finish }, r)
  | some place =>
    let (drops, r) :=
      if fires v.frame s.every then
        let (share, r) := r.between (nat 0) (nat 1)
        let drop : Order K := .shots s.template 1 fun _ =>
          (dropPoint v.config share, .angled ⟨Heading.down, s.speed⟩)
        ([drop], r)
      else ([], r)
    let volleys := s.volley.toList.flatMap fun w => onPeriod v w.every [volleyOrder w place]
    ({ step := .rain s, signal := .keep, orders := drops ++ volleys }, r)

end Rain

/-- The ring of a firing is turned by as much again as the one before. -/
def Cascade.run (s : Cascade K) (v : View K) : Turn K :=
  emit v (.cascade s) fun place =>
    let spin := s.turn * nat (v.frame.toNat / period s.every)
    onPeriod v s.every
      [.shots s.template s.branches.toNat fun i =>
        (place, .fractal {
          template := s.template
          depth := s.depth
          branches := s.branches
          heading := ring s.branches spin i
          spin := spin
          speed := s.speed
          splitAfter := s.splitAfter })]

end Barrage
