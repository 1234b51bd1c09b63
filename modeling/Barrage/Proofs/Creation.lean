import Barrage.Spawn
import Mathlib.Tactic.Common

/-!
What the orders of a step come to.

An order names templates. Once these are looked up it is a row of births, and which births those
are, or which template is not there, is a matter of the catalog alone: neither the queue nor the
bodies have a say in it. So all that a step, a tree or a caller can do to a stage is to add a row of
births to it, and what a row adds is told here once: shots behind those that were queued, numbered
on from the last number issued, at frame zero, on the side they were created for.
-/

namespace Barrage

/-- What is settled about a shot before it is created. -/
structure Birth (K : Type) where
  place : Vec K
  visual : Option (Visual K)
  step : Option (Step K)

variable {K : Type}

lemma Catalog.find?_mem {c : Catalog K} {name : String} {t : Template K}
    (h : c.find? name = some t) : t ∈ c.templates := by
  obtain ⟨i, -, hi⟩ := Option.bind_eq_some_iff.mp h
  exact Array.mem_of_getElem? hi

variable [Scalar K]

/-- A tree is one of templates of the catalog. -/
lemma Catalog.unfold_mem {c : Catalog K} {depth : Nat} {t : Template K} {base : Vec K}
    (ht : t ∈ c.templates) {n : Template K × Vec K} (hn : n ∈ c.unfold depth t base) :
    n.1 ∈ c.templates := by
  induction depth generalizing t base with
  | zero => simp [Catalog.unfold] at hn
  | succ depth ih =>
    rw [Catalog.unfold] at hn
    rcases List.mem_cons.mp hn with rfl | hn
    · exact ht
    · obtain ⟨sub, -, hn⟩ := List.mem_flatMap.mp hn
      rcases hu : c.templates[sub.template]? with _ | u
      · simp [hu] at hn
      · rw [hu] at hn
        exact ih (Array.mem_of_getElem? hu) hn

namespace Stage

def add (st : Stage K) (side : Side) (b : Birth K) : Stage K :=
  (st.create side b.place b.visual b.step).2

def addAll (st : Stage K) (side : Side) (bs : List (Birth K)) : Stage K :=
  bs.foldl (fun st b => st.add side b) st

@[simp] lemma addAll_nil (st : Stage K) (side : Side) : st.addAll side [] = st := rfl

@[simp] lemma addAll_cons (st : Stage K) (side : Side) (b : Birth K) (bs : List (Birth K)) :
    st.addAll side (b :: bs) = (st.add side b).addAll side bs := rfl

lemma addAll_append (st : Stage K) (side : Side) (bs cs : List (Birth K)) :
    st.addAll side (bs ++ cs) = (st.addAll side bs).addAll side cs := by
  simp [addAll, List.foldl_append]

end Stage

/-! ### Orders as births -/

/-- The birth at a node of a tree. -/
def Birth.ofNode (n : Template K × Vec K) : Birth K := ⟨n.2, n.1.visual, n.1.step⟩

/-- The births of shots that look alike. -/
def Birth.row (visual : Option (Visual K)) (count : Nat) (each : Nat → Vec K × Step K) :
    List (Birth K) :=
  (List.range count).map fun i => ⟨(each i).1, visual, some (each i).2⟩

omit [Scalar K] in
@[simp] lemma Birth.length_row (visual : Option (Visual K)) (count : Nat)
    (each : Nat → Vec K × Step K) : (row visual count each).length = count := by
  simp [row]

namespace Order

/-- The births of an order, or the template that is not there. -/
def births (c : Catalog K) : Order K → Except SpawnError (List (Birth K))
  | .shots name count each =>
    if count = 0 then .ok []
    else
      match c.find? name with
      | none => .error (.unknownTemplate name)
      | some t => .ok (Birth.row t.visual count each)
  | .tree name place =>
    match c.find? name with
    | none => .error (.unknownTemplate name)
    | some t => .ok ((c.tree t place).map Birth.ofNode)
  | .carriers count each => .ok (Birth.row none count each)

/-- The births of orders up to the first that fails, and what it fails for. -/
def birthsAll (c : Catalog K) : List (Order K) → List (Birth K) × Option SpawnError
  | [] => ([], none)
  | o :: os =>
    match o.births c with
    | .ok bs => (bs ++ (birthsAll c os).1, (birthsAll c os).2)
    | .error e => ([], some e)

lemma births_shots {c : Catalog K} {name : String} {t : Template K} (h : c.find? name = some t)
    (count : Nat) (each : Nat → Vec K × Step K) :
    (shots name count each).births c = .ok (Birth.row t.visual count each) := by
  rw [births, h]
  split_ifs with h0
  · rw [h0]
    rfl
  · rfl

/-- The births of one order for shots that are there. -/
lemma birthsAll_shots {c : Catalog K} {name : String} {t : Template K}
    (h : c.find? name = some t) (count : Nat) (each : Nat → Vec K × Step K) :
    birthsAll c [.shots name count each] = (Birth.row t.visual count each, none) := by
  rw [birthsAll, births_shots h]
  simp [birthsAll]

lemma birthsAll_append {c : Catalog K} {os os' : List (Order K)} {bs bs' : List (Birth K)}
    (h : birthsAll c os = (bs, none)) (h' : birthsAll c os' = (bs', none)) :
    birthsAll c (os ++ os') = (bs ++ bs', none) := by
  induction os generalizing bs with
  | nil =>
    cases h
    exact h'
  | cons o os ih =>
    rw [birthsAll] at h
    rw [List.cons_append, birthsAll]
    rcases ho : o.births c with err | bs₁
    · simp [ho] at h
    · rw [ho] at h
      obtain ⟨rfl, hnone⟩ := Prod.mk.inj h
      rw [ih (Prod.ext rfl hnone), List.append_assoc]

/-- An order bears the members of a row, with steps of its own, or the nodes of a tree. -/
inductive Bears (c : Catalog K) : Order K → Birth K → Prop
  | shot {name : String} {count : Nat} {each : Nat → Vec K × Step K} {visual : Option (Visual K)}
      {i : Nat} (hi : i < count) :
      Bears c (.shots name count each) ⟨(each i).1, visual, some (each i).2⟩
  | node {name : String} {place : Vec K} {t : Template K} {n : Template K × Vec K}
      (ht : t ∈ c.templates) (hn : n ∈ c.tree t place) : Bears c (.tree name place) (.ofNode n)
  | carrier {count : Nat} {each : Nat → Vec K × Step K} {i : Nat} (hi : i < count) :
      Bears c (.carriers count each) ⟨(each i).1, none, some (each i).2⟩

lemma bears_of_births {c : Catalog K} {o : Order K} {bs : List (Birth K)}
    (h : o.births c = .ok bs) {b : Birth K} (hb : b ∈ bs) : Bears c o b := by
  rcases o with ⟨name, count, each⟩ | ⟨name, place⟩ | ⟨count, each⟩
  · rw [births] at h
    split at h
    · cases h
      cases hb
    · split at h
      · cases h
      · cases h
        obtain ⟨i, hi, rfl⟩ := List.mem_map.mp hb
        exact .shot (List.mem_range.mp hi)
  · rw [births] at h
    split at h
    · cases h
    · rename_i t ht
      cases h
      obtain ⟨n, hn, rfl⟩ := List.mem_map.mp hb
      exact .node (Catalog.find?_mem ht) hn
  · cases h
    obtain ⟨i, hi, rfl⟩ := List.mem_map.mp hb
    exact .carrier (List.mem_range.mp hi)

/-- Every birth of a row is that of one of the orders. -/
lemma exists_bears {c : Catalog K} {os : List (Order K)} {b : Birth K}
    (h : b ∈ (birthsAll c os).1) : ∃ o ∈ os, Bears c o b := by
  induction os with
  | nil => cases h
  | cons o os ih =>
    rw [birthsAll] at h
    rcases ho : o.births c with err | bs
    · rw [ho] at h
      cases h
    · rw [ho] at h
      rcases List.mem_append.mp h with hb | hb
      · exact ⟨o, List.mem_cons_self, bears_of_births ho hb⟩
      · obtain ⟨o', ho', hbears⟩ := ih hb
        exact ⟨o', List.mem_cons_of_mem o ho', hbears⟩

end Order

namespace Stage

lemma createAll_eq (st : Stage K) (side : Side) (nodes : List (Template K × Vec K)) :
    st.createAll side nodes = st.addAll side (nodes.map Birth.ofNode) := by
  rw [addAll, List.foldl_map]
  rfl

lemma createEach_eq (st : Stage K) (side : Side) (visual : Option (Visual K)) (count : Nat)
    (each : Nat → Vec K × Step K) :
    st.createEach side visual count each = st.addAll side (Birth.row visual count each) := by
  rw [addAll, Birth.row, List.foldl_map]
  rfl

lemma obey_eq (st : Stage K) (c : Catalog K) (side : Side) (o : Order K) :
    st.obey c side o = (o.births c).map (st.addAll side) := by
  rcases o with ⟨name, count, each⟩ | ⟨name, place⟩ | ⟨count, each⟩
  · by_cases h0 : count = 0
    · simp [obey, Order.births, h0, Except.map]
    · rcases hf : c.find? name with _ | t <;>
        simp [obey, Order.births, h0, hf, Except.map, createEach_eq]
  · rcases hf : c.find? name with _ | t <;>
      simp [obey, spawnTree, Order.births, hf, Except.map, createAll_eq]
  · simp [obey, Order.births, Except.map, createEach_eq]

/-- **Orders come to births**, and the stage decides nothing about them. -/
theorem obeyAll_eq (st : Stage K) (c : Catalog K) (side : Side) (os : List (Order K)) :
    st.obeyAll c side os =
      (st.addAll side (Order.birthsAll c os).1, (Order.birthsAll c os).2) := by
  induction os generalizing st with
  | nil => rfl
  | cons o os ih =>
    rw [obeyAll, obey_eq, Order.birthsAll]
    rcases o.births c with e | bs
    · rfl
    · simp only [Except.map, ih, addAll_append]

/-! ### What a birth adds -/

/-- The body of a birth, if it gets one, among the bodies. -/
def embody (st : Stage K) (side : Side) (b : Birth K) : Option BodyId × Bodies K :=
  match b.visual with
  | none => (none, st.bodies)
  | some v =>
    let (body, bodies) := st.bodies.add
      ⟨⟨st.queue.issued + 1⟩, b.place, v.animation, v.radius, side.list⟩
    (some body, bodies)

/-- The shot of a birth. -/
def newborn (st : Stage K) (side : Side) (b : Birth K) : Shot K where
  id := ⟨st.queue.issued + 1⟩
  frame := 0
  owner := side.owner
  origin := b.place
  step := b.step
  list := side.list
  body := (st.embody side b).1
  damage := (b.visual.map (·.damage)).getD 0

lemma add_eq (st : Stage K) (side : Side) (b : Birth K) :
    st.add side b = ⟨⟨st.queue.pending.push (st.newborn side b), st.queue.issued + 1⟩,
      (st.embody side b).2⟩ := by
  rcases h : b.visual with _ | v <;> simp [add, create, newborn, embody, h]

/-- The shots of a row of births. -/
def newborns (st : Stage K) (side : Side) : List (Birth K) → List (Shot K)
  | [] => []
  | b :: bs => st.newborn side b :: (st.add side b).newborns side bs

lemma issued_addAll (st : Stage K) (side : Side) (bs : List (Birth K)) :
    (st.addAll side bs).queue.issued = st.queue.issued + bs.length := by
  induction bs generalizing st with
  | nil => rfl
  | cons b bs ih =>
    rw [addAll_cons, ih, add_eq, List.length_cons]
    simp only
    omega

/-- New shots stand behind those that were queued. -/
lemma pending_addAll (st : Stage K) (side : Side) (bs : List (Birth K)) :
    (st.addAll side bs).queue.pending.toList =
      st.queue.pending.toList ++ st.newborns side bs := by
  induction bs generalizing st with
  | nil => simp [newborns]
  | cons b bs ih =>
    rw [addAll_cons, ih, newborns, add_eq]
    simp

/-- New shots are numbered on from the last number issued. -/
lemma ids_newborns (st : Stage K) (side : Side) (bs : List (Birth K)) :
    (st.newborns side bs).map (·.id.raw) = List.range' (st.queue.issued + 1) bs.length := by
  induction bs generalizing st with
  | nil => rfl
  | cons b bs ih =>
    rw [newborns, List.map_cons, ih, add_eq, List.length_cons, List.range'_succ]
    rfl

lemma length_newborns (st : Stage K) (side : Side) (bs : List (Birth K)) :
    (st.newborns side bs).length = bs.length := by
  have := congrArg List.length (ids_newborns st side bs)
  simpa using this

/-- New shots start at frame zero, on the side they were created for. -/
lemma of_mem_newborns {st : Stage K} {side : Side} {bs : List (Birth K)} {s : Shot K}
    (h : s ∈ st.newborns side bs) : s.frame = 0 ∧ s.owner = side.owner ∧ s.list = side.list := by
  induction bs generalizing st with
  | nil => simp [newborns] at h
  | cons b bs ih =>
    rcases List.mem_cons.mp h with rfl | h'
    · exact ⟨rfl, rfl, rfl⟩
    · exact ih h'

/-- Every new shot comes of a birth of the row. -/
lemma exists_birth {st : Stage K} {side : Side} {bs : List (Birth K)} {s : Shot K}
    (h : s ∈ st.newborns side bs) : ∃ b ∈ bs, s.origin = b.place ∧ s.step = b.step ∧
      s.body.isSome = b.visual.isSome := by
  induction bs generalizing st with
  | nil => simp [newborns] at h
  | cons b bs ih =>
    rcases List.mem_cons.mp h with rfl | h'
    · refine ⟨b, by simp, rfl, rfl, ?_⟩
      rcases hv : b.visual with _ | v <;> simp [newborn, embody, hv]
    · obtain ⟨b', hb', hs⟩ := ih h'
      exact ⟨b', by simp [hb'], hs⟩

end Stage

end Barrage
