/-!
Storage whose keys are never used twice. A value lies in a slot; a handle names the slot and the
slot's generation, which grows when the slot is vacated, so that a handle to a value that was
removed does not find the next one that lies there. The slot vacated last is filled first.
-/

namespace Barrage

structure Handle where
  index : UInt32
  generation : UInt32
  deriving Repr, DecidableEq

namespace Handle

/-- The handle as one word: the generation above the index. -/
def toBits (h : Handle) : UInt64 := (h.generation.toUInt64 <<< 32) ||| h.index.toUInt64

def ofBits (bits : UInt64) : Handle := ⟨bits.toUInt32, (bits >>> 32).toUInt32⟩

/-- Handles are ordered by slot, and those of one slot by generation. -/
instance : Ord Handle where
  compare g h := (compare g.index h.index).then (compare g.generation h.generation)

theorem eq_of_index {g h : Handle} (hi : g.index.toNat = h.index.toNat)
    (hg : g.generation = h.generation) : g = h := by
  obtain ⟨i, n⟩ := g
  obtain ⟨j, m⟩ := h
  obtain rfl := UInt32.toNat_inj.1 hi
  cases hg
  rfl

end Handle

structure Slot (α : Type) where
  generation : UInt32
  value : Option α

structure Arena (α : Type) where
  slots : Array (Slot α) := #[]
  /-- The vacated slots, the last one first. -/
  free : List UInt32 := []
  size : Nat := 0

namespace Arena

variable {α : Type}

def empty : Arena α := {}

def get? (a : Arena α) (h : Handle) : Option α :=
  match a.slots[h.index.toNat]? with
  | some s => if s.generation = h.generation then s.value else none
  | none => none

def contains (a : Arena α) (h : Handle) : Bool := (a.get? h).isSome

def isEmpty (a : Arena α) : Bool := a.size == 0

/-- The generation that a slot is in. -/
def generation (a : Arena α) (index : UInt32) : UInt32 :=
  match a.slots[index.toNat]? with
  | some s => s.generation
  | none => 0

def insert (a : Arena α) (v : α) : Handle × Arena α :=
  match a.free with
  | i :: rest =>
    let h : Handle := ⟨i, a.generation i⟩
    (h, { slots := a.slots.setIfInBounds i.toNat ⟨h.generation, some v⟩
          free := rest
          size := a.size + 1 })
  | [] =>
    (⟨UInt32.ofNat a.slots.size, 0⟩,
      { a with slots := a.slots.push ⟨0, some v⟩, size := a.size + 1 })

/-- The arena without the value of a handle; a handle that finds nothing changes nothing. -/
def erase (a : Arena α) (h : Handle) : Arena α :=
  if a.contains h then
    { slots := a.slots.setIfInBounds h.index.toNat ⟨h.generation + 1, none⟩
      free := h.index :: a.free
      size := a.size - 1 }
  else a

/-- The value of a handle taken out, and the arena without it. -/
def remove (a : Arena α) (h : Handle) : Option α × Arena α :=
  match a.slots[h.index.toNat]? with
  | none => (none, a)
  | some s =>
    if s.generation ≠ h.generation then (none, a)
    else
      match s.value with
      | none => (none, a)
      | some v =>
        (some v, { slots := a.slots.setIfInBounds h.index.toNat ⟨s.generation + 1, none⟩
                   free := h.index :: a.free
                   size := a.size - 1 })

/-- The value of a handle put through `f`; a handle that finds nothing changes nothing. -/
def modify (a : Arena α) (h : Handle) (f : α → α) : Arena α :=
  match a.get? h with
  | some v => { a with slots := a.slots.setIfInBounds h.index.toNat ⟨h.generation, some (f v)⟩ }
  | none => a

/-- Every value put through `f`. -/
def map (a : Arena α) (f : α → α) : Arena α :=
  { a with slots := a.slots.map fun s => { s with value := s.value.map f } }

/-- Slots gone through in order, of which the first is the `i`-th of the arena. Whoever goes through
them is told each value with its handle, keeps in mind what it likes, and leaves a value behind. -/
def sweepFrom {σ : Type} (f : σ → Handle → α → σ × α) :
    Nat → σ → List (Slot α) → σ × List (Slot α)
  | _, m, [] => (m, [])
  | i, m, s :: ss =>
    match s.value with
    | none =>
      let (m, ss) := sweepFrom f (i + 1) m ss
      (m, s :: ss)
    | some v =>
      let (m, w) := f m ⟨UInt32.ofNat i, s.generation⟩ v
      let (m, ss) := sweepFrom f (i + 1) m ss
      (m, { s with value := some w } :: ss)

def sweep {σ : Type} (a : Arena α) (f : σ → Handle → α → σ × α) (m : σ) : σ × Arena α :=
  let (m, ss) := sweepFrom f 0 m a.slots.toList
  (m, { a with slots := ss.toArray })

/-- The values with their handles, in the order of the slots. -/
def entries (a : Arena α) : List (Handle × α) :=
  a.slots.toList.zipIdx.filterMap fun (s, i) => s.value.map (⟨UInt32.ofNat i, s.generation⟩, ·)

def values (a : Arena α) : List α := a.entries.map (·.2)

/-! ### What a handle finds -/

/-- A handle finds what lies in its slot in its generation. -/
theorem get?_eq_some {a : Arena α} {h : Handle} {v : α} :
    a.get? h = some v ↔ a.slots[h.index.toNat]? = some ⟨h.generation, some v⟩ := by
  unfold get?
  split
  · rename_i s hs
    obtain ⟨n, w⟩ := s
    by_cases hn : n = h.generation <;> simp [hs, hn]
  · rename_i hs
    simp [hs]

/-- What is taken out is what the handle finds. -/
theorem remove_eq (a : Arena α) (h : Handle) : a.remove h = (a.get? h, a.erase h) := by
  unfold remove erase contains get?
  split
  · rename_i hs
    simp [hs]
  · rename_i s hs
    by_cases hg : s.generation = h.generation
    · rcases hv : s.value with _ | v <;> simp [hs, hg, hv]
    · simp [hs, hg]

theorem get?_modify (a : Arena α) (h g : Handle) (f : α → α) :
    (a.modify h f).get? g = if g = h then (a.get? h).map f else a.get? g := by
  cases hv : a.get? h with
  | none =>
    have same : a.modify h f = a := by rw [modify, hv]
    by_cases hg : g = h <;> simp [same, hg, hv]
  | some v =>
    obtain ⟨hlt, hval⟩ := Array.getElem?_eq_some_iff.1 (get?_eq_some.1 hv)
    rw [modify, hv]
    ext w
    rw [get?_eq_some, Array.getElem?_setIfInBounds]
    by_cases hi : h.index.toNat = g.index.toNat
    · by_cases hg : g = h
      · subst hg
        simp [hlt]
      · have hgen : h.generation ≠ g.generation := fun hgen => hg (Handle.eq_of_index hi hgen).symm
        simp [get?_eq_some, ← hi, hlt, hval, hgen, hg]
    · have hg : g ≠ h := fun hg => hi (hg ▸ rfl)
      simp [get?_eq_some, hi, hg]

theorem get?_erase (a : Arena α) (h g : Handle) :
    (a.erase h).get? g = if g = h then none else a.get? g := by
  cases hv : a.get? h with
  | none =>
    have same : a.erase h = a := by simp [erase, contains, hv]
    by_cases hg : g = h <;> simp [same, hg, hv]
  | some v =>
    obtain ⟨hlt, hval⟩ := Array.getElem?_eq_some_iff.1 (get?_eq_some.1 hv)
    rw [erase, contains, hv]
    ext w
    rw [Option.isSome_some, if_pos rfl, get?_eq_some, Array.getElem?_setIfInBounds]
    by_cases hi : h.index.toNat = g.index.toNat
    · by_cases hg : g = h
      · subst hg
        simp [hlt]
      · have hgen : h.generation ≠ g.generation := fun hgen => hg (Handle.eq_of_index hi hgen).symm
        simp [get?_eq_some, ← hi, hlt, hval, hgen, hg]
    · have hg : g ≠ h := fun hg => hi (hg ▸ rfl)
      simp [get?_eq_some, hi, hg]

end Arena

end Barrage
