import Barrage.Proofs.Storage
import Mathlib.Data.Set.Card

/-!
Handles are never used twice.

The generation of a slot is the number of times that the slot was vacated. A handle that was issued
finds its value until it is removed, and from then on the slot is in a later generation than the
handle says, so that it is never issued again. What a handle finds is therefore told by the record
of what was called: it was issued, it was not removed since, and what it finds is what was left
there last. All of this needs the slots and the generations of each to be told apart by 32 bits.
-/

namespace Barrage

/-! ### Handles as words -/

namespace Handle

lemma toNat_toBits (h : Handle) :
    h.toBits.toNat = h.generation.toNat * 2 ^ 32 + h.index.toNat := by
  have hi := h.index.toNat_lt
  have hg := h.generation.toNat_lt
  have hshift : (h.generation.toUInt64 <<< 32).toNat = h.generation.toNat <<< 32 := by
    simp only [UInt64.toNat_shiftLeft, UInt32.toNat_toUInt64, Nat.shiftLeft_eq]
    simp
    omega
  rw [toBits, UInt64.toNat_or, hshift, UInt32.toNat_toUInt64,
    ← Nat.shiftLeft_add_eq_or_of_lt hi, Nat.shiftLeft_eq]

/-- A handle is told in full by its word. -/
theorem ofBits_toBits (h : Handle) : ofBits h.toBits = h := by
  have hbits := h.toNat_toBits
  have hi := h.index.toNat_lt
  have hg := h.generation.toNat_lt
  refine eq_of_index ?_ (UInt32.toNat_inj.mp ?_)
  · simp only [ofBits, UInt64.toNat_toUInt32, hbits]
    omega
  · simp only [ofBits, UInt64.toNat_toUInt32, UInt64.toNat_shiftRight, hbits,
      Nat.shiftRight_eq_div_pow]
    simp
    omega

end Handle

namespace Arena

variable {α : Type} {a : Arena α}

/-! ### Sweeps -/

/-- Entries gone through in order: each value is replaced by what is made of it. -/
def replaceAll {σ : Type} (f : σ → Handle → α → σ × α) :
    σ → List (Handle × α) → σ × List (Handle × α)
  | m, [] => (m, [])
  | m, (h, v) :: es =>
    let (m, w) := f m h v
    let (m, es) := replaceAll f m es
    (m, (h, w) :: es)

/-- The entries of slots, of which the first is the `i`-th. -/
def entriesFrom (i : Nat) (slots : List (Slot α)) : List (Handle × α) :=
  (slots.zipIdx i).filterMap fun (s, i) => s.value.map (⟨UInt32.ofNat i, s.generation⟩, ·)

lemma entriesFrom_cons (i : Nat) (s : Slot α) (ss : List (Slot α)) : entriesFrom i (s :: ss) =
    (s.value.map (⟨UInt32.ofNat i, s.generation⟩, ·)).toList ++ entriesFrom (i + 1) ss := by
  simp only [entriesFrom, List.zipIdx_cons, List.filterMap_cons]
  rcases s.value with _ | v <;> rfl

lemma sweepFrom_entries {σ : Type} (f : σ → Handle → α → σ × α) (i : Nat) (m : σ)
    (slots : List (Slot α)) :
    ((sweepFrom f i m slots).1, entriesFrom i (sweepFrom f i m slots).2) =
      replaceAll f m (entriesFrom i slots) := by
  induction slots generalizing i m with
  | nil => rfl
  | cons s ss ih =>
    rw [sweepFrom, entriesFrom_cons]
    rcases hv : s.value with _ | v
    · have hrest := ih (i + 1) m
      simp only [entriesFrom_cons, hv, Option.map_none, Option.toList_none, List.nil_append]
      exact hrest
    · have hrest := ih (i + 1) (f m ⟨UInt32.ofNat i, s.generation⟩ v).1
      simp only [entriesFrom_cons, Option.map_some, Option.toList_some, List.singleton_append,
        replaceAll]
      rw [← hrest]

/-- **A sweep meets the entries in their order**, and leaves what is put in their places. -/
theorem sweep_entries {σ : Type} (a : Arena α) (f : σ → Handle → α → σ × α) (m : σ) :
    ((a.sweep f m).1, (a.sweep f m).2.entries) = replaceAll f m a.entries :=
  sweepFrom_entries f 0 m a.slots.toList

/-! ### The record of calls -/

/-- A call and what it answered. -/
inductive Event (α : Type) where
  | inserted (h : Handle) (v : α)
  | removed (h : Handle) (answer : Option α)
  /-- Whoever asks for a value to change it may make anything of it. -/
  | wrote (h : Handle) (f : α → α)

/-- The arenas that calls lead to, with the record of the calls. -/
inductive History : List (Event α) → Arena α → Prop where
  | new : History [] empty
  | insert {log : List (Event α)} {a : Arena α} (v : α) (h : History log a) :
      History (log ++ [.inserted (a.insert v).1 v]) (a.insert v).2
  | remove {log : List (Event α)} {a : Arena α} (g : Handle) (h : History log a) :
      History (log ++ [.removed g (a.remove g).1]) (a.remove g).2
  | write {log : List (Event α)} {a : Arena α} (g : Handle) (f : α → α) (h : History log a) :
      History (log ++ [.wrote g f]) (a.modify g f)

/-- The handles that were answered to insertions. -/
def issued (log : List (Event α)) : List Handle :=
  log.filterMap fun
    | .inserted h _ => some h
    | _ => none

def Event.vacates (i : Nat) : Event α → Bool
  | .removed h (some _) => h.index.toNat == i
  | _ => false

/-- How many times a slot was vacated. -/
def vacated (log : List (Event α)) (i : Nat) : Nat := log.countP (Event.vacates i)

/-- What becomes of the value `v` that lies behind `h`. -/
def Event.rewrite (h : Handle) (v : α) : Event α → α
  | .wrote g f => if g = h then f v else v
  | _ => v

/-- The handle was issued, it was not removed since, and `v` is what was left behind it last. -/
def Stored (log : List (Event α)) (h : Handle) (v : α) : Prop :=
  ∃ before first since, log = before ++ .inserted h first :: since ∧
    (∀ answer, .removed h answer ∉ since) ∧ v = since.foldl (Event.rewrite h) first

variable {log : List (Event α)} {h g : Handle} {v w : α}

lemma issued_concat_inserted : issued (log ++ [.inserted h v]) = issued log ++ [h] := by
  simp [issued]

lemma issued_concat_removed {answer : Option α} :
    issued (log ++ [.removed h answer]) = issued log := by
  simp [issued]

lemma issued_concat_wrote {f : α → α} : issued (log ++ [.wrote h f]) = issued log := by
  simp [issued]

lemma vacated_concat (e : Event α) (i : Nat) :
    vacated (log ++ [e]) i = vacated log i + if e.vacates i then 1 else 0 := by
  simp [vacated, List.countP_append, List.countP_singleton]

lemma vacated_le_concat (e : Event α) (i : Nat) : vacated log i ≤ vacated (log ++ [e]) i := by
  rw [vacated_concat]
  omega

/-- The last event of a record is the insertion, or it is the last one since. -/
lemma concat_cases {e e' : Event α} {before since : List (Event α)}
    (heq : log ++ [e] = before ++ e' :: since) : (since = [] ∧ e = e' ∧ log = before) ∨
      ∃ since', since = since' ++ [e] ∧ log = before ++ e' :: since' := by
  rcases List.eq_nil_or_concat since with rfl | ⟨since', e₂, rfl⟩
  · obtain ⟨hlog, he⟩ := List.append_inj' heq rfl
    exact .inl ⟨rfl, (List.cons.inj he).1, hlog⟩
  · rw [List.concat_eq_append, ← List.cons_append, ← List.append_assoc] at heq
    obtain ⟨hlog, he⟩ := List.append_inj' heq rfl
    exact .inr ⟨since', by rw [List.concat_eq_append, (List.cons.inj he).1], hlog⟩

/-- An event that is no insertion of `h` and no removal of it leaves what is stored behind `h`,
rewritten. -/
lemma stored_concat {e : Event α} (hinsert : ∀ first, e ≠ .inserted h first)
    (hremove : ∀ answer, e ≠ .removed h answer) :
    Stored (log ++ [e]) h w ↔ ∃ v, Stored log h v ∧ w = e.rewrite h v := by
  constructor
  · rintro ⟨before, first, since, heq, hkept, rfl⟩
    rcases concat_cases heq with ⟨-, he, -⟩ | ⟨since, rfl, rfl⟩
    · exact absurd he (hinsert first)
    · exact ⟨_, ⟨before, first, since, rfl, fun answer hmem => hkept answer (by simp [hmem]), rfl⟩,
        by simp⟩
  · rintro ⟨_, ⟨before, first, since, rfl, hkept, rfl⟩, rfl⟩
    refine ⟨before, first, since ++ [e], by simp, fun answer hmem => ?_, by simp⟩
    rcases List.mem_append.mp hmem with hmem | hmem
    · exact hkept answer hmem
    · exact hremove answer (List.mem_singleton.mp hmem).symm

lemma stored_concat_removed {answer : Option α} :
    Stored (log ++ [.removed g answer]) h w ↔ h ≠ g ∧ Stored log h w := by
  by_cases hg : h = g
  · subst hg
    refine iff_of_false ?_ fun hs => hs.1 rfl
    rintro ⟨before, first, since, heq, hkept, -⟩
    rcases concat_cases heq with ⟨-, he, -⟩ | ⟨since, rfl, -⟩
    · cases he
    · exact hkept answer (by simp)
  · have hother : ∀ answer', Event.removed g answer ≠ .removed h answer' := fun _ he =>
      hg (Event.removed.inj he).1.symm
    rw [stored_concat (by simp) hother]
    simp [hg, Event.rewrite]

lemma stored_concat_wrote {f : α → α} : Stored (log ++ [.wrote g f]) h w ↔
    ∃ v, Stored log h v ∧ w = if h = g then f v else v := by
  rw [stored_concat (by simp) (by simp)]
  simp only [Event.rewrite, eq_comm (a := g)]

/-- Behind a handle that is issued for the first time lies what it was issued for. -/
lemma stored_concat_inserted (hnew : g ∉ issued log) :
    Stored (log ++ [.inserted g v]) h w ↔ if h = g then w = v else Stored log h w := by
  split
  · rename_i hg
    subst hg
    constructor
    · rintro ⟨before, first, since, heq, -, rfl⟩
      rcases concat_cases heq with ⟨rfl, he, -⟩ | ⟨since, -, rfl⟩
      · exact (Event.inserted.inj he).2.symm
      · exact absurd (by simp [issued]) hnew
    · rintro rfl
      exact ⟨log, w, [], rfl, by simp, rfl⟩
  · rename_i hg
    have hother : ∀ first, Event.inserted g v ≠ .inserted h first := fun _ he =>
      hg (Event.inserted.inj he).1.symm
    rw [stored_concat hother (by simp)]
    simp [Event.rewrite]

/-! ### The generations of slots -/

lemma generation_of_get? (hv : a.get? h = some v) : a.generation h.index = h.generation := by
  rw [generation, get?_eq_some.mp hv]

/-- A new handle is of the generation that its slot is in already. -/
lemma generation_insert (hs : a.Sound) (v : α) (room : a.Room) (i : UInt32) :
    (a.insert v).2.generation i = a.generation i ∧
      (a.insert v).1.generation = a.generation (a.insert v).1.index := by
  obtain ⟨hnew, -, hother⟩ := insert_slot hs v room
  have hgen : (a.insert v).1.generation = a.generation (a.insert v).1.index := by
    rcases hf : a.free with _ | ⟨j, rest⟩
    · have hlt : a.slots.size < UInt32.size := room.resolve_left (by simp [hf])
      have hsize : (UInt32.ofNat a.slots.size).toNat = a.slots.size :=
        UInt32.toNat_ofNat_of_lt' hlt
      simp [insert, hf, generation, hsize]
    · simp [insert, hf]
  refine ⟨?_, hgen⟩
  by_cases hi : i = (a.insert v).1.index
  · rw [hi, ← hgen, generation, hnew]
  · rw [generation, generation, hother _ fun he => hi (UInt32.toNat_inj.mp he)]

lemma generation_modify (a : Arena α) (g : Handle) (f : α → α) (i : UInt32) :
    (a.modify g f).generation i = a.generation i := by
  rcases hv : a.get? g with _ | v
  · rw [modify, hv]
  · have hslot := get?_eq_some.mp hv
    have hlt := (Array.getElem?_eq_some_iff.mp hslot).1
    simp only [modify, hv, generation, Array.getElem?_setIfInBounds]
    by_cases hi : g.index = i
    · subst hi
      simp [hlt, (Array.getElem?_eq_some_iff.mp hslot).2]
    · rw [if_neg fun he => hi (UInt32.toNat_inj.mp he)]

lemma generation_erase (a : Arena α) (g : Handle) (i : UInt32) : (a.erase g).generation i =
    if a.contains g = true ∧ g.index = i then a.generation i + 1 else a.generation i := by
  by_cases hc : a.contains g = true
  · obtain ⟨v, hv⟩ := Option.isSome_iff_exists.mp hc
    have hlt := (Array.getElem?_eq_some_iff.mp (get?_eq_some.mp hv)).1
    rw [erase, if_pos hc]
    by_cases hi : g.index = i
    · subst hi
      rw [if_pos ⟨hc, rfl⟩, generation_of_get? hv]
      simp [generation, hlt]
    · simp only [generation, Array.getElem?_setIfInBounds]
      rw [if_neg fun he => hi (UInt32.toNat_inj.mp he), if_neg fun he => hi he.2]
  · rw [erase, if_neg hc, if_neg fun he => hc he.1]

/-! ### What the record says -/

/-- The 32 bits of a generation are enough for each slot. -/
def Unworn (log : List (Event α)) : Prop := ∀ i, vacated log i < UInt32.size

lemma Unworn.of_concat {e : Event α} (h : Unworn (log ++ [e])) : Unworn log :=
  fun i => Nat.lt_of_le_of_lt (vacated_le_concat e i) (h i)

/-- The arena is as the record says. -/
structure Recorded (log : List (Event α)) (a : Arena α) : Prop where
  sound : a.Sound
  /-- The generation of a slot is the number of times that it was vacated. -/
  generation : ∀ i : UInt32, (a.generation i).toNat = vacated log i.toNat
  /-- A handle that has gone out of use is of an earlier generation than its slot. -/
  spent : ∀ h ∈ issued log, a.get? h = none → h.generation.toNat < vacated log h.index.toNat
  nodup : (issued log).Nodup
  found : ∀ h v, a.get? h = some v ↔ Stored log h v

lemma recorded_new : Recorded [] (empty : Arena α) where
  sound := sound_empty
  generation i := by simp [Arena.generation, empty, vacated]
  spent := by simp [issued]
  nodup := by simp [issued]
  found h v := by simp [get?, empty, Stored]

lemma Recorded.insert (h : Recorded log a) (v : α) (room : a.Room) :
    Recorded (log ++ [.inserted (a.insert v).1 v]) (a.insert v).2 := by
  have hsame (i : Nat) : vacated (log ++ [.inserted (a.insert v).1 v]) i = vacated log i := by
    simp [vacated_concat, Event.vacates]
  have hfind := get?_insert h.sound v room
  -- what was issued before is found, or it is of an earlier generation than the slot
  have hnew : (a.insert v).1 ∉ issued log := fun hmem => by
    have hlt := h.spent _ hmem (get?_issued h.sound v room)
    rw [(generation_insert h.sound v room 0).2, h.generation] at hlt
    exact Nat.lt_irrefl _ hlt
  constructor
  case sound => exact sound_insert h.sound v
  case generation =>
    intro i
    rw [hsame, (generation_insert h.sound v room i).1, h.generation]
  case spent =>
    intro g hg hnone
    rw [hsame]
    rw [hfind] at hnone
    split at hnone
    · cases hnone
    · rename_i hne
      rw [issued_concat_inserted, List.mem_append, List.mem_singleton, or_iff_left hne] at hg
      exact h.spent g hg hnone
  case nodup =>
    rw [issued_concat_inserted]
    exact List.nodup_append.mpr ⟨h.nodup, by simp, fun g hg g' hg' heq =>
      hnew (List.mem_singleton.mp hg' ▸ heq ▸ hg)⟩
  case found =>
    intro g w
    rw [hfind, stored_concat_inserted hnew, ← h.found]
    split
    · simp [eq_comm]
    · rfl

lemma Recorded.remove (h : Recorded log a) (g : Handle)
    (unworn : Unworn (log ++ [.removed g (a.remove g).1])) :
    Recorded (log ++ [.removed g (a.remove g).1]) (a.remove g).2 := by
  have hcount (i : UInt32) : vacated (log ++ [.removed g (a.remove g).1]) i.toNat =
      vacated log i.toNat + if a.contains g = true ∧ g.index = i then 1 else 0 := by
    rw [vacated_concat, remove_eq, contains]
    rcases a.get? g with _ | v <;> simp [Event.vacates, UInt32.toNat_inj]
  have hstate : (a.remove g).2 = a.erase g := by rw [remove_eq]
  rw [hstate]
  constructor
  case sound => exact sound_erase h.sound g
  case generation =>
    intro i
    have hlt := unworn i.toNat
    rw [hcount] at hlt
    rw [generation_erase, hcount]
    split
    · rename_i hi
      rw [if_pos hi, ← h.generation] at hlt
      rw [← h.generation, UInt32.toNat_add, UInt32.toNat_one]
      exact Nat.mod_eq_of_lt hlt
    · exact h.generation i
  case spent =>
    intro g' hg hnone
    rw [issued_concat_removed] at hg
    rw [hcount]
    rcases hv : a.get? g' with _ | v
    · have hlt := h.spent g' hg hv
      omega
    · -- this is the handle that is removed, of the generation that its slot was in
      rw [get?_erase, hv] at hnone
      obtain rfl : g' = g := by
        by_contra hne
        rw [if_neg hne] at hnone
        cases hnone
      rw [← h.generation, generation_of_get? hv, contains, hv]
      simp
  case nodup =>
    rw [issued_concat_removed]
    exact h.nodup
  case found =>
    intro g' w
    rw [get?_erase, stored_concat_removed, ← h.found]
    split <;> simp_all

lemma Recorded.write (h : Recorded log a) (g : Handle) (f : α → α) :
    Recorded (log ++ [.wrote g f]) (a.modify g f) := by
  have hsame (i : Nat) : vacated (log ++ [.wrote g f]) i = vacated log i := by
    simp [vacated_concat, Event.vacates]
  constructor
  case sound => exact sound_modify h.sound g f
  case generation =>
    intro i
    rw [hsame, generation_modify, h.generation]
  case spent =>
    intro g' hg hnone
    rw [issued_concat_wrote] at hg
    rw [hsame]
    refine h.spent g' hg ?_
    rw [get?_modify] at hnone
    split at hnone
    · rename_i he
      rw [he]
      exact Option.map_eq_none_iff.mp hnone
    · exact hnone
  case nodup =>
    rw [issued_concat_wrote]
    exact h.nodup
  case found =>
    intro g' w
    simp only [get?_modify, stored_concat_wrote, ← h.found]
    split
    · rename_i he
      simp [he, eq_comm]
    · simp

/-- **An arena is as the record of its calls says.** -/
theorem History.recorded (h : History log a) (fits : a.Fits) (unworn : Unworn log) :
    Recorded log a := by
  induction h with
  | new => exact recorded_new
  | insert v h ih => exact (ih fits.of_insert unworn.of_concat).insert v fits.room
  | remove g h ih =>
    refine (ih ?_ unworn.of_concat).remove g unworn
    rwa [Fits, remove_eq, size_slots_erase] at fits
  | write g f h ih =>
    refine (ih ?_ unworn.of_concat).write g f
    rwa [Fits, size_slots_modify] at fits

/-! ### A finite map -/

/-- An arena as a map from handles to values, beside the record of what was called. -/
structure FiniteMap (log : List (Event α)) (a : Arena α) : Prop where
  /-- No handle is issued twice. -/
  nodup : (issued log).Nodup
  /-- What any handle finds, also one that was never issued. -/
  found : ∀ h v, a.get? h = some v ↔ Stored log h v
  /-- Any handle can be made up from a word. -/
  words : ∀ h : Handle, Handle.ofBits h.toBits = h
  taken : ∀ h, (a.remove h).1 = a.get? h
  /-- A handle that finds nothing changes nothing. -/
  missed : ∀ h, a.get? h = none → (a.remove h).2 = a ∧ ∀ f, a.modify h f = a
  /-- What is done with one handle changes nothing for another. -/
  apart : ∀ g, (∀ v, g ≠ (a.insert v).1 → (a.insert v).2.get? g = a.get? g) ∧
    ∀ h, g ≠ h → (a.remove h).2.get? g = a.get? g ∧ ∀ f, (a.modify h f).get? g = a.get? g
  size : a.size = {h | (a.get? h).isSome = true}.ncard
  entries : ∀ h v, (h, v) ∈ a.entries ↔ a.get? h = some v
  /-- The entries stand in the order of their slots, so each stands there once. -/
  sorted : (a.entries.map (·.1.index.toNat)).Pairwise (· < ·)
  swept : ∀ (σ : Type) (f : σ → Handle → α → σ × α) (m : σ),
    ((a.sweep f m).1, (a.sweep f m).2.entries) = replaceAll f m a.entries

lemma ncard_found (hs : a.Sound) (fits : a.Fits) :
    {h | (a.get? h).isSome = true}.ncard = a.size := by
  classical
  have hset : {h | (a.get? h).isSome = true} = ((a.entries.map (·.1)).toFinset : Set Handle) := by
    ext h
    simp [mem_entries fits, Option.isSome_iff_exists]
  rw [hset, Set.ncard_coe_finset, List.toFinset_card_of_nodup (nodup_entries fits),
    List.length_map, length_entries hs]

/-- **An arena is a finite map whose keys are never used twice**, whatever is called, as long as 32
bits tell the slots apart, and the generations of each slot. -/
theorem History.finiteMap (h : History log a) (fits : a.Fits) (unworn : Unworn log) :
    FiniteMap log a := by
  have hr := h.recorded fits unworn
  constructor
  case nodup => exact hr.nodup
  case found => exact hr.found
  case words => exact Handle.ofBits_toBits
  case taken =>
    intro g
    rw [remove_eq]
  case missed =>
    intro g hnone
    have hcontains : a.contains g = false := by rw [contains, hnone]; rfl
    refine ⟨?_, fun f => by rw [modify, hnone]⟩
    rw [remove_eq, erase, hcontains]
    rfl
  case apart =>
    intro g
    refine ⟨fun v hne => ?_, fun g' hne => ⟨?_, fun f => ?_⟩⟩
    · exact (get?_insert_cases hr.sound v g).resolve_right fun hnew => hne hnew.1
    · rw [remove_eq, get?_erase, if_neg hne]
    · rw [get?_modify, if_neg hne]
  case size => exact (ncard_found hr.sound fits).symm
  case entries => exact fun g v => mem_entries fits
  case sorted => exact sorted_entries fits
  case swept => exact fun σ f m => sweep_entries a f m

/-- Two values, of which the first is removed, a third that gets its slot, and a write through the
handle of the one that is gone. -/
theorem finiteMap_reused :
    let a : Arena Nat := (((empty.insert 10).2.insert 20).2.remove ⟨0, 0⟩).2
    let a' := ((a.insert 30).2.modify ⟨0, 0⟩ (· + 1)).modify ⟨0, 1⟩ (· + 5)
    let log : List (Event Nat) := [.inserted ⟨0, 0⟩ 10, .inserted ⟨1, 0⟩ 20,
      .removed ⟨0, 0⟩ (some 10), .inserted ⟨0, 1⟩ 30, .wrote ⟨0, 0⟩ (· + 1), .wrote ⟨0, 1⟩ (· + 5)]
    History log a' ∧ a'.Fits ∧ Unworn log ∧ FiniteMap log a' ∧
      a'.entries = [(⟨0, 1⟩, 35), (⟨1, 0⟩, 20)] := by
  intro a a' log
  have h : History log a' :=
    (((((History.new.insert 10).insert 20).remove ⟨0, 0⟩).insert 30).write ⟨0, 0⟩ (· + 1)).write
      ⟨0, 1⟩ (· + 5)
  have fits : a'.Fits := by rw [Fits]; decide
  have unworn : Unworn log := fun i =>
    Nat.lt_of_le_of_lt List.countP_le_length (by decide)
  exact ⟨h, fits, unworn, h.finiteMap fits unworn, by decide⟩

end Arena

end Barrage
