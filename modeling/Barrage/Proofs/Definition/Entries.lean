import Barrage.Definition.Error
import Barrage.Proofs.Catalog.Loading
import Barrage.Proofs.Definition.Topics
import Mathlib.Data.List.Induction
import Mathlib.Data.List.Sort

/-!
How a shot is read from the entries of its group.

The entries are read in the order of the file, and what they have given so far is kept in a draft.
An entry offends if it says again what was said before, if its value cannot be read, or if it is for
a sub-shot that cannot be. The first entry that offends ends the reading. If no entry does, the
draft holds for each topic what the one entry about it says, whatever the order was, and all that is
left to find out is whether each sub-shot has a name.
-/

namespace Barrage.ShotDefinition

variable {K : Type} [Scalar K] {entries before : List (String × Value)} {t : Topic}

/-! ### What the entries say -/

/-- Some entry is about the topic. -/
def Mentions (entries : List (String × Value)) (t : Topic) : Prop :=
  ∃ e ∈ entries, About e.1 t

/-- Some entry about the topic says this. -/
def States (entries : List (String × Value)) (t : Topic) (a : Content K) : Prop :=
  ∃ e ∈ entries, About e.1 t ∧ t.form.Reads e.2 a

/-- What the entries say, or else the default. -/
def Gives (entries : List (String × Value)) (t : Topic) (default a : Content K) : Prop :=
  States entries t a ∨ ¬ Mentions entries t ∧ a = default

/-- The shot that the entries describe. -/
structure Describes (entries : List (String × Value)) (s : ShotDefinition K) : Prop where
  animation : ∀ n, s.animation = some n ↔ States (K := K) entries .animation (.word n)
  damage : Gives (K := K) entries .damage (.word 1) (.word s.damage)
  radius : Gives entries .radius (.number (Scalar.nat 1)) (.number s.radius)
  gimmick : ∀ name, s.gimmick = some name ↔ States (K := K) entries .gimmick (.text name)
  offset : Gives entries .offset (.point Vec.zero) (.point s.offset)
  /-- The numbers that have names, in order, and for each its name and its offset. -/
  subShots : ∃ indices : List Nat, indices.Pairwise (· < ·) ∧ indices.length ≤ maxSubShots ∧
    (∀ i, i ∈ indices ↔ Mentions entries (.name i)) ∧
    List.Forall₂ (fun i sub => States (K := K) entries (.name i) (.text sub.name) ∧
      Gives entries (.place i) (.point Vec.zero) (.point sub.offset)) indices s.subShots

/-- The groups that describe a shot. -/
structure WellFormed (K : Type) [Scalar K] (entries : List (String × Value)) : Prop where
  /-- No two entries are about the same thing. -/
  once : entries.Pairwise fun e e' => ∀ t, About e.1 t → ¬ About e'.1 t
  readable : ∀ e ∈ entries, ∀ t, About e.1 t → ∃ a : Content K, t.form.Reads e.2 a
  /-- Keys of sub-shots have indices. -/
  indexed : ∀ e ∈ entries, ∀ written, ¬ Stray e.1 written
  named : ∀ i, Mentions entries (.place i) → Mentions entries (.name i)

/-- What is wrong with an entry behind other entries. -/
inductive Offends (before : List (String × Value)) (e : String × Value) : Fault → Prop where
  | repeated {t : Topic} (h : About e.1 t) (hb : Mentions before t) :
      Offends before e (.duplicate t.field)
  | unread {t : Topic} {f : Fault} (h : About e.1 t) (hb : ¬ Mentions before t)
      (hv : t.form.Refuses e.2 f) : Offends before e f
  | stray {written : String} (h : Stray e.1 written) : Offends before e (.subShotIndex written)

/-- No entry offends. -/
def Harmless (entries : List (String × Value)) : Prop :=
  ∀ before e after, entries = before ++ e :: after → ∀ f, ¬ Offends before e f

/-- Why a group describes no shot: the first entry that offends, and only if there is none, the
least index with an offset and without a name. -/
inductive Refused (entries : List (String × Value)) : Fault → Prop where
  | entry {before after : List (String × Value)} {e : String × Value} {f : Fault}
      (hsplit : entries = before ++ e :: after) (hb : Harmless before) (h : Offends before e f) :
      Refused entries f
  | unnamed {i : Nat} (h : Harmless entries) (hplace : Mentions entries (.place i))
      (hname : ¬ Mentions entries (.name i))
      (hleast : ∀ j < i, Mentions entries (.place j) → Mentions entries (.name j)) :
      Refused entries (.subShotUnnamed i)

/-! ### Entries that offend -/

section Offences

variable {e : String × Value}

lemma mentions_snoc : Mentions (before ++ [e]) t ↔ Mentions before t ∨ About e.1 t := by
  simp only [Mentions, List.mem_append, List.mem_singleton, or_and_right, exists_or,
    exists_eq_left]

lemma states_snoc {a : Content K} :
    States (before ++ [e]) t a ↔ States before t a ∨ About e.1 t ∧ t.form.Reads e.2 a := by
  simp only [States, List.mem_append, List.mem_singleton, or_and_right, exists_or,
    exists_eq_left]

lemma States.mentions {a : Content K} (h : States entries t a) : Mentions entries t := by
  obtain ⟨e, he, habout, -⟩ := h
  exact ⟨e, he, habout⟩

lemma Mentions.lt_of_name {i : Nat} (h : Mentions entries (.name i)) : i < maxSubShots := by
  obtain ⟨e, -, habout⟩ := h
  exact habout.index_lt i (.inl rfl)

lemma Mentions.lt_of_place {i : Nat} (h : Mentions entries (.place i)) : i < maxSubShots := by
  obtain ⟨e, -, habout⟩ := h
  exact habout.index_lt i (.inr rfl)

lemma harmless_nil : Harmless [] := by
  intro before e after h
  simp at h

lemma harmless_snoc :
    Harmless (before ++ [e]) ↔ Harmless before ∧ ∀ f, ¬ Offends before e f := by
  constructor
  · intro h
    refine ⟨fun b e' after hsplit => ?_, h before e [] rfl⟩
    exact h b e' (after ++ [e]) (by rw [hsplit, List.append_assoc]; rfl)
  · rintro ⟨hb, he⟩ b e' after hsplit
    rcases List.eq_nil_or_concat after with rfl | ⟨after, x, rfl⟩
    · obtain ⟨rfl, heq⟩ := List.append_inj' hsplit rfl
      cases heq
      exact he
    · rw [List.concat_eq_append, ← List.cons_append, ← List.append_assoc] at hsplit
      exact hb b e' after (List.append_inj' hsplit rfl).1

variable (K) in
/-- An entry does not offend if it is about something new that can be read, or about nothing. -/
lemma inoffensive_iff :
    (∀ f, ¬ Offends before e f) ↔
      (∀ t, About e.1 t → ¬ Mentions before t ∧ ∃ a : Content K, t.form.Reads e.2 a) ∧
        ∀ written, ¬ Stray e.1 written := by
  constructor
  · intro h
    refine ⟨fun t ht => ?_, fun written hs => h _ (.stray hs)⟩
    have hb : ¬ Mentions before t := fun hb => h _ (.repeated ht hb)
    refine ⟨hb, ?_⟩
    have hverdict := Form.verdict (K := K) t.form e.2
    generalize t.form.read (K := K) e.2 = answer at hverdict
    cases hverdict with
    | reads ha => exact ⟨_, ha⟩
    | refuses hf => exact absurd (.unread ht hb hf) (h _)
  · rintro ⟨habout, hstray⟩ f h
    cases h with
    | repeated ht hb => exact (habout _ ht).1 hb
    | unread ht hb hv =>
      obtain ⟨a, ha⟩ := (habout _ ht).2
      exact ha.not_refuses hv
    | stray hs => exact hstray _ hs

variable (K) in
/-- Nothing offends if and only if no two entries are about the same, all can be read, and all
sub-shots have indices. -/
lemma harmless_iff :
    Harmless entries ↔
      entries.Pairwise (fun e e' => ∀ t, About e.1 t → ¬ About e'.1 t) ∧
      (∀ e ∈ entries, ∀ t, About e.1 t → ∃ a : Content K, t.form.Reads e.2 a) ∧
      ∀ e ∈ entries, ∀ written, ¬ Stray e.1 written := by
  induction entries using List.reverseRecOn with
  | nil => simp [harmless_nil]
  | append_singleton before e ih =>
    rw [harmless_snoc, ih, inoffensive_iff K, List.pairwise_append]
    simp only [Mentions, List.mem_append, List.mem_singleton, List.pairwise_singleton]
    constructor
    · rintro ⟨⟨honce, hread, hindex⟩, habout, hstray⟩
      refine ⟨⟨honce, trivial, ?_⟩, ?_, ?_⟩
      · rintro e₀ he₀ _ rfl t ht ht'
        exact (habout t ht').1 ⟨e₀, he₀, ht⟩
      · rintro e₀ (he₀ | rfl)
        · exact hread e₀ he₀
        · exact fun t ht => (habout t ht).2
      · rintro e₀ (he₀ | rfl)
        · exact hindex e₀ he₀
        · exact hstray
    · rintro ⟨⟨honce, -, hpair⟩, hread, hindex⟩
      refine ⟨⟨honce, fun e₀ he₀ => hread e₀ (.inl he₀), fun e₀ he₀ => hindex e₀ (.inl he₀)⟩,
        fun t ht => ⟨?_, hread e (.inr rfl) t ht⟩, hindex e (.inr rfl)⟩
      rintro ⟨e₀, he₀, ht₀⟩
      exact hpair e₀ he₀ e rfl t ht₀ ht

lemma wellFormed_iff :
    WellFormed K entries ↔
      Harmless entries ∧ ∀ i, Mentions entries (.place i) → Mentions entries (.name i) := by
  rw [harmless_iff K]
  exact ⟨fun h => ⟨⟨h.once, h.readable, h.indexed⟩, h.named⟩, fun ⟨⟨h, h', h''⟩, hn⟩ =>
    ⟨h, h', h'', hn⟩⟩

end Offences

/-! ### One entry -/

namespace Draft

/-- What the draft holds about a topic. -/
def holds (d : Draft K) : Topic → Option (Content K)
  | .animation => d.animation.map .word
  | .damage => d.damage.map .word
  | .radius => d.radius.map .number
  | .gimmick => d.gimmick.map .text
  | .offset => d.offset.map .point
  | .name i => (d.names.lookup i).map .text
  | .place i => (d.offsets.lookup i).map .point

/-- What comes of an entry about a topic. -/
inductive Takes (d : Draft K) (t : Topic) (v : Value) : Except Fault (Draft K) → Prop where
  | repeated (h : d.holds t ≠ none) : Takes d t v (.error (.duplicate t.field))
  | refused {f : Fault} (h : d.holds t = none) (hv : t.form.Refuses v f) : Takes d t v (.error f)
  | taken {a : Content K} {d' : Draft K} (h : d.holds t = none) (hv : t.form.Reads v a)
      (hd' : ∀ u, d'.holds u = if u = t then some a else d.holds u) : Takes d t v (.ok d')

variable {d : Draft K} {v : Value}

/-- A slot of the draft takes an entry once. -/
lemma takes_once {α : Type} {slot : Option α} {read : Reader α} {wrap : α → Content K}
    {put : Option α → Draft K} (hslot : d.holds t = slot.map wrap)
    (hread : t.form.read v = (read v).map wrap)
    (hput : ∀ a u, (put (some a)).holds u = if u = t then some (wrap a) else d.holds u) :
    d.Takes t v ((Reader.once t.field slot read v).map put) := by
  have hverdict := Form.verdict (K := K) t.form v
  rw [Reader.once]
  rcases slot with _ | b
  · rw [hread] at hverdict
    rcases hv : read v with f | a
    · rw [hv] at hverdict
      cases hverdict with
      | refuses hf => exact .refused hslot hf
    · rw [hv] at hverdict
      cases hverdict with
      | reads ha => exact .taken hslot ha (hput a)
  · exact .repeated (by simp [hslot])

/-- Reads a value for a topic. -/
def take (d : Draft K) (v : Value) (t : Topic) : Except Fault (Draft K) :=
  match t with
  | .animation => (Reader.once t.field d.animation Reader.i32 v).map ({ d with animation := · })
  | .damage => (Reader.once t.field d.damage Reader.i32 v).map ({ d with damage := · })
  | .radius => (Reader.once t.field d.radius Reader.scalar v).map ({ d with radius := · })
  | .gimmick => (Reader.once t.field d.gimmick Reader.string v).map ({ d with gimmick := · })
  | .offset => (Reader.once t.field d.offset readOffset v).map ({ d with offset := · })
  | .name i => (Reader.once t.field (d.names.lookup i) Reader.string v).map fun name =>
      { d with names := name.elim d.names fun name => (i, name) :: d.names }
  | .place i => (Reader.once t.field (d.offsets.lookup i) readOffset v).map fun offset =>
      { d with offsets := offset.elim d.offsets fun p => (i, p) :: d.offsets }

lemma takes_take : d.Takes t v (d.take v t) := by
  cases t with
  | animation => exact takes_once rfl rfl fun a u => by cases u <;> rfl
  | damage => exact takes_once rfl rfl fun a u => by cases u <;> rfl
  | radius => exact takes_once rfl rfl fun a u => by cases u <;> rfl
  | gimmick => exact takes_once rfl rfl fun a u => by cases u <;> rfl
  | offset => exact takes_once rfl rfl fun a u => by cases u <;> rfl
  | name i =>
    refine takes_once rfl rfl fun a u => ?_
    cases u with
    | name j =>
      by_cases h : j = i
      · simp [holds, h]
      · simp [holds, List.lookup_cons, h, beq_eq_false_iff_ne.mpr h]
    | _ => rfl
  | place i =>
    refine takes_once rfl rfl fun a u => ?_
    cases u with
    | place j =>
      by_cases h : j = i
      · simp [holds, h]
      · simp [holds, List.lookup_cons, h, beq_eq_false_iff_ne.mpr h]
    | _ => rfl

/-- An entry is read for the topic of its key. -/
lemma read_eq (d : Draft K) (key : String) (v : Value) :
    d.read key v = (topic? key).bind fun t => t.elim (.ok d) (d.take v) := by
  unfold Draft.read
  split
  case h_6 =>
    rw [topic?] <;> try assumption
    rcases subShotKey? key with _ | ⟨written, _ | _⟩ <;> dsimp only
    · rfl
    · rcases subShotIndex written with f | i
      · rfl
      · show (if _ then _ else _) = (Reader.once _ (d.names.lookup i) Reader.string v).map _
        rw [Reader.once]
        rcases d.names.lookup i with _ | _
        · rcases Reader.string v with _ | _ <;> rfl
        · rfl
    · rcases subShotIndex written with f | i
      · rfl
      · show (if _ then _ else _) = (Reader.once _ (d.offsets.lookup i) readOffset v).map _
        rw [Reader.once]
        rcases d.offsets.lookup i with _ | _
        · rcases readOffset v with _ | _ <;> rfl
        · rfl
  all_goals rfl

end Draft

/-! ### All entries -/

/-- The draft holds for each topic what the entries say. -/
structure Records (entries : List (String × Value)) (d : Draft K) : Prop where
  holds : ∀ t a, d.holds t = some a ↔ States entries t a
  lacks : ∀ t, d.holds t = none ↔ ¬ Mentions entries t

/-- What comes of reading entries. -/
inductive Outcome (entries : List (String × Value)) : Except Fault (Draft K) → Prop where
  | ok {d : Draft K} (hd : Records entries d) (h : Harmless entries) : Outcome entries (.ok d)
  | error {before after : List (String × Value)} {e : String × Value} {f : Fault}
      (hsplit : entries = before ++ e :: after) (hb : Harmless before) (h : Offends before e f) :
      Outcome entries (.error f)

lemma records_nil : Records (K := K) [] {} := by
  constructor
  case holds =>
    intro t a
    cases t <;> simp [Draft.holds, States]
  case lacks =>
    intro t
    cases t <;> simp [Draft.holds, Mentions]

/-- One entry more. -/
lemma outcome_read {d : Draft K} {e : String × Value} (hd : Records before d)
    (h : Harmless before) : Outcome (before ++ [e]) (d.read e.1 e.2) := by
  rw [Draft.read_eq]
  rcases htopic : topic? e.1 with f | _ | t
  · obtain ⟨written, hstray, rfl⟩ := topic?_eq_error.mp htopic
    exact .error rfl h (.stray hstray)
  · have habout (t : Topic) : ¬ About e.1 t := fun ht => by
      rw [topic?_eq_some.mpr ht] at htopic
      cases htopic
    have hstray (written : String) : ¬ Stray e.1 written := fun hs => by
      rw [topic?_eq_error.mpr ⟨written, hs, rfl⟩] at htopic
      cases htopic
    refine .ok ⟨fun t a => ?_, fun t => ?_⟩ (harmless_snoc.mpr ⟨h, ?_⟩)
    · rw [states_snoc, or_iff_left fun hs => habout t hs.1]
      exact hd.holds t a
    · rw [mentions_snoc, or_iff_left (habout t)]
      exact hd.lacks t
    · exact (inoffensive_iff K).mpr ⟨fun t ht => absurd ht (habout t), hstray⟩
  · have ht : About e.1 t := topic?_eq_some.mp htopic
    have htakes : d.Takes t e.2 (d.take e.2 t) := Draft.takes_take
    show Outcome _ (d.take e.2 t)
    generalize d.take e.2 t = answer at htakes
    cases htakes with
    | repeated hslot =>
      exact .error rfl h (.repeated ht (not_not.mp fun hm => hslot ((hd.lacks t).mpr hm)))
    | refused hslot hv => exact .error rfl h (.unread ht ((hd.lacks t).mp hslot) hv)
    | @taken a d' hslot hv hd' =>
      have hnew : ¬ Mentions before t := (hd.lacks t).mp hslot
      refine .ok ⟨fun u b => ?_, fun u => ?_⟩ (harmless_snoc.mpr ⟨h, ?_⟩)
      · rw [hd', states_snoc]
        by_cases hu : u = t
        · subst hu
          rw [if_pos rfl, or_iff_right fun hs => hnew hs.mentions, and_iff_right ht]
          exact ⟨fun heq => Option.some.inj heq ▸ hv, fun hb => congrArg _ (hv.unique hb)⟩
        · rw [if_neg hu, or_iff_left fun hs => hu (hs.1.unique ht)]
          exact hd.holds u b
      · rw [hd', mentions_snoc]
        by_cases hu : u = t
        · subst hu
          simp [ht]
        · rw [if_neg hu, or_iff_left fun hs => hu (hs.unique ht)]
          exact hd.lacks u
      · refine (inoffensive_iff K).mpr ⟨fun u hu => ?_, fun written => ht.not_stray⟩
        cases hu.unique ht
        exact ⟨hnew, a, hv⟩

lemma outcome_foldlM {d : Draft K} {rest : List (String × Value)} (hd : Records before d)
    (h : Harmless before) :
    Outcome (before ++ rest) (rest.foldlM (fun d e => d.read e.1 e.2) d) := by
  induction rest generalizing before d with
  | nil =>
    rw [List.append_nil]
    exact .ok hd h
  | cons e rest ih =>
    have hread := outcome_read (e := e) hd h
    rw [List.foldlM_cons, ← List.singleton_append, ← List.append_assoc]
    generalize d.read e.1 e.2 = answer at hread
    cases hread with
    | ok hd' h' => exact ih hd' h'
    | @error b after e' _ hsplit hb he =>
      have hsplit' : before ++ [e] ++ rest = b ++ e' :: (after ++ rest) := by
        rw [hsplit, List.append_assoc, List.cons_append]
      exact .error hsplit' hb he

lemma outcome_readEntries (g : Group) :
    Outcome g.entries (g.readEntries (Draft.read (K := K)) {}) :=
  outcome_foldlM records_nil harmless_nil

/-! ### The shot -/

lemma range_split {n i : Nat} {before after : List Nat}
    (h : List.range n = before ++ i :: after) : ∀ j < i, j ∈ before := by
  intro j hj
  have hi : i ∈ List.range n := by simp [h]
  have hmem : j ∈ before ++ i :: after := by
    rw [← h]
    simp only [List.mem_range] at hi ⊢
    omega
  have hsorted : (before ++ i :: after).Pairwise (· < ·) := h ▸ List.pairwise_lt_range
  rcases List.mem_append.mp hmem with hmem | hmem
  · exact hmem
  · rcases List.mem_cons.mp hmem with rfl | hmem
    · omega
    · have := (List.pairwise_cons.mp (List.pairwise_append.mp hsorted).2.1).1 j hmem
      omega

lemma forall₂_filterMap {α γ : Type} {p : α → Bool} {R : α → γ → Prop} {xs : List α}
    {ys : List (Option γ)}
    (h : List.Forall₂ (fun x y => p x = false ∧ y = none ∨ p x = true ∧ ∃ z, y = some z ∧ R x z)
      xs ys) : List.Forall₂ R (xs.filter p) (ys.filterMap id) := by
  induction h with
  | nil => exact .nil
  | cons hr _ ih =>
    rcases hr with ⟨hp, rfl⟩ | ⟨hp, z, rfl, hz⟩
    · simpa [hp] using ih
    · simpa [hp] using ⟨hz, ih⟩

namespace Records

variable {d : Draft K} (hd : Records entries d)

include hd

lemma name_iff {i : Nat} : (d.names.lookup i).isSome = true ↔ Mentions entries (.name i) := by
  have h := hd.lacks (.name i)
  rw [Draft.holds, Option.map_eq_none_iff] at h
  rw [← not_iff_not, ← h, Option.isSome_iff_ne_none, not_not]

lemma place_iff {i : Nat} : (d.offsets.lookup i).isSome = true ↔ Mentions entries (.place i) := by
  have h := hd.lacks (.place i)
  rw [Draft.holds, Option.map_eq_none_iff] at h
  rw [← not_iff_not, ← h, Option.isSome_iff_ne_none, not_not]

/-- A slot of the draft gives what the entries say, and without an entry the default. -/
lemma gives {α : Type} {t : Topic} {slot : Option α} {wrap : α → Content K} {default : α}
    (h : d.holds t = slot.map wrap) :
    Gives entries t (wrap default) (wrap (slot.getD default)) := by
  rcases slot with _ | a
  · exact .inr ⟨(hd.lacks t).mp h, rfl⟩
  · exact .inl ((hd.holds t _).mp h)

/-- What becomes of the number of a sub-shot. -/
lemma subShot_ok {i : Nat} {slot : Option (SubShotEntry K)} (h : d.subShot i = .ok slot) :
    ¬ Mentions entries (.name i) ∧ ¬ Mentions entries (.place i) ∧ slot = none ∨
      Mentions entries (.name i) ∧ ∃ sub, slot = some sub ∧
        States (K := K) entries (.name i) (.text sub.name) ∧
        Gives entries (.place i) (.point Vec.zero) (.point sub.offset) := by
  rw [Draft.subShot] at h
  split at h
  · rename_i name hname
    cases h
    have hstates : States (K := K) entries (.name i) (.text name) := by
      rw [← hd.holds, Draft.holds, hname]
      rfl
    exact .inr ⟨hstates.mentions, _, rfl, hstates, hd.gives rfl⟩
  · cases h
  · rename_i hname hplace
    cases h
    rw [← hd.name_iff, ← hd.place_iff, hname, hplace]
    simp

lemma subShot_error {i : Nat} {f : Fault} (h : d.subShot i = .error f) :
    f = .subShotUnnamed i ∧ Mentions entries (.place i) ∧ ¬ Mentions entries (.name i) := by
  rw [← hd.place_iff, ← hd.name_iff]
  rw [Draft.subShot] at h
  split at h
  · cases h
  · rename_i hname hplace
    cases h
    simp [hname, hplace]
  · cases h

/-- A sub-shot with an offset has a name, if it is not refused. -/
lemma named_of_subShot {i : Nat} {slot : Option (SubShotEntry K)} (h : d.subShot i = .ok slot)
    (hplace : Mentions entries (.place i)) : Mentions entries (.name i) := by
  rcases hd.subShot_ok h with ⟨-, hnot, -⟩ | ⟨hname, -⟩
  · exact absurd hplace hnot
  · exact hname

lemma finish_ok {s : ShotDefinition K} (h : d.finish = .ok s) :
    Describes entries s ∧
      ∀ i, Mentions entries (.place i) → Mentions entries (.name i) := by
  rw [Draft.finish] at h
  rcases hslots : (List.range maxSubShots).mapM d.subShot with f | slots
  · rw [hslots] at h
    cases h
  · rw [hslots] at h
    cases h
    have hall := Catalog.mapM_ok hslots
    constructor
    · constructor
      case animation =>
        intro n
        rw [← hd.holds]
        simp [Draft.holds]
      case damage => exact hd.gives rfl
      case radius => exact hd.gives rfl
      case gimmick =>
        intro name
        rw [← hd.holds]
        simp [Draft.holds]
      case offset => exact hd.gives rfl
      case subShots =>
        refine ⟨(List.range maxSubShots).filter fun i => (d.names.lookup i).isSome,
          List.pairwise_lt_range.filter _, ?_, fun i => ?_, forall₂_filterMap (hall.imp ?_)⟩
        · exact Nat.le_trans (List.length_filter_le ..) (by simp)
        · rw [List.mem_filter, List.mem_range, hd.name_iff]
          exact and_iff_right_of_imp Mentions.lt_of_name
        · intro i slot hslot
          rw [← Bool.not_eq_true, hd.name_iff]
          rcases hd.subShot_ok hslot with ⟨hname, -, hnone⟩ | hsub
          · exact .inl ⟨hname, hnone⟩
          · exact .inr hsub
    · intro i hplace
      obtain ⟨slot, -, hslot⟩ := Catalog.forall₂_left hall (i := i) (x := i)
        (by simp [hplace.lt_of_place])
      exact hd.named_of_subShot hslot hplace

lemma finish_error (hharmless : Harmless entries) {f : Fault} (h : d.finish = .error f) :
    Refused entries f := by
  rw [Draft.finish] at h
  rcases hslots : (List.range maxSubShots).mapM d.subShot with f' | slots
  · rw [hslots] at h
    cases h
    obtain ⟨before, i, after, hsplit, hi, hb⟩ := Catalog.mapM_first hslots
    obtain ⟨rfl, hplace, hname⟩ := hd.subShot_error hi
    refine .unnamed hharmless hplace hname fun j hj hplace' => ?_
    obtain ⟨slot, hslot⟩ := hb j (range_split hsplit j hj)
    exact hd.named_of_subShot hslot hplace'
  · rw [hslots] at h
    cases h

end Records

/-! ### One shot for all orders -/

section Unique

variable {d : Draft K} (hd : Records entries d)

include hd

lemma states_unique {a b : Content K} (h : States entries t a) (h' : States entries t b) :
    a = b := by
  have ha := (hd.holds t a).mpr h
  rw [(hd.holds t b).mpr h'] at ha
  exact (Option.some.inj ha).symm

lemma gives_unique {default a b : Content K} (h : Gives entries t default a)
    (h' : Gives entries t default b) : a = b := by
  rcases h with h | ⟨hnot, rfl⟩
  · rcases h' with h' | ⟨hnot, -⟩
    · exact states_unique hd h h'
    · exact absurd h.mentions hnot
  · rcases h' with h' | ⟨-, rfl⟩
    · exact absurd h'.mentions hnot
    · rfl

/-- The entries describe one shot. -/
lemma describes_unique {s s' : ShotDefinition K} (h : Describes entries s)
    (h' : Describes entries s') : s = s' := by
  have hanimation : s.animation = s'.animation :=
    Option.ext fun n => (h.animation n).trans (h'.animation n).symm
  have hgimmick : s.gimmick = s'.gimmick :=
    Option.ext fun name => (h.gimmick name).trans (h'.gimmick name).symm
  have hdamage := Content.word.inj (gives_unique hd h.damage h'.damage)
  have hradius := Content.number.inj (gives_unique hd h.radius h'.radius)
  have hoffset := Content.point.inj (gives_unique hd h.offset h'.offset)
  have hsubShots : s.subShots = s'.subShots := by
    obtain ⟨is, hsorted, -, his, hall⟩ := h.subShots
    obtain ⟨is', hsorted', -, his', hall'⟩ := h'.subShots
    have heq : is = is' :=
      hsorted.eq_of_mem_iff hsorted' fun i => (his i).trans (his' i).symm
    subst heq
    refine List.right_unique_forall₂' (fun i sub sub' hsub hsub' => ?_) hall hall'
    have hname := Content.text.inj (states_unique hd hsub.1 hsub'.1)
    have hplace := Content.point.inj (gives_unique hd hsub.2 hsub'.2)
    cases sub
    cases sub'
    simp_all
  cases s
  cases s'
  simp_all

end Unique

section Order

variable {entries' : List (String × Value)} (hperm : entries'.Perm entries)

include hperm

lemma mentions_perm : Mentions entries' t ↔ Mentions entries t := by
  simp only [Mentions, hperm.mem_iff]

lemma states_perm {a : Content K} : States entries' t a ↔ States entries t a := by
  simp only [States, hperm.mem_iff]

lemma gives_perm {default a : Content K} :
    Gives entries' t default a ↔ Gives entries t default a := by
  rw [Gives, Gives, states_perm hperm, mentions_perm hperm]

lemma describes_perm {s : ShotDefinition K} (h : Describes entries' s) : Describes entries s := by
  constructor
  case animation => simpa only [states_perm hperm] using h.animation
  case damage => exact (gives_perm hperm).mp h.damage
  case radius => exact (gives_perm hperm).mp h.radius
  case gimmick => simpa only [states_perm hperm] using h.gimmick
  case offset => exact (gives_perm hperm).mp h.offset
  case subShots =>
    simpa only [states_perm hperm, gives_perm hperm, mentions_perm hperm] using h.subShots

lemma wellFormed_perm (h : WellFormed K entries') : WellFormed K entries := by
  constructor
  case once => exact (hperm.pairwise_iff fun h t ht ht' => h t ht' ht).mp h.once
  case readable => simpa only [hperm.mem_iff] using h.readable
  case indexed => simpa only [hperm.mem_iff] using h.indexed
  case named => simpa only [mentions_perm hperm] using h.named

end Order

/-! ### Keys that say nothing -/

/-- An entry about nothing leaves the draft as it is. -/
lemma readEntries_skip {g : Group} {after : List (String × Value)} {e : String × Value}
    {d : Draft K} (hsplit : g.entries = before ++ e :: after) (habout : ∀ t, ¬ About e.1 t)
    (hstray : ∀ written, ¬ Stray e.1 written) :
    g.readEntries Draft.read d =
      { g with entries := before ++ after : Group }.readEntries Draft.read d := by
  have htopic : topic? e.1 = .ok none := by
    rcases htopic : topic? e.1 with f | _ | t
    · obtain ⟨written, hs, -⟩ := topic?_eq_error.mp htopic
      exact absurd hs (hstray written)
    · rfl
    · exact absurd (topic?_eq_some.mp htopic) (habout t)
  have hread (d : Draft K) : d.read e.1 e.2 = .ok d := by
    rw [Draft.read_eq, htopic]
    rfl
  simp only [Group.readEntries, hsplit, List.foldlM_append, List.foldlM_cons, hread]
  rfl

/-! ### The reading -/

/-- What the answer to a group has to be. -/
structure Answers (g : Group) (answer : Except DefinitionError (ShotDefinition K)) : Prop where
  succeeds : (∃ s, answer = .ok s) ↔ WellFormed K g.entries
  describes : ∀ s, answer = .ok s ↔ WellFormed K g.entries ∧ Describes g.entries s
  refused : ∀ e, answer = .error e → ∃ f, e = .invalidValue g.name f ∧ Refused g.entries f
  /-- What is about nothing does not count. -/
  skipped : ∀ before e after, g.entries = before ++ e :: after → (∀ t, ¬ About e.1 t) →
    (∀ written, ¬ Stray e.1 written) →
    answer = { g with entries := before ++ after : Group }.attempt ofGroup
  /-- Nor does the order of the entries. -/
  unordered : ∀ entries, entries.Perm g.entries → ∀ s,
    answer = .ok s ↔ { g with entries := entries : Group }.attempt ofGroup = .ok s

/-- What is read of the group, or why nothing is. -/
lemma ofGroup_cases (g : Group) :
    (∃ s : ShotDefinition K, ofGroup g = .ok s ∧ WellFormed K g.entries ∧
        ∀ s', Describes g.entries s' ↔ s' = s) ∨
      ∃ f, ofGroup (K := K) g = .error f ∧ ¬ WellFormed K g.entries ∧ Refused g.entries f := by
  have hentries := outcome_readEntries (K := K) g
  rw [ofGroup]
  generalize g.readEntries (Draft.read (K := K)) {} = answer at hentries
  cases hentries with
  | error hsplit hb he =>
    refine .inr ⟨_, rfl, fun h => ?_, .entry hsplit hb he⟩
    exact (wellFormed_iff.mp h).1 _ _ _ hsplit _ he
  | @ok d hd h =>
    show (∃ s, d.finish = .ok s ∧ _) ∨ ∃ f, d.finish = .error f ∧ _
    rcases hfinish : d.finish with f | s
    · have hrefused := hd.finish_error h hfinish
      refine .inr ⟨f, rfl, fun hwell => ?_, hrefused⟩
      cases hrefused with
      | entry hsplit hb he => exact h _ _ _ hsplit _ he
      | unnamed _ hplace hname _ => exact hname (hwell.named _ hplace)
    · obtain ⟨hdescribes, hnamed⟩ := hd.finish_ok hfinish
      refine .inl ⟨s, rfl, wellFormed_iff.mpr ⟨h, hnamed⟩, fun s' => ⟨fun h' => ?_, ?_⟩⟩
      · exact describes_unique hd h' hdescribes
      · rintro rfl
        exact hdescribes

lemma attempt_eq_ok {g : Group} {s : ShotDefinition K} :
    g.attempt ofGroup = .ok s ↔ WellFormed K g.entries ∧ Describes g.entries s := by
  rw [Group.attempt]
  rcases ofGroup_cases (K := K) g with ⟨s', heq, hwell, hunique⟩ | ⟨f, heq, hwell, -⟩
  · rw [heq, hunique, and_iff_right hwell]
    exact ⟨fun h => (Except.ok.inj h).symm, fun h => congrArg Except.ok h.symm⟩
  · rw [heq]
    exact ⟨nofun, fun h => absurd h.1 hwell⟩

/-- **A shot is read from its group exactly.** -/
theorem attempt_ofGroup (g : Group) : Answers (K := K) g (g.attempt ofGroup) := by
  constructor
  case succeeds =>
    constructor
    · rintro ⟨s, hs⟩
      exact (attempt_eq_ok.mp hs).1
    · intro h
      rcases ofGroup_cases (K := K) g with ⟨s, heq, -⟩ | ⟨-, -, hwell, -⟩
      · exact ⟨s, by rw [Group.attempt, heq]; rfl⟩
      · exact absurd h hwell
  case describes => exact fun s => attempt_eq_ok
  case refused =>
    intro e he
    rw [Group.attempt] at he
    rcases ofGroup_cases (K := K) g with ⟨s, heq, -⟩ | ⟨f, heq, -, hrefused⟩
    · rw [heq] at he
      cases he
    · rw [heq] at he
      cases he
      exact ⟨f, rfl, hrefused⟩
  case skipped =>
    intro before e after hsplit habout hstray
    rw [Group.attempt, Group.attempt, ofGroup, ofGroup, readEntries_skip hsplit habout hstray]
  case unordered =>
    intro entries hperm s
    rw [attempt_eq_ok, attempt_eq_ok]
    constructor
    · rintro ⟨hwell, hs⟩
      exact ⟨wellFormed_perm hperm.symm hwell, describes_perm hperm.symm hs⟩
    · rintro ⟨hwell, hs⟩
      exact ⟨wellFormed_perm hperm hwell, describes_perm hperm hs⟩

end Barrage.ShotDefinition
