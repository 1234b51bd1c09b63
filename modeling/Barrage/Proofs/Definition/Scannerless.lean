import Barrage.Proofs.Definition.Rules

/-!
The grammar knows no lines, and it reads lines.

Repetitions and choices are tried at every place of a text, but what comes of them is what is read
line by line: no rule reads on into the next line, and none gives up what another one would have to
have.
-/

namespace Barrage.Grammar

open Spelling

variable {ended : Bool} {l cs after nl rest : List Char} {u : Unit}

/-- The first line of a text and what stands behind it. -/
lemma exists_feed (cs : List Char) : ∃ l ended after nl, cs = l ++ nl ∧ '\n' ∉ l ∧
    Feed ended after nl := by
  rcases Span.exists_cut '\n' cs with h | ⟨l, after, rfl, h⟩
  · exact ⟨cs, false, [], [], by simp, h, .last⟩
  · exact ⟨l, true, after, '\n' :: after, rfl, h, .line after⟩

/-! ### Repetitions -/

section Repetition

variable {α β : Type} {r : Rule α}

/-- A repetition always matches. -/
lemma exists_many (r : Rule α) (cs : List Char) : ∃ as rest, many r cs = some (as, rest) := by
  induction hn : cs.length using Nat.strongRecOn generalizing cs with
  | ind n ih =>
    subst hn
    rw [many]
    split
    · exact ⟨_, _, rfl⟩
    · rename_i a rest hr
      split
      · rename_i hlt
        obtain ⟨as, rest', hrest⟩ := ih rest.length hlt rest rfl
        exact ⟨a :: as, rest', by rw [hrest]; rfl⟩
      · exact ⟨_, _, rfl⟩

lemma length_le_of_many {as : List α} (h : many r cs = some (as, rest)) :
    rest.length ≤ cs.length := by
  induction as generalizing cs with
  | nil => exact Nat.le_of_eq (congrArg List.length (rest_of_many_nil h))
  | cons a as ih =>
    obtain ⟨cs', -, hlt, hrest⟩ := many_cons.mp h
    exact Nat.le_trans (ih hrest) (Nat.le_of_lt hlt)

lemma length_lt_of_blank (h : blank cs = some (u, after)) : after.length < cs.length := by
  obtain ⟨l, ended, after', nl, rfl, hn, hf⟩ := exists_feed cs
  obtain ⟨-, rfl, rfl⟩ := (blank_eq_some hf hn).mp h
  cases hf
  simp
  omega

/-- Blank lines are read before anything else. -/
lemma skip_blank (h : blank cs = some (u, after)) (k : Rule β) :
    (do
      let _ ← many blank
      k) cs = (do
      let _ ← many blank
      k) after := by
  obtain ⟨us, rest, hafter⟩ := exists_many blank after
  have hcs : many blank cs = some (u :: us, rest) :=
    many_cons.mpr ⟨after, h, length_lt_of_blank h, hafter⟩
  rw [bind_of_eq_some hcs, bind_of_eq_some hafter]

lemma skip_nothing (h : blank cs = none) (k : Rule β) :
    (do
      let _ ← many blank
      k) cs = k cs :=
  bind_of_eq_some (many_of_eq_none h)

end Repetition

/-! ### Files -/

/-- What may stand behind the last group. -/
def coda : Rule Unit := do
  let _ ← many blank
  ws
  let _ ← opt comment
  return ()

lemma groups?_eq_some {gs : List Group} : groups? cs = some gs ↔
    ∃ t, many group cs = some (gs, t) ∧ coda t = some ((), []) := by
  have hfile : groups? cs = some gs ↔ file cs = some (gs, []) := by
    rw [groups?, Option.bind_eq_some_iff]
    constructor
    · rintro ⟨⟨gs', rest⟩, hfile, h⟩
      split at h
      · rename_i hnil
        obtain rfl : rest = [] := hnil
        cases h
        exact hfile
      · cases h
    · exact fun h => ⟨_, h, if_pos rfl⟩
  rw [hfile]
  simp only [file, coda, bind_eq_some, pure_eq_some]
  constructor
  · rintro ⟨_, t, h, us, t', h', u, t'', hws, o, t₃, ho, rfl, rfl⟩
    exact ⟨t, h, us, t', h', u, t'', hws, o, _, ho, trivial, rfl⟩
  · rintro ⟨t, h, us, t', h', u, t'', hws, o, t₃, ho, -, rfl⟩
    exact ⟨gs, t, h, us, t', h', u, t'', hws, o, _, ho, rfl, rfl⟩

lemma Feed.length_lt (hf : Feed ended after nl) (hl : l ≠ []) :
    after.length < (l ++ nl).length := by
  have := List.length_pos_of_ne_nil hl
  rw [List.length_append]
  cases hf with
  | line =>
    simp only [List.length_cons]
    omega
  | last =>
    simp only [List.length_nil]
    omega

lemma ne_nil_of_header {E : List Char → Prop} {name : String} (h : Header E l name) : l ≠ [] := by
  rintro rfl
  obtain ⟨r, hr⟩ := Line.skipBlanks_header h
  cases hr

lemma ne_nil_of_entry {E : List Char → Prop} {k : String} {v : Value} (h : Entry E l k v) :
    l ≠ [] := by
  rintro rfl
  obtain ⟨c, r, hr, -⟩ := Line.skipBlanks_entry h
  cases hr

lemma group_eq_some {g : Group} : group cs = some (g, rest) ↔ ∃ us cs' name cs'' es,
    many blank cs = some (us, cs') ∧ header cs' = some (name, cs'') ∧
      many spacedEntry cs'' = some (es, rest) ∧ g = ⟨name, es⟩ := by
  simp only [group, bind_eq_some, pure_eq_some]
  constructor
  · rintro ⟨us, cs', h, name, cs'', h', es, _, h'', rfl, rfl⟩
    exact ⟨us, cs', name, cs'', es, h, h', h'', rfl⟩
  · rintro ⟨us, cs', name, cs'', es, h, h', h'', rfl⟩
    exact ⟨us, cs', h, name, cs'', h', es, rest, h'', rfl, rfl⟩

lemma length_lt_of_group {g : Group} (h : group cs = some (g, rest)) :
    rest.length < cs.length := by
  obtain ⟨us, cs', name, cs'', es, hblank, hheader, hmany, -⟩ := group_eq_some.mp h
  obtain ⟨l, ended, after, nl, rfl, hn, hf⟩ := exists_feed cs'
  obtain ⟨hl, rfl⟩ := (header_eq_some hf hn).mp hheader
  have hline := hf.length_lt (ne_nil_of_header hl)
  have hle := length_le_of_many hblank
  have hle' := length_le_of_many hmany
  omega

lemma groups?_of_group {g : Group} (h : group cs = some (g, rest)) :
    groups? cs = (groups? rest).map (g :: ·) := by
  have hlt := length_lt_of_group h
  ext gs
  rw [Option.map_eq_some_iff, groups?_eq_some]
  constructor
  · rintro ⟨t, hmany, hcoda⟩
    rw [many_of_eq_some h hlt, Option.map_eq_some_iff] at hmany
    obtain ⟨⟨gs', t'⟩, hrest, ⟨⟩⟩ := hmany
    exact ⟨gs', groups?_eq_some.mpr ⟨_, hrest, hcoda⟩, rfl⟩
  · rintro ⟨gs', hgs, rfl⟩
    obtain ⟨t, hmany, hcoda⟩ := groups?_eq_some.mp hgs
    exact ⟨t, many_cons.mpr ⟨rest, h, hlt, hmany⟩, hcoda⟩

lemma groups?_of_none (h : group cs = none) {gs : List Group} :
    groups? cs = some gs ↔ gs = [] ∧ coda cs = some ((), []) := by
  rw [groups?_eq_some, many_of_eq_none h]
  simp [eq_comm]

lemma groups?_of_blank (h : blank cs = some (u, after)) : groups? cs = groups? after := by
  have hgroup : group cs = group after := skip_blank h _
  have hcoda : coda cs = coda after := skip_blank h _
  rcases hg : group after with _ | ⟨g, rest⟩
  · ext gs
    rw [groups?_of_none hg, groups?_of_none (hgroup.trans hg), hcoda]
  · rw [groups?_of_group hg, groups?_of_group (hgroup.trans hg)]

/-! ### Line by line -/

/-- What is read line by line. -/
def reading (inGroup : Bool) (cs : List Char) : Option (List (String × Value) × List Group) :=
  Line.outline inGroup (Line.ofText cs)

lemma reading_nil (inGroup : Bool) : reading inGroup [] = some ([], []) := by
  have hblank : (⟨[], false⟩ : Line).content? inGroup = some .blank := Line.content?_eq_some.mpr rfl
  rw [reading, Line.ofText_of_not_mem (by simp), Line.outline, hblank]
  rfl

lemma reading_feed (hf : Feed ended after nl) (hn : '\n' ∉ l) (inGroup : Bool) :
    reading inGroup (l ++ nl) =
      match (⟨l, ended⟩ : Line).content? inGroup with
      | none => none
      | some .blank => reading inGroup after
      | some (.header name) => (reading true after).map fun o => ([], ⟨name, o.1⟩ :: o.2)
      | some (.entry key v) => (reading inGroup after).map fun o => ((key, v) :: o.1, o.2) := by
  cases hf with
  | line => rw [reading, Line.ofText_append hn, Line.outline]; rfl
  | last =>
    rw [reading, List.append_nil, Line.ofText_of_not_mem hn, Line.outline]
    simp only [reading_nil]
    rfl

lemma reading_of_nothing (hf : Feed ended after nl) (hn : '\n' ∉ l) {inGroup : Bool}
    (h : ∀ c, ¬ Line.Says (Line.Ends ended) inGroup l c) : reading inGroup (l ++ nl) = none := by
  have hnone : (⟨l, ended⟩ : Line).content? inGroup = none :=
    Option.eq_none_iff_forall_ne_some.mpr fun c hc => h c (Line.content?_eq_some.mp hc)
  rw [reading_feed hf hn, hnone]

lemma reading_of_ends (hf : Feed ended after nl) (hn : '\n' ∉ l) (hl : Line.Ends ended l)
    (inGroup : Bool) : reading inGroup (l ++ nl) = reading inGroup after := by
  have hsays : (⟨l, ended⟩ : Line).content? inGroup = some .blank := Line.content?_eq_some.mpr hl
  rw [reading_feed hf hn, hsays]

lemma reading_of_header (hf : Feed ended after nl) (hn : '\n' ∉ l) {name : String}
    (hl : Header (Line.Ends ended) l name) (inGroup : Bool) : reading inGroup (l ++ nl) =
      (reading true after).map fun o => ([], ⟨name, o.1⟩ :: o.2) := by
  have hsays : (⟨l, ended⟩ : Line).content? inGroup = some (.header name) :=
    Line.content?_eq_some.mpr hl
  rw [reading_feed hf hn, hsays]

lemma reading_of_entry (hf : Feed ended after nl) (hn : '\n' ∉ l) {k : String} {v : Value}
    (hl : Entry (Line.Ends ended) l k v) :
    reading true (l ++ nl) = (reading true after).map fun o => ((k, v) :: o.1, o.2) := by
  have hsays : (⟨l, ended⟩ : Line).content? true = some (.entry k v) :=
    Line.content?_eq_some.mpr ⟨rfl, hl⟩
  rw [reading_feed hf hn, hsays]

/-! ### The rules in front of a line -/

lemma eq_none_of_forall {α : Type} {r : Rule α} (h : ∀ a rest, r cs ≠ some (a, rest)) :
    r cs = none :=
  Option.eq_none_iff_forall_ne_some.mpr fun ⟨a, rest⟩ => h a rest

/-- A line that is not blank, or that is the last one, is not passed over. -/
structure Standing (ended : Bool) (l after nl : List Char) : Prop where
  feed : Feed ended after nl
  line : '\n' ∉ l
  stays : ended = true → ¬ Line.Ends ended l

namespace Standing

variable {k : String} {v : Value} (h : Standing ended l after nl)

include h

lemma blank_eq_none : blank (l ++ nl) = none :=
  eq_none_of_forall fun _ _ hb =>
    let hb := (blank_eq_some h.feed h.line).mp hb
    h.stays hb.2.1 hb.1

lemma group_eq_none (hl : ∀ name, ¬ Header (Line.Ends ended) l name) : group (l ++ nl) = none := by
  refine eq_none_of_forall fun g rest hg => ?_
  rw [group, skip_nothing h.blank_eq_none, bind_eq_some] at hg
  obtain ⟨name, cs', hheader, -⟩ := hg
  exact hl name ((header_eq_some h.feed h.line).mp hheader).1

lemma coda_eq_some : coda (l ++ nl) = some ((), []) ↔ Line.Ends ended l := by
  rw [coda, skip_nothing h.blank_eq_none, gap_apply h.feed h.line, pure_eq_some, ends_iff_gap]
  have hstays := h.stays
  rw [ends_iff_gap] at hstays
  cases h.feed with
  | line =>
    refine iff_of_false ?_ (hstays rfl)
    simp
  | last =>
    rw [List.append_nil]
    constructor
    · rintro ⟨-, hgap⟩
      exact .inl hgap.symm
    · rintro (hgap | ⟨-, ⟨⟩⟩)
      exact ⟨rfl, hgap.symm⟩

lemma groups?_eq_none (hl : ∀ name, ¬ Header (Line.Ends ended) l name)
    (hl' : ¬ Line.Ends ended l) : groups? (l ++ nl) = none :=
  Option.eq_none_iff_forall_ne_some.mpr fun _ hgs =>
    hl' (h.coda_eq_some.mp ((groups?_of_none (h.group_eq_none hl)).mp hgs).2)

lemma spacedEntry_eq_none (hl : ∀ k v, ¬ Entry (Line.Ends ended) l k v) :
    spacedEntry (l ++ nl) = none := by
  refine eq_none_of_forall fun e rest he => ?_
  rw [spacedEntry, skip_nothing h.blank_eq_none] at he
  exact hl _ _ ((entry_eq_some h.feed h.line).mp he).1

lemma spacedEntry_eq_some (hl : Entry (Line.Ends ended) l k v) :
    spacedEntry (l ++ nl) = some ((k, v), after) := by
  rw [spacedEntry, skip_nothing h.blank_eq_none]
  exact (entry_eq_some h.feed h.line).mpr ⟨hl, rfl⟩

lemma many_eq_nil (hl : ∀ k v, ¬ Entry (Line.Ends ended) l k v) :
    many spacedEntry (l ++ nl) = some ([], l ++ nl) :=
  many_of_eq_none (h.spacedEntry_eq_none hl)

lemma many_eq_cons (hl : Entry (Line.Ends ended) l k v) :
    many spacedEntry (l ++ nl) = (many spacedEntry after).map fun x => ((k, v) :: x.1, x.2) :=
  many_of_eq_some (h.spacedEntry_eq_some hl) (h.feed.length_lt (ne_nil_of_entry hl))

end Standing

/-! ### Files, line by line -/

/-- The grammar reads what is read line by line: the groups, and in a group the entries and then
the groups behind them. -/
structure Agrees (cs : List Char) : Prop where
  groups : groups? cs = (reading false cs).map (·.2)
  entries : ∀ es rest, many spacedEntry cs = some (es, rest) →
    reading true cs = (groups? rest).map fun gs => (es, gs)

lemma length_lt_of_spacedEntry {e : String × Value} (h : spacedEntry cs = some (e, rest)) :
    rest.length < cs.length := by
  obtain ⟨us, cs', hblank, hentry⟩ := bind_eq_some.mp h
  obtain ⟨l, ended, after, nl, rfl, hn, hf⟩ := exists_feed cs'
  obtain ⟨hl, rfl⟩ := (entry_eq_some hf hn).mp hentry
  have hline := hf.length_lt (ne_nil_of_entry hl)
  have hle := length_le_of_many hblank
  omega

lemma agrees_of_blank (h : Agrees after) (hf : Feed true after nl) (hn : '\n' ∉ l)
    (hl : Line.Ends true l) : Agrees (l ++ nl) := by
  have hblank : blank (l ++ nl) = some ((), after) := (blank_eq_some hf hn).mpr ⟨hl, rfl, rfl⟩
  constructor
  case groups => rw [groups?_of_blank hblank, h.groups, reading_of_ends hf hn hl]
  case entries =>
    intro es rest hmany
    have hspaced : spacedEntry (l ++ nl) = spacedEntry after := skip_blank hblank _
    rw [reading_of_ends hf hn hl]
    rcases hs : spacedEntry after with _ | ⟨e, t⟩
    · rw [many_of_eq_none (hspaced.trans hs)] at hmany
      cases hmany
      rw [h.entries [] after (many_of_eq_none hs), groups?_of_blank hblank]
    · rw [many_of_eq_some (hspaced.trans hs) (length_lt_of_spacedEntry (hspaced.trans hs)),
        ← many_of_eq_some hs (length_lt_of_spacedEntry hs)] at hmany
      exact h.entries es rest hmany

lemma agrees_of_last (h : Standing ended l after nl) (hl : Line.Ends ended l) :
    Agrees (l ++ nl) := by
  obtain rfl : ended = false := by
    by_contra hended
    exact h.stays (by simpa using hended) hl
  obtain rfl : after = [] := by
    cases h.feed
    rfl
  have hgroups : groups? (l ++ nl) = some [] :=
    (groups?_of_none (h.group_eq_none fun _ hl' => Line.not_ends_of_header hl' hl)).mpr
      ⟨rfl, h.coda_eq_some.mpr hl⟩
  constructor
  case groups =>
    rw [hgroups, reading_of_ends h.feed h.line hl, reading_nil]
    rfl
  case entries =>
    intro es rest hmany
    rw [h.many_eq_nil fun _ _ hl' => Line.not_ends_of_entry hl' hl] at hmany
    cases hmany
    rw [hgroups, reading_of_ends h.feed h.line hl, reading_nil]
    rfl

lemma agrees_of_header (h : Agrees after) (hs : Standing ended l after nl) {name : String}
    (hl : Header (Line.Ends ended) l name) : Agrees (l ++ nl) := by
  obtain ⟨es, rest, hmany⟩ := exists_many spacedEntry after
  have hgroup : group (l ++ nl) = some (⟨name, es⟩, rest) :=
    group_eq_some.mpr ⟨[], l ++ nl, name, after, es, many_of_eq_none hs.blank_eq_none,
      (header_eq_some hs.feed hs.line).mpr ⟨hl, rfl⟩, hmany, rfl⟩
  have hreading (inGroup : Bool) : reading inGroup (l ++ nl) =
      (groups? rest).map fun gs => ([], ⟨name, es⟩ :: gs) := by
    rw [reading_of_header hs.feed hs.line hl, h.entries es rest hmany, Option.map_map]
    rfl
  constructor
  case groups =>
    rw [groups?_of_group hgroup, hreading, Option.map_map]
    rfl
  case entries =>
    intro es' rest' hmany'
    rw [hs.many_eq_nil fun _ _ hl' => Line.not_header_of_entry hl' hl] at hmany'
    cases hmany'
    rw [groups?_of_group hgroup, hreading, Option.map_map]
    rfl

lemma agrees_of_entry (h : Agrees after) (hs : Standing ended l after nl) {k : String} {v : Value}
    (hl : Entry (Line.Ends ended) l k v) : Agrees (l ++ nl) := by
  constructor
  case groups =>
    have hnothing : ∀ c, ¬ Line.Says (Line.Ends ended) false l c := by
      rintro (_ | name | ⟨key, v'⟩) hc
      · exact Line.not_ends_of_entry hl hc
      · exact Line.not_header_of_entry hl hc
      · cases hc.1
    rw [hs.groups?_eq_none (fun _ => Line.not_header_of_entry hl) (Line.not_ends_of_entry hl),
      reading_of_nothing hs.feed hs.line hnothing]
    rfl
  case entries =>
    intro es rest hmany
    rw [hs.many_eq_cons hl, Option.map_eq_some_iff] at hmany
    obtain ⟨⟨es', rest'⟩, hmany, ⟨⟩⟩ := hmany
    rw [reading_of_entry hs.feed hs.line hl, h.entries es' rest' hmany, Option.map_map]
    rfl

lemma agrees_of_nothing (hs : Standing ended l after nl)
    (hl : ∀ c, ¬ Line.Says (Line.Ends ended) true l c) : Agrees (l ++ nl) := by
  have hgroups : groups? (l ++ nl) = none :=
    hs.groups?_eq_none (fun name => hl (.header name)) (hl .blank)
  constructor
  case groups =>
    have hnothing : ∀ c, ¬ Line.Says (Line.Ends ended) false l c := by
      rintro (_ | name | ⟨key, v'⟩) hc
      · exact hl .blank hc
      · exact hl (.header name) hc
      · cases hc.1
    rw [hgroups, reading_of_nothing hs.feed hs.line hnothing]
    rfl
  case entries =>
    intro es rest hmany
    rw [hs.many_eq_nil fun k v hl' => hl (.entry k v) ⟨rfl, hl'⟩] at hmany
    cases hmany
    rw [hgroups, reading_of_nothing hs.feed hs.line hl]
    rfl

/-- **The grammar reads a text line by line**, although it does not know what a line is. -/
theorem agrees (cs : List Char) : Agrees cs := by
  induction hlen : cs.length using Nat.strongRecOn generalizing cs with
  | ind n ih =>
    subst hlen
    obtain ⟨l, ended, after, nl, rfl, hn, hf⟩ := exists_feed cs
    have hnext (hl : l ≠ []) : Agrees after := ih _ (hf.length_lt hl) after rfl
    by_cases hblank : ended = true ∧ Line.Ends ended l
    · obtain ⟨rfl, hl⟩ := hblank
      have hblank : blank (l ++ nl) = some ((), after) := (blank_eq_some hf hn).mpr ⟨hl, rfl, rfl⟩
      exact agrees_of_blank (ih _ (length_lt_of_blank hblank) after rfl) hf hn hl
    · have hs : Standing ended l after nl := ⟨hf, hn, fun hended hl => hblank ⟨hended, hl⟩⟩
      by_cases hsays : ∃ c, Line.Says (Line.Ends ended) true l c
      · obtain ⟨c, hc⟩ := hsays
        cases c with
        | blank => exact agrees_of_last hs hc
        | header name => exact agrees_of_header (hnext (ne_nil_of_header hc)) hs hc
        | entry k v => exact agrees_of_entry (hnext (ne_nil_of_entry hc.2)) hs hc.2
      · exact agrees_of_nothing hs (not_exists.mp hsays)

end Barrage.Grammar

namespace Barrage.Definition

open Spelling

/-- What is read of a text. -/
structure Exactly (text : String) : Prop where
  /-- A definition is read if the lines of the text spell it. -/
  spells : ∀ d, parse text = .ok d ↔ Spells (lines text.toList) d.groups
  /-- Something is read if each line is blank, a header or an entry, and no entry is too early. -/
  accepted : (∃ d, parse text = .ok d) ↔
    (∀ l ∈ lines text.toList, Proper l) ∧ Headed (lines text.toList)
  /-- The grammar, which knows no lines, reads the same. -/
  grammar : ∀ d, Grammar.parse text = some d.groups ↔ parse text = .ok d

/-- **A text is read if and only if its lines spell a definition.** -/
theorem parse_exactly (text : String) : Exactly text := by
  constructor
  case spells =>
    intro d
    rw [parse_eq_ok, ← Line.map_body_ofText, ← Line.outlined_false]
    simp only [Line.outline_eq_some]
  case accepted =>
    have hsome : (∃ d, parse text = .ok d) ↔
        (Line.outline false (Line.ofText text.toList)).isSome = true := by
      rw [Option.isSome_iff_exists]
      constructor
      · rintro ⟨d, hd⟩
        obtain ⟨es, h⟩ := parse_eq_ok.mp hd
        exact ⟨_, h⟩
      · rintro ⟨⟨es, gs⟩, h⟩
        exact ⟨⟨gs⟩, parse_eq_ok.mpr ⟨es, h⟩⟩
    rw [hsome, Line.isSome_outline, Line.map_body_ofText]
    exact and_congr_right fun _ => ⟨fun h => h rfl, fun h _ => h⟩
  case grammar =>
    intro d
    rw [Grammar.parse, (Grammar.agrees text.toList).groups, Option.map_eq_some_iff, parse_eq_ok]
    constructor
    · rintro ⟨⟨es, gs⟩, h, rfl⟩
      exact ⟨es, h⟩
    · rintro ⟨es, h⟩
      exact ⟨(es, d.groups), h, rfl⟩

end Barrage.Definition
