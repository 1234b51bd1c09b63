import Barrage.Proofs.Definition.Reading

/-!
How texts are read.

The lines of a text are read one after the other: a header opens a group, and the entries behind it
are its own. A text is read if and only if it spells groups, and it spells groups if and only if
each of its lines is blank, a header or an entry and no entry stands before the first header.
-/

namespace Barrage

open Spelling

namespace Line

variable {ended : Bool} {cs w t rest : List Char} {v : Value}

/-! ### The carriage return of a line feed -/

/-- The characters of a line without the carriage return of its line feed. -/
def body (ended : Bool) (cs : List Char) : List Char :=
  if ended = true ∧ cs.getLast? = some '\r' then cs.dropLast else cs

lemma body_append (hw : w.getLast? ≠ some '\r') (rest : List Char) :
    body ended (w ++ rest) = w ++ body ended rest := by
  rcases List.eq_nil_or_concat rest with rfl | ⟨r, c, rfl⟩
  · simp [body, hw]
  · simp only [body, List.concat_eq_append, ← List.append_assoc, List.getLast?_append,
      List.getLast?_singleton, Option.some_or, List.dropLast_concat]
    split <;> simp

lemma body_cons {c : Char} (h : c = '\r' → cs ≠ []) :
    body ended (c :: cs) = c :: body ended cs := by
  rcases cs with _ | ⟨d, cs⟩
  · have hc : c ≠ '\r' := fun hc => h hc rfl
    simp [body, hc]
  · simp only [body, List.getLast?_cons_cons, List.dropLast_cons_cons]
    split <;> rfl

lemma exists_of_body (h : body ended cs = w ++ t) :
    ∃ rest, cs = w ++ rest ∧ body ended rest = t := by
  rw [body] at h
  split at h
  · rename_i hcr
    obtain ⟨hended, hlast⟩ := hcr
    refine ⟨t ++ ['\r'], ?_, by simp [body, hended]⟩
    rw [← List.append_assoc, ← h]
    exact (List.dropLast_append_getLast? _ hlast).symm
  · rename_i hcr
    refine ⟨t, h, if_neg fun ht => hcr ⟨ht.1, ?_⟩⟩
    rw [h, List.getLast?_append, ht.2, Option.some_or]

lemma head?_body (ended : Bool) (cs : List Char) :
    (body ended cs).head? = cs.head? ∨ (body ended cs = [] ∧ cs = ['\r']) := by
  rw [body]
  split
  · rename_i hcr
    rcases cs with _ | ⟨c, _ | ⟨d, cs⟩⟩
    · exact .inl rfl
    · right
      simpa using hcr.2
    · exact .inl rfl
  · exact .inl rfl

/-- What is spelled in front of a rest that is told apart. -/
lemma exists_body {R R' : List Char → List Char → Prop}
    (hlast : ∀ w rest, R' w rest → w.getLast? ≠ some '\r')
    (h : ∀ w rest, R w rest ↔ R' w (body ended rest)) :
    (∃ w rest, cs = w ++ rest ∧ R w rest) ↔ ∃ w rest, body ended cs = w ++ rest ∧ R' w rest := by
  constructor
  · rintro ⟨w, rest, rfl, hR⟩
    have hR' := (h w rest).mp hR
    exact ⟨w, _, body_append (hlast w _ hR') rest, hR'⟩
  · rintro ⟨w, t, heq, hR'⟩
    obtain ⟨rest, rfl, rfl⟩ := exists_of_body heq
    exact ⟨w, rest, rfl, (h w rest).mpr hR'⟩

lemma last_of_forall {w : List Char} (h : ∀ c ∈ w, c ≠ '\r') : w.getLast? ≠ some '\r' :=
  fun hlast => h _ (List.mem_of_getLast? hlast) rfl

lemma last_blanks {bs : List Char} (hb : Blanks bs) : bs.getLast? ≠ some '\r' :=
  last_of_forall fun c hc => by rcases hb c hc with rfl | rfl <;> decide

lemma ends_iff : Ends ended rest ↔ Trailing (body ended rest) := by
  constructor
  · intro h
    obtain ⟨bs, r, rfl, hb, hhead⟩ := exists_blanks rest
    rw [body_append (last_blanks hb)]
    rcases ((ends_append hb).mp h).cases hhead with rfl | ⟨text, rfl⟩ | ⟨rfl, rfl⟩
    · simpa [body] using Trailing.blanks hb
    · have hcomment : body ended (';' :: text) = ';' :: body ended text :=
        body_append (w := [';']) (by simp) text
      rw [hcomment]
      exact .comment hb _
    · simpa [body] using Trailing.blanks hb
  · intro h
    generalize hbody : body ended rest = t at h
    cases h with
    | blanks hb =>
      rw [← List.append_nil t] at hbody
      obtain ⟨r, rfl, hr⟩ := exists_of_body hbody
      rw [ends_append hb]
      rcases head?_body ended r with hhead | ⟨-, rfl⟩
      · rw [hr, List.head?_nil, eq_comm, List.head?_eq_none_iff] at hhead
        rw [hhead]
        rfl
      · cases ended
        · cases hr
        · rfl
    | @comment bs hb text =>
      obtain ⟨r, rfl, hr⟩ := exists_of_body hbody
      rw [ends_append hb]
      rcases head?_body ended r with hhead | ⟨hnil, -⟩
      · rw [hr, List.head?_cons, eq_comm, List.head?_eq_some_iff] at hhead
        obtain ⟨r', rfl⟩ := hhead
        rfl
      · rw [hr] at hnil
        cases hnil

/-! ### Lines without their line feeds -/

lemma strict_iff : Strict (Ends ended) cs v ↔ Strict Trailing (body ended cs) v := by
  refine exists_body (fun w rest ⟨hw, _⟩ => ?_) fun w rest => and_congr_right fun _ => ends_iff
  cases hw with
  | plain h =>
    exact last_of_forall fun c hc => (isBare_iff.mp (isBare_of_numeric (h.numeric c hc))).2
  | quoted h => simp [List.getLast?_cons]

lemma loose_iff : Loose (Ends ended) cs v ↔ Loose Trailing (body ended cs) v := by
  refine exists_body (fun w rest ⟨hw, _⟩ => last_of_forall fun c hc => (hw.chars c hc).2)
    fun w rest => ?_
  rw [ends_iff]
  refine and_congr_left fun _ =>
    ⟨fun h => ⟨h.nonempty, h.chars, ?_⟩, fun h => ⟨h.nonempty, h.chars, ?_⟩⟩
  · rcases head?_body ended rest with hhead | ⟨hnil, -⟩
    · rw [hhead]
      exact h.longest
    · simp [hnil]
  · rcases head?_body ended rest with hhead | ⟨-, rfl⟩
    · rw [← hhead]
      exact h.longest
    · simp

lemma denotes_iff : Denotes (Ends ended) cs v ↔ Denotes Trailing (body ended cs) v := by
  simp only [Denotes, strict_iff, loose_iff]

lemma header_iff {name : String} :
    Header (Ends ended) cs name ↔ Header Trailing (body ended cs) name := by
  refine exists_body (fun w rest ⟨hw, _⟩ => ?_) fun w rest => and_congr_right fun _ => ends_iff
  cases hw with
  | mk hb hne h => simp [List.getLast?_append, List.getLast?_cons]

lemma entry_iff {key : String} :
    Entry (Ends ended) cs key v ↔ Entry Trailing (body ended cs) key v := by
  refine exists_body (fun w rest ⟨hw, _⟩ => ?_) fun w rest => ?_
  · cases hw with
    | @mk bs text bs' bs'' hb hne h hb' hb'' =>
      have hlast : ('=' :: bs'').getLast? ≠ some '\r' := last_of_forall fun c hc => by
        rcases List.mem_cons.mp hc with rfl | hc
        · decide
        · rcases hb'' c hc with rfl | rfl <;> decide
      simpa [List.getLast?_append, List.getLast?_cons] using hlast
  · rw [denotes_iff]
    refine and_congr_right fun _ => and_congr_left fun _ => ?_
    rcases head?_body ended rest with hhead | ⟨hnil, rfl⟩
    · rw [hhead]
    · simp [hnil]

/-! ### What a line says -/

section First

variable {E : List Char → Prop} {name key : String}

lemma skipBlanks_header (h : Header E cs name) : ∃ r, Text.skipBlanks cs = '[' :: r := by
  obtain ⟨_, rest, rfl, @⟨bs, text, hb, hne, htext⟩, -⟩ := h
  refine ⟨text ++ ']' :: rest, ?_⟩
  rw [List.append_assoc, skipBlanks_eq hb (by simp [Text.isBlank])]
  simp

lemma skipBlanks_entry (h : Entry E cs key v) : ∃ c r, Text.skipBlanks cs = c :: r ∧ KeyChar c := by
  obtain ⟨_, rest, rfl, @⟨bs, text, bs', bs'', hb, hne, htext, hb', hb''⟩, -⟩ := h
  obtain ⟨c, cs, rfl⟩ := List.exists_cons_of_ne_nil hne
  have hc := htext c List.mem_cons_self
  refine ⟨c, cs ++ (bs' ++ '=' :: (bs'' ++ rest)), ?_, hc⟩
  rw [List.append_assoc, skipBlanks_eq hb]
  · simp
  · intro d hd
    cases hd
    exact not_blank_of_keyChar hc

lemma not_ends_of_header (h : Header E cs name) : ¬ Ends ended cs := by
  obtain ⟨r, hr⟩ := skipBlanks_header h
  simp [isEnd, hr]

lemma not_ends_of_entry (h : Entry E cs key v) : ¬ Ends ended cs := by
  obtain ⟨c, r, hr, hc⟩ := skipBlanks_entry h
  intro hend
  rw [Ends, isEnd, hr] at hend
  split at hend
  · rename_i heq
    cases heq
  · rename_i heq
    cases heq
    exact absurd hc (by simp [KeyChar])
  · rename_i heq
    cases heq
    exact absurd hc (by simp [KeyChar])
  · cases hend

lemma not_header_of_entry (h : Entry E cs key v) : ¬ Header E cs name := by
  intro h'
  obtain ⟨c, r, hr, hc⟩ := skipBlanks_entry h
  obtain ⟨r', hr'⟩ := skipBlanks_header h'
  rw [hr'] at hr
  cases hr
  exact absurd hc (by simp [KeyChar])

end First

/-- What a line says, with `E` at its end; only a group has entries. -/
def Says (E : List Char → Prop) (inGroup : Bool) (cs : List Char) : Content → Prop
  | .blank => E cs
  | .header name => Header E cs name
  | .entry key v => inGroup = true ∧ Entry E cs key v

lemma says_iff {inGroup : Bool} {c : Content} :
    Says (Ends ended) inGroup cs c ↔ Says Trailing inGroup (body ended cs) c := by
  cases c with
  | blank => exact ends_iff
  | header name => exact header_iff
  | entry key v => exact and_congr_right fun _ => entry_iff

lemma content?_eq_some {inGroup : Bool} {l : Line} {c : Content} :
    l.content? inGroup = some c ↔ Says (Ends l.ended) inGroup l.chars c := by
  rw [content?]
  constructor
  · intro h
    split at h
    · rename_i hend
      cases h
      exact hend
    · split at h
      · rename_i hheader
        cases h
        exact header_eq_ok.mp hheader
      · split at h
        · rename_i hgroup
          split at h
          · rename_i hentry
            cases h
            exact ⟨hgroup, entry_eq_ok.mp hentry⟩
          · cases h
        · cases h
  · intro h
    cases c with
    | blank => exact if_pos h
    | header name => rw [if_neg (not_ends_of_header h), header_eq_ok.mpr h]
    | entry key v =>
      obtain ⟨rfl, hentry⟩ := h
      rw [if_neg (not_ends_of_entry hentry)]
      rcases hheader : l.header with stop | name
      · simp [entry_eq_ok.mpr hentry]
      · exact absurd (header_eq_ok.mp hheader) (not_header_of_entry hentry)

/-! ### Lines of a text -/

lemma ofText_of_not_mem (h : '\n' ∉ cs) : ofText cs = [⟨cs, false⟩] := by
  have hspan : Span (· != '\n') cs [] := .all fun c hc => by simpa using ne_of_mem_of_not_mem hc h
  have hdrop : cs.dropWhile (· != '\n') = [] := by simpa using hspan.drop
  rw [ofText]
  split
  · rfl
  · rename_i heq
    rw [hdrop] at heq
    cases heq

lemma ofText_append (h : '\n' ∉ cs) (after : List Char) :
    ofText (cs ++ '\n' :: after) = ⟨cs, true⟩ :: ofText after := by
  have hspan : Span (· != '\n') cs ('\n' :: after) :=
    ⟨fun c hc => by simpa using ne_of_mem_of_not_mem hc h, by simp⟩
  rw [ofText]
  split
  · rename_i heq
    rw [hspan.drop] at heq
    cases heq
  · rename_i heq
    rw [hspan.drop] at heq
    cases heq
    rw [hspan.take]

lemma lines_of_not_mem (h : '\n' ∉ cs) : lines cs = [cs] := by
  induction cs with
  | nil => rfl
  | cons c cs ih =>
    rw [List.mem_cons, not_or] at h
    rw [lines, ih h.2]
    · exact Ne.symm h.1
    · rintro cs' rfl rfl
      simp at h

lemma lines_append (h : '\n' ∉ cs) (after : List Char) :
    lines (cs ++ '\n' :: after) = body true cs :: lines after := by
  induction cs with
  | nil => rfl
  | cons c cs ih =>
    rw [List.mem_cons, not_or] at h
    by_cases hcr : c = '\r' ∧ cs = []
    · obtain ⟨rfl, rfl⟩ := hcr
      rfl
    · have hbody : body true (c :: cs) = c :: body true cs :=
        body_cons fun hc hnil => hcr ⟨hc, hnil⟩
      rw [List.cons_append, lines, ih h.2, hbody]
      · exact Ne.symm h.1
      · rintro cs' rfl heq
        rcases cs with _ | ⟨d, cs⟩
        · exact hcr ⟨rfl, rfl⟩
        · cases heq
          simp at h

/-- The lines of a text, without what ends them. -/
lemma map_body_ofText (cs : List Char) :
    (ofText cs).map (fun l => body l.ended l.chars) = lines cs := by
  induction hn : cs.length using Nat.strongRecOn generalizing cs with
  | ind n ih =>
    rcases Span.exists_cut '\n' cs with h | ⟨l, after, rfl, h⟩
    · rw [ofText_of_not_mem h, lines_of_not_mem h]
      rfl
    · rw [ofText_append h, lines_append h, List.map_cons, ih after.length _ after rfl]
      subst hn
      simp
      omega

/-! ### What lines say together -/

/-- The entries in front of the first header, and the groups. -/
def outline (inGroup : Bool) : List Line → Option (List (String × Value) × List Group)
  | [] => some ([], [])
  | l :: ls =>
    match l.content? inGroup with
    | none => none
    | some .blank => outline inGroup ls
    | some (.header name) => (outline true ls).map fun o => ([], ⟨name, o.1⟩ :: o.2)
    | some (.entry key v) => (outline inGroup ls).map fun o => ((key, v) :: o.1, o.2)

lemma outline_eq (inGroup : Bool) (start : Nat) (ls : List Line) :
    outline inGroup ls = (contents inGroup start ls).toOption.map fun cs =>
      (Content.entries cs, Content.groups cs) := by
  induction ls generalizing inGroup start with
  | nil => rfl
  | cons l ls ih =>
    rw [outline, contents]
    rcases l.content? inGroup with _ | c
    · rfl
    · cases c with
      | blank =>
        simp only [Bool.or_false, ih inGroup (start + l.chars.length + 1)]
        rcases contents inGroup (start + l.chars.length + 1) ls <;> rfl
      | header name =>
        simp only [Bool.or_true, ih true (start + l.chars.length + 1)]
        rcases contents true (start + l.chars.length + 1) ls <;> rfl
      | entry key v =>
        simp only [Bool.or_false, ih inGroup (start + l.chars.length + 1)]
        rcases contents inGroup (start + l.chars.length + 1) ls <;> rfl

/-- What stands in front of the first header, and a group for each header. -/
def Outlined (inGroup : Bool) (ls : List (List Char)) (es : List (String × Value))
    (gs : List Group) : Prop :=
  (inGroup = false → es = []) ∧
    ∃ lead parts, ls = lead ++ parts.flatten ∧ Entries lead es ∧ List.Forall₂ Part gs parts

section

variable {inGroup : Bool} {es : List (String × Value)} {gs : List Group}

lemma outline_cons {l : Line} {ls : List Line} : outline inGroup (l :: ls) = some (es, gs) ↔
    (l.content? inGroup = some .blank ∧ outline inGroup ls = some (es, gs)) ∨
      (∃ name es' gs', l.content? inGroup = some (.header name) ∧
        outline true ls = some (es', gs') ∧ es = [] ∧ gs = ⟨name, es'⟩ :: gs') ∨
      ∃ key v es', l.content? inGroup = some (.entry key v) ∧ outline inGroup ls = some (es', gs) ∧
        es = (key, v) :: es' := by
  rw [outline]
  rcases l.content? inGroup with _ | _ | name | ⟨key, v⟩
  · simp
  · simp
  · rcases outline true ls with _ | ⟨es', gs'⟩
    · simp
    · simp [eq_comm]
  · rcases outline inGroup ls with _ | ⟨es', gs'⟩
    · simp
    · simp [eq_comm, and_comm]

lemma outlined_cons {l : List Char} {ls : List (List Char)} : Outlined inGroup (l :: ls) es gs ↔
    (Trailing l ∧ Outlined inGroup ls es gs) ∨
      (∃ name es' gs', Header Trailing l name ∧ Outlined true ls es' gs' ∧ es = [] ∧
        gs = ⟨name, es'⟩ :: gs') ∨
      ∃ key v es', (inGroup = true ∧ Entry Trailing l key v) ∧ Outlined inGroup ls es' gs ∧
        es = (key, v) :: es' := by
  constructor
  · rintro ⟨hgroup, lead, parts, heq, hes, hparts⟩
    cases hes with
    | nil =>
      cases hparts with
      | nil => cases heq
      | cons hp hparts =>
        obtain ⟨hheader, hs⟩ := hp
        cases heq
        exact .inr (.inl ⟨_, _, _, hheader, ⟨nofun, _, _, rfl, hs, hparts⟩, rfl, rfl⟩)
    | blank hl hs =>
      cases heq
      exact .inl ⟨hl, hgroup, _, parts, rfl, hs, hparts⟩
    | entry hl hs =>
      cases heq
      cases inGroup with
      | false => cases hgroup rfl
      | true => exact .inr (.inr ⟨_, _, _, ⟨rfl, hl⟩, ⟨nofun, _, parts, rfl, hs, hparts⟩, rfl⟩)
  · rintro (⟨hl, hgroup, lead, parts, rfl, hs, hparts⟩ | ⟨name, es', gs', hl, h, rfl, rfl⟩ |
      ⟨key, v, es', ⟨rfl, hl⟩, ⟨hgroup, lead, parts, rfl, hs, hparts⟩, rfl⟩)
    · exact ⟨hgroup, l :: lead, parts, rfl, .blank hl hs, hparts⟩
    · obtain ⟨-, lead, parts, rfl, hs, hparts⟩ := h
      exact ⟨fun _ => rfl, [], (l :: lead) :: parts, rfl, .nil, .cons (.mk hl hs) hparts⟩
    · exact ⟨nofun, l :: lead, parts, rfl, .entry hl hs, hparts⟩

lemma outlined_nil : Outlined inGroup [] es gs ↔ es = [] ∧ gs = [] := by
  constructor
  · rintro ⟨-, lead, parts, heq, hes, hparts⟩
    cases hparts with
    | nil =>
      cases hes with
      | nil => exact ⟨rfl, rfl⟩
      | blank hl hs => cases heq
      | entry hl hs => cases heq
    | cons hp hparts =>
      obtain ⟨hheader, hs⟩ := hp
      simp at heq
  · rintro ⟨rfl, rfl⟩
    exact ⟨fun _ => rfl, [], [], rfl, .nil, .nil⟩

/-- **Lines are read as what they spell.** -/
theorem outline_eq_some {ls : List Line} : outline inGroup ls = some (es, gs) ↔
    Outlined inGroup (ls.map fun l => body l.ended l.chars) es gs := by
  induction ls generalizing inGroup es gs with
  | nil => simp [outline, outlined_nil, eq_comm]
  | cons l ls ih =>
    rw [outline_cons, List.map_cons, outlined_cons]
    simp only [content?_eq_some, says_iff, ih]
    rfl

lemma headed_cons {l : List Char} {ls : List (List Char)} : Headed (l :: ls) ↔
    (∀ key v, ¬ Entry Trailing l key v) ∧ ((∃ name, Header Trailing l name) ∨ Headed ls) := by
  constructor
  · intro h
    constructor
    · intro key v hentry
      obtain ⟨h', hmem, -⟩ := h [] l ls key v rfl hentry
      cases hmem
    · refine or_iff_not_imp_left.mpr fun hno before l' after key v heq hentry => ?_
      obtain ⟨h', hmem, hheader⟩ := h (l :: before) l' after key v (by rw [heq]; rfl) hentry
      rcases List.mem_cons.mp hmem with rfl | hmem
      · exact absurd hheader hno
      · exact ⟨h', hmem, hheader⟩
  · rintro ⟨hno, h⟩ before l' after key v heq hentry
    rcases before with _ | ⟨b, before⟩
    · cases heq
      exact absurd hentry (hno key v)
    · cases heq
      rcases h with hheader | h
      · exact ⟨l, List.mem_cons_self, hheader⟩
      · obtain ⟨h', hmem, hheader⟩ := h before l' after key v rfl hentry
        exact ⟨h', List.mem_cons_of_mem _ hmem, hheader⟩

lemma ends_false : Ends false cs ↔ Trailing cs := by
  rw [ends_iff]
  rfl

/-- **Lines are read if each says something and no entry comes too early.** -/
theorem isSome_outline {ls : List Line} : (outline inGroup ls).isSome = true ↔
    (∀ l ∈ ls.map fun l => body l.ended l.chars, Proper l) ∧
      (inGroup = false → Headed (ls.map fun l => body l.ended l.chars)) := by
  induction ls generalizing inGroup with
  | nil => simp [outline, Headed]
  | cons l ls ih =>
    rw [outline, List.map_cons, List.forall_mem_cons, headed_cons]
    rcases hc : l.content? inGroup with _ | c
    · have hno (c : Content) : ¬ Says Trailing inGroup (body l.ended l.chars) c := fun h => by
        rw [content?_eq_some.mpr (says_iff.mpr h)] at hc
        cases hc
      refine iff_of_false Bool.false_ne_true ?_
      rintro ⟨⟨hblank | ⟨name, hheader⟩ | ⟨key, v, hentry⟩, -⟩, hheaded⟩
      · exact hno .blank hblank
      · exact hno (.header name) hheader
      · -- the line is an entry, and it comes too early
        cases inGroup with
        | false => exact (hheaded rfl).1 key v hentry
        | true => exact hno (.entry key v) ⟨rfl, hentry⟩
    · have hsays := says_iff.mp (content?_eq_some.mp hc)
      cases c with
      | blank =>
        have hnone : ∀ key v, ¬ Entry Trailing (body l.ended l.chars) key v := fun key v h =>
          not_ends_of_entry h (ends_false.mpr hsays)
        have hnone' : ¬ ∃ name, Header Trailing (body l.ended l.chars) name := fun ⟨name, h⟩ =>
          not_ends_of_header h (ends_false.mpr hsays)
        have hproper : Proper (body l.ended l.chars) := .inl hsays
        simp only [ih]
        tauto
      | header name =>
        have hnone : ∀ key v, ¬ Entry Trailing (body l.ended l.chars) key v := fun key v h =>
          not_header_of_entry h hsays
        have hproper : Proper (body l.ended l.chars) := .inr (.inl ⟨name, hsays⟩)
        have hheader : ∃ name, Header Trailing (body l.ended l.chars) name := ⟨name, hsays⟩
        simp only [Option.isSome_map, ih]
        tauto
      | entry key v =>
        obtain ⟨rfl, hentry⟩ := hsays
        have hproper : Proper (body l.ended l.chars) := .inr (.inr ⟨key, v, hentry⟩)
        simp only [Option.isSome_map, ih]
        tauto

end

lemma entries_nil {ls : List (List Char)} : Entries ls [] ↔ ∀ l ∈ ls, Trailing l := by
  constructor
  · intro h
    generalize hes : ([] : List (String × Value)) = es at h
    induction h with
    | nil => simp
    | blank hl hs ih => exact List.forall_mem_cons.mpr ⟨hl, ih hes⟩
    | entry => cases hes
  · intro h
    induction ls with
    | nil => exact .nil
    | cons l ls ih =>
      rw [List.forall_mem_cons] at h
      exact .blank h.1 (ih h.2)

lemma outlined_false {ls : List (List Char)} {gs : List Group} :
    (∃ es, Outlined false ls es gs) ↔ Spells ls gs := by
  constructor
  · rintro ⟨es, hnil, lead, parts, heq, hes, hparts⟩
    obtain rfl := hnil rfl
    exact ⟨lead, parts, heq, entries_nil.mp hes, hparts⟩
  · rintro ⟨lead, parts, heq, hlead, hparts⟩
    exact ⟨[], fun _ => rfl, lead, parts, heq, entries_nil.mpr hlead, hparts⟩

end Line

namespace Definition

lemma parse_eq_ok {text : String} {d : Definition} : parse text = .ok d ↔
    ∃ es, Line.outline false (Line.ofText text.toList) = some (es, d.groups) := by
  obtain ⟨gs⟩ := d
  rw [parse, Line.outline_eq false 0]
  rcases Line.contents false 0 (Line.ofText text.toList) with n | cs
  · simp [Except.toOption]
  · simp [Except.toOption]

end Definition

end Barrage
