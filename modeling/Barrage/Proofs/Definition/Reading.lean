import Barrage.Proofs.Definition.Numerals

/-!
How lines are read.

The value of an entry, a header and an entry are read if and only if they are spelled in the line,
with what may end a line behind them. The carriage return in front of a line feed makes no
difference: it is not seen where it is taken away beforehand.
-/

namespace Barrage

open Spelling

/-! ### What is spelled exactly -/

namespace Spelling

variable {w : List Char} {v : Value} {xs : List Float} {c : Char}

/-- The characters that numbers with commas between them are written in. -/
def isNumeric (c : Char) : Bool :=
  Numeral.isDigit c || c == '-' || c == '.' || c == ',' || Text.isBlank c

lemma numeric_chars {n : Numeral} (h : n.Spelled) : ∀ c ∈ n.chars, isNumeric c = true := by
  intro c hc
  rcases h.mem_chars hc with rfl | rfl | hd
  · rfl
  · rfl
  · simp [isNumeric, hd]

lemma numeric_blanks {bs : List Char} (h : Blanks bs) : ∀ c ∈ bs, isNumeric c = true := by
  intro c hc
  simp [isNumeric, Text.isBlank_iff.mpr (h c hc)]

lemma Components.numeric (h : Components w xs) : ∀ c ∈ w, isNumeric c = true := by
  induction h with
  | last hn hx => exact numeric_chars hn
  | more hn hx hb hb' hs ih =>
    simp only [List.forall_mem_append, List.forall_mem_cons]
    exact ⟨numeric_chars hn, numeric_blanks hb, rfl, numeric_blanks hb', ih⟩

/-- A text that is put together from numerals begins and ends with one. -/
structure Framed (w : List Char) : Prop where
  nonempty : w ≠ []
  head : ∀ c ∈ w.head?, Text.isBlank c = false
  last : ∀ c ∈ w.getLast?, Text.isBlank c = false

lemma framed_chars {n : Numeral} (h : n.Spelled) : Framed n.chars := by
  obtain ⟨d, ds, hd⟩ := h.exists_cons
  exact ⟨by simp [hd], fun c hc => h.not_blank c (List.mem_of_mem_head? hc),
    fun c hc => h.not_blank c (List.mem_of_getLast? hc)⟩

lemma Components.framed (h : Components w xs) : Framed w := by
  induction h with
  | last hn hx => exact framed_chars hn
  | @more n x bs bs' cs xs hn hx hb hb' hs ih =>
    obtain ⟨d, ds, hd⟩ := hn.exists_cons
    refine ⟨by simp [hd], fun c hc => (framed_chars hn).head c ?_, fun c hc => ih.last c ?_⟩
    · rw [hd] at hc ⊢
      exact hc
    · obtain ⟨e, es, he⟩ := List.exists_cons_of_ne_nil ih.nonempty
      rw [he] at hc ⊢
      simpa [List.getLast?_append, List.getLast?_cons] using hc

lemma Plain.numeric (h : Plain w v) : ∀ c ∈ w, isNumeric c = true := by
  cases h with
  | vector h htwo => exact h.numeric
  | float h hf => exact numeric_chars h
  | integer h hi => exact numeric_chars h

lemma Plain.framed (h : Plain w v) : Framed w := by
  cases h with
  | vector h htwo => exact h.framed
  | float h hf => exact framed_chars h
  | integer h hi => exact framed_chars h

end Spelling

namespace Line

variable {ended : Bool} {cs w bs rest : List Char} {v : Value}

/-! ### The end of a line -/

/-- What may end a line. -/
abbrev Ends (ended : Bool) (cs : List Char) : Prop := isEnd ended cs = true

lemma skipBlanks_append (hb : Blanks bs) (rest : List Char) :
    Text.skipBlanks (bs ++ rest) = Text.skipBlanks rest :=
  List.dropWhile_append_of_pos (blanks_iff.mp hb)

lemma ends_append (hb : Blanks bs) : Ends ended (bs ++ rest) ↔ Ends ended rest := by
  rw [Ends, isEnd, skipBlanks_append hb]
  rfl

/-- The blanks in front of a text. -/
lemma exists_blanks (cs : List Char) : ∃ bs rest, cs = bs ++ rest ∧ Blanks bs ∧
    ∀ c ∈ rest.head?, Text.isBlank c = false := by
  obtain ⟨bs, rest, h, hspan⟩ := Span.exists_split Text.isBlank cs
  exact ⟨bs, rest, h, blanks_iff.mpr hspan.inside, hspan.outside⟩

lemma skipBlanks_eq (hb : Blanks bs) (hrest : ∀ c ∈ rest.head?, Text.isBlank c = false) :
    Text.skipBlanks (bs ++ rest) = rest :=
  (Span.mk (blanks_iff.mp hb) hrest).drop

/-- What stands behind the blanks at the end of a line. -/
lemma Ends.cases (h : Ends ended rest) (hrest : ∀ c ∈ rest.head?, Text.isBlank c = false) :
    rest = [] ∨ (∃ text, rest = ';' :: text) ∨ (rest = ['\r'] ∧ ended = true) := by
  rw [Ends, isEnd, ← List.nil_append rest, skipBlanks_eq (by simp [Blanks]) hrest] at h
  split at h
  · exact .inl rfl
  · exact .inr (.inl ⟨_, rfl⟩)
  · exact .inr (.inr ⟨rfl, h⟩)
  · cases h

/-! ### Values -/

lemma isBare_iff {c : Char} : isBare c = true ↔ c ≠ ';' ∧ c ≠ '\r' := by
  simp [isBare]

lemma bare_span (h : Bare w rest) : Span isBare w rest := by
  refine ⟨fun c hc => isBare_iff.mpr (h.chars c hc), fun c hc => ?_⟩
  rcases h.longest c hc with rfl | rfl <;> rfl

lemma isBare_of_numeric {c : Char} (h : isNumeric c = true) : isBare c = true := by
  rw [isBare_iff]
  constructor <;> rintro rfl <;> cases h

lemma vector?_chars {n : Numeral} (h : n.Spelled) : vector? n.chars = none := by
  rw [vector?_eq, splitCommas_of_not_mem h.not_comma]
  rfl

lemma bareValue_plain (h : Plain w v) (hb : Blanks bs) : bareValue (w ++ bs) = v := by
  have htrim : Text.trimEndBy Text.isBlank (w ++ bs) = w :=
    Text.trimEndBy_append (blanks_iff.mp hb) h.framed.last
  rw [bareValue, htrim]
  cases h with
  | @vector _ xs h htwo =>
    have hread : vector? w = some xs :=
      vector?_eq_some.mpr ⟨[], w, [], by simp, by simp [Blanks], by simp [Blanks], h, htwo⟩
    simp only [hread]
  | @float n h hf =>
    have hread : Numeral.ofChars? n.chars = some n := Numeral.ofChars?_eq_some.mpr ⟨h, rfl⟩
    simp only [vector?_chars h, hread, hf, if_true]
  | @integer n i h hi =>
    have hread : Numeral.ofChars? n.chars = some n := Numeral.ofChars?_eq_some.mpr ⟨h, rfl⟩
    have hf := Numeral.fraction_of_word? hi
    simp [vector?_chars h, hread, hf, hi]

/-- What reads as a number or as numbers spells them. -/
lemma bareValue_cases (hhead : ∀ c ∈ cs.head?, Text.isBlank c = false) :
    (∃ w bs, cs = w ++ bs ∧ Blanks bs ∧ Plain w (bareValue cs)) ∨
      bareValue cs = .string (String.ofList (Text.trimEnd cs)) := by
  obtain ⟨w, bs, rfl, hb, hlast⟩ := Text.exists_trimEndBy Text.isBlank cs
  rw [bareValue, Text.trimEndBy_append hb hlast]
  split
  · rename_i xs hread
    obtain ⟨ds, w', ds', rfl, hd, hd', hw, htwo⟩ := vector?_eq_some.mp hread
    have hnil : ds = [] := by
      rcases ds with _ | ⟨d, ds⟩
      · rfl
      · have hblank := Text.isBlank_iff.mpr (hd d List.mem_cons_self)
        rw [hhead d rfl] at hblank
        cases hblank
    have hnil' : ds' = [] := by
      rcases List.eq_nil_or_concat ds' with rfl | ⟨es, d, rfl⟩
      · rfl
      · have hblank := Text.isBlank_iff.mpr (hd' d (by simp))
        rw [hlast d (by simp)] at hblank
        cases hblank
    subst hnil hnil'
    exact .inl ⟨w', bs, by simp, blanks_iff.mpr hb, .vector hw htwo⟩
  · rename_i n _ hread
    obtain ⟨hn, rfl⟩ := Numeral.ofChars?_eq_some.mp hread
    split
    · rename_i hf
      exact .inl ⟨n.chars, bs, rfl, blanks_iff.mpr hb, .float hn hf⟩
    · split
      · rename_i i hi
        exact .inl ⟨n.chars, bs, rfl, blanks_iff.mpr hb, .integer hn hi⟩
      · exact .inr rfl
  · exact .inr rfl

lemma quote_span {s : List Char} (h : '"' ∉ s) (rest : List Char) :
    Span (· != '"') s ('"' :: rest) :=
  ⟨fun c hc => by simpa using ne_of_mem_of_not_mem hc h, by simp⟩

lemma quoted?_eq_some {s : String} : quoted? ended cs = some s ↔
    ∃ text rest, cs = '"' :: (text ++ '"' :: rest) ∧ '"' ∉ text ∧ Ends ended rest ∧
      s = String.ofList text := by
  constructor
  · intro h
    rw [quoted?.eq_def] at h
    split at h
    · rename_i cs'
      obtain ⟨text, rest, rfl, hspan⟩ := Span.exists_split (· != '"') cs'
      rw [hspan.take, hspan.drop] at h
      split at h
      · rename_i rest'
        split at h
        · rename_i hend
          cases h
          exact ⟨text, rest', rfl, fun hmem => by simpa using hspan.inside _ hmem, hend, rfl⟩
        · cases h
      · cases h
    · cases h
  · rintro ⟨text, rest, rfl, htext, hend, rfl⟩
    have hspan := quote_span htext rest
    simp only [quoted?, hspan.take, hspan.drop]
    rw [if_pos hend]

/-- What is written like numbers is read along with the blanks behind it. -/
lemma value_of_numeric (hw : Framed w) (hnumeric : ∀ c ∈ w, isNumeric c = true)
    (hend : Ends ended rest) :
    ∃ bs, Blanks bs ∧ value ended (w ++ rest) = .ok (bareValue (w ++ bs)) := by
  obtain ⟨d, ds, hd⟩ := List.exists_cons_of_ne_nil hw.nonempty
  have hread : quoted? ended (w ++ rest) = none := by
    refine Option.eq_none_iff_forall_ne_some.mpr fun s hs => ?_
    obtain ⟨text, rest', heq, -⟩ := quoted?_eq_some.mp hs
    rw [hd, List.cons_append, List.cons.injEq] at heq
    have := hnumeric d (by simp [hd])
    rw [heq.1] at this
    cases this
  obtain ⟨bs, rest', rfl, hb, hhead⟩ := exists_blanks rest
  have hend' := (ends_append hb).mp hend
  have hspan : Span isBare (w ++ bs) rest' := by
    constructor
    case inside =>
      rw [List.forall_mem_append]
      exact ⟨fun c hc => isBare_of_numeric (hnumeric c hc),
        fun c hc => isBare_of_numeric (numeric_blanks hb c hc)⟩
    case outside =>
      rcases hend'.cases hhead with rfl | ⟨text, rfl⟩ | ⟨rfl, -⟩ <;> simp [isBare]
  have hne : w ++ bs ≠ [] := by simp [hd]
  refine ⟨bs, hb, ?_⟩
  rw [value, hread, ← List.append_assoc]
  simp only [hspan.take, hspan.drop]
  rw [if_pos hend']

lemma value_of_strict (h : Strict (Ends ended) cs v) : value ended cs = .ok v := by
  obtain ⟨w, rest, rfl, hw, hend⟩ := h
  cases hw with
  | @quoted s hs =>
    have hread : quoted? ended ('"' :: (s ++ ['"']) ++ rest) = some (String.ofList s) :=
      quoted?_eq_some.mpr ⟨s, rest, by simp, hs, hend, rfl⟩
    rw [value, hread]
  | plain hw =>
    obtain ⟨bs, hb, hread⟩ := value_of_numeric hw.framed hw.numeric hend
    rw [hread, bareValue_plain hw hb]

lemma quoted?_of_not_strict (h : ∀ v, ¬ Strict (Ends ended) cs v) : quoted? ended cs = none := by
  refine Option.eq_none_iff_forall_ne_some.mpr fun s hs => ?_
  obtain ⟨text, rest, rfl, htext, hend, rfl⟩ := quoted?_eq_some.mp hs
  exact h _ ⟨'"' :: (text ++ ['"']), rest, by simp, .quoted htext, hend⟩

/-- Where nothing is spelled exactly, the text in front of the comment is read as it is. -/
lemma value_eq_ok_of_not_strict (hhead : ∀ c ∈ cs.head?, Text.isBlank c = false)
    (h : ∀ v, ¬ Strict (Ends ended) cs v) : value ended cs = .ok v ↔ Loose (Ends ended) cs v := by
  have hloose {w rest : List Char} (heq : cs = w ++ rest) (hne : w ≠ []) (hend : Ends ended rest) :
      bareValue w = .string (String.ofList (Text.trimEnd w)) := by
    subst heq
    have hhead' : ∀ c ∈ w.head?, Text.isBlank c = false := fun c hc =>
      hhead c (List.mem_head?_append_of_mem_head? hc)
    refine (bareValue_cases hhead').resolve_left ?_
    rintro ⟨w', bs, rfl, hb, hplain⟩
    refine h _ ⟨w', bs ++ rest, by simp, .plain hplain, ?_⟩
    exact (ends_append hb).mpr hend
  obtain ⟨w, rest, rfl, hspan⟩ := Span.exists_split isBare cs
  have hread : value ended (w ++ rest) = .ok v ↔
      w ≠ [] ∧ Ends ended rest ∧ bareValue w = v := by
    rw [value, quoted?_of_not_strict h]
    simp only [hspan.take, hspan.drop]
    rcases w with _ | ⟨c, w⟩
    · simp
    · simp [ite_eq_iff]
  rw [hread]
  constructor
  · rintro ⟨hne, hend, rfl⟩
    refine ⟨w, rest, rfl, ⟨hne, fun c hc => isBare_iff.mp (hspan.inside c hc), fun c hc => ?_⟩,
      hend, hloose rfl hne hend⟩
    have := hspan.outside c hc
    simpa [isBare, imp_iff_not_or] using this
  · rintro ⟨w', rest', heq, hbare, hend, rfl⟩
    obtain ⟨rfl, rfl⟩ := hspan.unique (bare_span hbare) heq
    exact ⟨hbare.nonempty, hend, hloose rfl hbare.nonempty hend⟩

/-- **A value is read if and only if it is spelled.** -/
theorem value_eq_ok (hhead : ∀ c ∈ cs.head?, Text.isBlank c = false) :
    value ended cs = .ok v ↔ Denotes (Ends ended) cs v := by
  by_cases hstrict : ∃ v', Strict (Ends ended) cs v'
  · obtain ⟨v', hv'⟩ := hstrict
    rw [Denotes, value_of_strict hv']
    constructor
    · intro h
      cases h
      exact .inl hv'
    · rintro (h | ⟨hnone, -⟩)
      · rw [← value_of_strict hv', value_of_strict h]
      · exact absurd hv' (hnone v')
  · have hnone : ∀ v', ¬ Strict (Ends ended) cs v' := not_exists.mp hstrict
    rw [value_eq_ok_of_not_strict hhead hnone, Denotes]
    exact ⟨fun h => .inr ⟨hnone, h⟩, fun h => (h.resolve_left (hnone v)).2⟩

/-! ### Headers and entries -/

lemma isNameChar_iff {c : Char} : isNameChar c = true ↔ c ≠ ']' ∧ c ≠ '\r' := by
  simp [isNameChar]

lemma isKeyChar_iff {c : Char} : isKeyChar c = true ↔ KeyChar c := by
  simp [isKeyChar, KeyChar, or_assoc]

lemma not_blank_of_keyChar {c : Char} (h : KeyChar c) : Text.isBlank c = false := by
  by_contra hblank
  rcases Text.isBlank_iff.mp (by simpa using hblank) with rfl | rfl
  · exact absurd h (by simp [KeyChar])
  · exact absurd h (by simp [KeyChar])

lemma name_span {name : List Char} (h : ∀ c ∈ name, c ≠ ']' ∧ c ≠ '\r') (rest : List Char) :
    Span isNameChar name (']' :: rest) :=
  ⟨fun c hc => isNameChar_iff.mpr (h c hc), by simp [isNameChar]⟩

/-- **A header is read if and only if it is spelled.** -/
theorem header_eq_ok {l : Line} {name : String} :
    l.header = .ok name ↔ Header (Ends l.ended) l.chars name := by
  obtain ⟨chars, ended⟩ := l
  constructor
  · intro h
    obtain ⟨bs, rest, rfl, hb, hhead⟩ := exists_blanks chars
    rw [header, skipBlanks_eq hb hhead] at h
    split at h
    · rename_i cs
      obtain ⟨text, rest, rfl, hspan⟩ := Span.exists_split isNameChar cs
      simp only [hspan.take, hspan.drop] at h
      split at h
      · cases h
      · rename_i _ _ rest' hne
        split at h
        · rename_i hend
          cases h
          have hname : ∀ c ∈ text, c ≠ ']' ∧ c ≠ '\r' := fun c hc =>
            isNameChar_iff.mp (hspan.inside c hc)
          exact ⟨_, rest', by simp, .mk hb hne hname, hend⟩
        · cases h
      · cases h
    · cases h
  · rintro ⟨_, rest, rfl, @⟨bs, text, hb, hne, htext⟩, hend⟩
    have hspan := name_span htext rest
    have hskip : Text.skipBlanks (bs ++ '[' :: (text ++ [']']) ++ rest) =
        '[' :: (text ++ ']' :: rest) := by
      rw [List.append_assoc, skipBlanks_eq hb (by simp [Text.isBlank])]
      simp
    obtain ⟨c, cs, rfl⟩ := List.exists_cons_of_ne_nil hne
    simp only [header, hskip, hspan.take, hspan.drop]
    rw [if_pos hend]

lemma key_span {key bs rest : List Char} (h : ∀ c ∈ key, KeyChar c) (hb : Blanks bs) :
    Span isKeyChar key (bs ++ '=' :: rest) := by
  refine ⟨fun c hc => isKeyChar_iff.mpr (h c hc), fun c hc => ?_⟩
  rcases bs with _ | ⟨b, bs⟩
  · cases hc
    decide
  · cases hc
    rcases hb c List.mem_cons_self with rfl | rfl <;> decide

/-- **An entry is read if and only if it is spelled.** -/
theorem entry_eq_ok {l : Line} {key : String} {v : Value} :
    l.entry = .ok (key, v) ↔ Entry (Ends l.ended) l.chars key v := by
  obtain ⟨chars, ended⟩ := l
  constructor
  · intro h
    obtain ⟨bs, rest, rfl, hb, hhead⟩ := exists_blanks chars
    rw [entry, skipBlanks_eq hb hhead] at h
    obtain ⟨text, rest, rfl, hspan⟩ := Span.exists_split isKeyChar rest
    obtain ⟨bs', rest, rfl, hb', hhead'⟩ := exists_blanks rest
    simp only [hspan.take, hspan.drop, skipBlanks_eq hb' hhead'] at h
    split at h
    · cases h
    · rename_i hne
      split at h
      · rename_i rest'
        obtain ⟨bs'', rest, rfl, hb'', hhead''⟩ := exists_blanks rest'
        rw [skipBlanks_eq hb'' hhead''] at h
        split at h
        · rename_i hvalue
          cases h
          have hkey : ∀ c ∈ text, KeyChar c := fun c hc => isKeyChar_iff.mp (hspan.inside c hc)
          refine ⟨_, rest, by simp, .mk hb hne hkey hb' hb'', fun c hc => ?_,
            (value_eq_ok hhead'').mp hvalue⟩
          have := hhead'' c hc
          simpa [Text.isBlank] using this
        · cases h
      · cases h
  · rintro ⟨_, rest, rfl, @⟨bs, text, bs', bs'', hb, hne, htext, hb', hb''⟩, hhead, hvalue⟩
    have hhead' : ∀ c ∈ rest.head?, Text.isBlank c = false := fun c hc => by
      simpa [Text.isBlank] using hhead c hc
    have hspan : Span isKeyChar text (bs' ++ '=' :: (bs'' ++ rest)) := key_span htext hb'
    obtain ⟨c, cs, rfl⟩ := List.exists_cons_of_ne_nil hne
    have hskip : Text.skipBlanks (bs ++ ((c :: cs) ++ (bs' ++ '=' :: bs'')) ++ rest) =
        (c :: cs) ++ (bs' ++ '=' :: (bs'' ++ rest)) := by
      rw [List.append_assoc, skipBlanks_eq hb]
      · simp
      · intro d hd
        cases hd
        exact not_blank_of_keyChar (htext c List.mem_cons_self)
    have hsign : Text.skipBlanks (bs' ++ '=' :: (bs'' ++ rest)) = '=' :: (bs'' ++ rest) :=
      skipBlanks_eq hb' (by simp [Text.isBlank])
    simp only [entry, hskip, hspan.take, hspan.drop, hsign, skipBlanks_eq hb'' hhead',
      (value_eq_ok hhead').mpr hvalue]

end Line

end Barrage
