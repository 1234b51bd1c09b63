import Barrage.Proofs.Definition.Scannerless

/-!
How values are told apart.

What stands behind the sign of an entry has one of five forms, up to the blanks and the comment that
may follow anything, and the form decides what the value is. A number is a number to its end: where
anything else follows, or where a whole number does not fit in a word, the value is the text, and
the digits are all there. The grammar tries one rule after the other, and each of them reads what
has its form and was left by the rules before it.
-/

namespace Barrage

namespace Spelling

/-! ### The five forms -/

/-- Two or more numbers with commas between them. -/
def IsVector (r : List Char) (xs : List Float) : Prop :=
  ∃ w rest, r = w ++ rest ∧ Components w xs ∧ 2 ≤ xs.length ∧ Trailing rest

/-- A decimal. -/
def IsFloat (r : List Char) (x : Float) : Prop :=
  ∃ n : Numeral, ∃ rest, r = n.chars ++ rest ∧ n.Spelled ∧ n.fraction.isSome = true ∧
    Trailing rest ∧ x = n.toFloat

/-- A whole number that fits in a word. -/
def IsInteger (r : List Char) (i : Int) : Prop :=
  ∃ n : Numeral, ∃ rest, r = n.chars ++ rest ∧ n.Spelled ∧ n.fraction = none ∧
    Numeral.fitsWord n.toInt = true ∧ Trailing rest ∧ i = n.toInt

/-- A text in quotes, without quotes in it. -/
def IsQuoted (r : List Char) (s : String) : Prop :=
  ∃ text rest, r = '"' :: (text ++ '"' :: rest) ∧ '"' ∉ text ∧ Trailing rest ∧
    s = String.ofList text

/-- Everything up to a semicolon or a carriage return, but for the white space in front of it. -/
def IsBare (r : List Char) (s : String) : Prop :=
  ∃ w rest, r = w ++ rest ∧ Bare w rest ∧ s = String.ofList (Text.trimEnd w)

/-- None of the forms that are exact. -/
def IsInexact (r : List Char) : Prop :=
  (∀ xs, ¬ IsVector r xs) ∧ (∀ x, ¬ IsFloat r x) ∧ (∀ i, ¬ IsInteger r i) ∧ ∀ s, ¬ IsQuoted r s

/-- What the value `v` of the text `r` is, by the form of the text. -/
structure Classified (r : List Char) (v : Value) : Prop where
  vector : ∀ xs, v = .vector xs ↔ IsVector r xs
  float : ∀ x, v = .float x ↔ IsFloat r x
  integer : ∀ i, v = .integer i ↔ IsInteger r i
  string : ∀ s, v = .string s ↔ IsQuoted r s ∨ (IsInexact r ∧ IsBare r s)
  /-- A whole number that does not fit in a word is kept as it is written. -/
  overlong : ∀ (n : Numeral) (rest : List Char), r = n.chars ++ rest → n.Spelled →
    n.fraction = none → Numeral.fitsWord n.toInt = false → Trailing rest →
    v = .string (String.ofList n.chars)
  /-- Where a number stands in front and the value is none, it is kept with what follows. -/
  kept : ∀ (n : Numeral) (rest : List Char), r = n.chars ++ rest → n.Spelled →
    (∀ xs, ¬ IsVector r xs) → (∀ x, ¬ IsFloat r x) → (∀ i, ¬ IsInteger r i) →
    ∃ more, v = .string (String.ofList (n.chars ++ more))

variable {r : List Char} {v v' : Value} {xs : List Float} {x : Float} {i : Int} {s : String}

/-- The form of a text leaves no choice. -/
theorem Classified.unique (h : Classified r v) (h' : Classified r v') : v = v' := by
  cases v' with
  | vector xs => exact (h.vector xs).mpr ((h'.vector xs).mp rfl)
  | float x => exact (h.float x).mpr ((h'.float x).mp rfl)
  | integer i => exact (h.integer i).mpr ((h'.integer i).mp rfl)
  | string s => exact (h.string s).mpr ((h'.string s).mp rfl)

/-! ### Exact forms -/

lemma isVector_iff : IsVector r xs ↔ Strict Trailing r (.vector xs) := by
  constructor
  · rintro ⟨w, rest, heq, hw, htwo, hend⟩
    exact ⟨w, rest, heq, .plain (.vector hw htwo), hend⟩
  · rintro ⟨w, rest, heq, ⟨⟨hw, htwo⟩⟩, hend⟩
    exact ⟨w, rest, heq, hw, htwo, hend⟩

lemma isFloat_iff : IsFloat r x ↔ Strict Trailing r (.float x) := by
  constructor
  · rintro ⟨n, rest, heq, hn, hf, hend, rfl⟩
    exact ⟨n.chars, rest, heq, .plain (.float hn hf), hend⟩
  · rintro ⟨_, rest, heq, ⟨h⟩, hend⟩
    cases h with
    | @float n hn hf => exact ⟨n, rest, heq, hn, hf, hend, rfl⟩

lemma word?_eq_some {n : Numeral} : n.word? = some i ↔
    n.fraction = none ∧ Numeral.fitsWord n.toInt = true ∧ i = n.toInt := by
  rw [Numeral.word?, Option.ite_none_right_eq_some, Bool.and_eq_true, Option.isNone_iff_eq_none,
    Option.some.injEq, and_assoc, eq_comm (a := i)]

lemma isInteger_iff : IsInteger r i ↔ Strict Trailing r (.integer i) := by
  constructor
  · rintro ⟨n, rest, heq, hn, hf, hfits, hend, hi⟩
    exact ⟨n.chars, rest, heq, .plain (.integer hn (word?_eq_some.mpr ⟨hf, hfits, hi⟩)), hend⟩
  · rintro ⟨_, rest, heq, ⟨h⟩, hend⟩
    cases h with
    | @integer n _ hn hi =>
      obtain ⟨hf, hfits, hi⟩ := word?_eq_some.mp hi
      exact ⟨n, rest, heq, hn, hf, hfits, hend, hi⟩

lemma isQuoted_iff : IsQuoted r s ↔ Strict Trailing r (.string s) := by
  constructor
  · rintro ⟨text, rest, rfl, htext, hend, rfl⟩
    exact ⟨'"' :: (text ++ ['"']), rest, by simp, .quoted htext, hend⟩
  · rintro ⟨_, rest, rfl, h, hend⟩
    cases h with
    | plain h => cases h
    | @quoted text htext => exact ⟨text, rest, by simp, htext, hend, rfl⟩

lemma isInexact_iff : IsInexact r ↔ ∀ v, ¬ Strict Trailing r v := by
  simp only [IsInexact, isVector_iff, isFloat_iff, isInteger_iff, isQuoted_iff]
  constructor
  · rintro ⟨hvector, hfloat, hinteger, hstring⟩ v
    cases v with
    | vector xs => exact hvector xs
    | float x => exact hfloat x
    | integer i => exact hinteger i
    | string s => exact hstring s
  · exact fun h => ⟨fun _ => h _, fun _ => h _, fun _ => h _, fun _ => h _⟩

lemma denotes_trailing : Denotes Trailing r v ↔ Denotes (Line.Ends false) r v := by
  rw [Line.denotes_iff]
  rfl

/-- What is spelled has one value. -/
lemma Denotes.unique (hhead : ∀ c ∈ r.head?, Text.isBlank c = false)
    (h : Denotes Trailing r v) (h' : Denotes Trailing r v') : v = v' := by
  rw [denotes_trailing, ← Line.value_eq_ok hhead] at h h'
  exact Except.ok.inj (h.symm.trans h')

lemma IsBare.unique {s' : String} (h : IsBare r s) (h' : IsBare r s') : s = s' := by
  obtain ⟨w, rest, rfl, hbare, rfl⟩ := h
  obtain ⟨w', rest', heq, hbare', rfl⟩ := h'
  rw [((Line.bare_span hbare).unique (Line.bare_span hbare') heq).1]

/-! ### Numbers in texts -/

section

variable {n : Numeral} {bs w rest : List Char}

lemma not_space_of_spelled (h : n.Spelled) : ∀ c ∈ n.chars, Text.isSpace c = false := by
  intro c hc
  rcases h.mem_chars hc with rfl | rfl | hd
  · rfl
  · rfl
  · simp only [Numeral.isDigit, Bool.and_eq_true, decide_eq_true_eq, Char.le_def,
      UInt32.le_iff_toNat_le] at hd
    have hlow : 48 ≤ c.toNat := hd.1
    have hhigh : c.toNat ≤ 57 := hd.2
    simp only [Text.isSpace, Bool.or_eq_false_iff, Bool.and_eq_false_iff, decide_eq_false_iff_not,
      beq_eq_false_iff_ne]
    omega

/-- White space that is trimmed is behind the number. -/
lemma exists_trimEnd (h : n.Spelled) (cs : List Char) :
    ∃ more, Text.trimEnd (n.chars ++ cs) = n.chars ++ more := by
  obtain ⟨w, bs, rfl, hb, hlast⟩ := Text.exists_trimEndBy Text.isSpace cs
  refine ⟨w, ?_⟩
  rw [← List.append_assoc]
  refine Text.trimEndBy_append hb fun c hc => ?_
  rcases List.eq_nil_or_concat w with rfl | ⟨w, d, rfl⟩
  · rw [List.append_nil] at hc
    exact not_space_of_spelled h c (List.mem_of_getLast? hc)
  · exact hlast c (by simpa [List.getLast?_append] using hc)

lemma trimEnd_blanks (h : n.Spelled) (hb : Blanks bs) : Text.trimEnd (n.chars ++ bs) = n.chars := by
  refine Text.trimEndBy_append (fun c hc => ?_) fun c hc =>
    not_space_of_spelled h c (List.mem_of_getLast? hc)
  rcases hb c hc with rfl | rfl <;> rfl

/-- A number in front is in front of what a bare value leaves out. -/
lemma exists_of_bare (h : n.Spelled) {cs : List Char} (hbare : Bare w rest)
    (heq : n.chars ++ cs = w ++ rest) : ∃ more, w = n.chars ++ more := by
  rcases List.append_eq_append_iff.mp heq with ⟨more, rfl, -⟩ | ⟨more, hn, rfl⟩
  · exact ⟨more, rfl⟩
  · rcases more with _ | ⟨c, more⟩
    · exact ⟨[], by simpa using hn.symm⟩
    · have hc : Line.isBare c = true :=
        Line.isBare_of_numeric (numeric_chars h c (by simp [hn]))
      rcases hbare.longest c rfl with rfl | rfl <;> cases hc

/-- A whole number that fits in no word is left as it is. -/
lemma bareValue_overlong (h : n.Spelled) (hf : n.fraction = none)
    (hfits : Numeral.fitsWord n.toInt = false) (hb : Blanks bs) :
    Line.bareValue (n.chars ++ bs) = .string (String.ofList n.chars) := by
  have htrim : Text.trimEndBy Text.isBlank (n.chars ++ bs) = n.chars :=
    Text.trimEndBy_append (Line.blanks_iff.mp hb) (framed_chars h).last
  have hnumeral : Numeral.ofChars? n.chars = some n := Numeral.ofChars?_eq_some.mpr ⟨h, rfl⟩
  have hword : n.word? = none := by rw [Numeral.word?, hfits, Bool.and_false]; rfl
  rw [Line.bareValue, htrim]
  simp [Line.vector?_chars h, hnumeral, hf, hword, trimEnd_blanks h hb]

lemma denotes_overlong (h : n.Spelled) (hf : n.fraction = none)
    (hfits : Numeral.fitsWord n.toInt = false) (hend : Trailing rest)
    (hhead : ∀ c ∈ (n.chars ++ rest).head?, Text.isBlank c = false) :
    Denotes Trailing (n.chars ++ rest) (.string (String.ofList n.chars)) := by
  rw [denotes_trailing, ← Line.value_eq_ok hhead]
  obtain ⟨bs, hb, hread⟩ :=
    Line.value_of_numeric (framed_chars h) (numeric_chars h) (Line.ends_false.mpr hend)
  rw [hread, bareValue_overlong h hf hfits hb]

end

/-- A string keeps the number that it begins with. -/
lemma exists_kept {n : Numeral} {rest : List Char} (h : n.Spelled)
    (hs : IsQuoted (n.chars ++ rest) s ∨ IsBare (n.chars ++ rest) s) :
    ∃ more, s = String.ofList (n.chars ++ more) := by
  rcases hs with ⟨text, rest', heq, -⟩ | ⟨w, rest', heq, hbare, rfl⟩
  · -- a number does not begin with a quote
    obtain ⟨d, ds, hd⟩ := h.exists_cons
    have hnumeric := numeric_chars h d (by simp [hd])
    rw [hd, List.cons_append, List.cons.injEq] at heq
    rw [heq.1] at hnumeric
    cases hnumeric
  · obtain ⟨more, rfl⟩ := exists_of_bare h hbare heq
    obtain ⟨more, hmore⟩ := exists_trimEnd h more
    exact ⟨more, by rw [hmore]⟩

/-! ### What the form says -/

section

variable (hhead : ∀ c ∈ r.head?, Text.isBlank c = false) (h : Denotes Trailing r v)
include hhead h

lemma eq_iff_strict (hstring : ∀ s, v' ≠ .string s) : v = v' ↔ Strict Trailing r v' := by
  refine ⟨?_, fun h' => h.unique hhead (.inl h')⟩
  rintro rfl
  exact h.resolve_right fun ⟨_, w, rest, _, _, _, hv⟩ => hstring _ hv

lemma eq_string_iff : v = .string s ↔ IsQuoted r s ∨ (IsInexact r ∧ IsBare r s) := by
  rw [isQuoted_iff, isInexact_iff]
  constructor
  · rintro rfl
    refine h.imp_right fun ⟨hnone, w, rest, heq, hbare, _, hs⟩ => ⟨hnone, w, rest, heq, hbare, ?_⟩
    cases hs
    rfl
  · rintro (hs | ⟨hnone, hbare⟩)
    · exact h.unique hhead (.inl hs)
    · obtain ⟨w, rest, heq, hbare', _, rfl⟩ := (h.resolve_left (hnone v)).2
      rw [IsBare.unique hbare ⟨w, rest, heq, hbare', rfl⟩]

/-- The value of a text that is spelled is told by its form. -/
theorem classified_of_denotes : Classified r v := by
  have hvector (xs : List Float) : v = .vector xs ↔ IsVector r xs :=
    (eq_iff_strict hhead h (by simp)).trans isVector_iff.symm
  have hfloat (x : Float) : v = .float x ↔ IsFloat r x :=
    (eq_iff_strict hhead h (by simp)).trans isFloat_iff.symm
  have hinteger (i : Int) : v = .integer i ↔ IsInteger r i :=
    (eq_iff_strict hhead h (by simp)).trans isInteger_iff.symm
  have hstring (s : String) := eq_string_iff hhead h (s := s)
  constructor
  case vector => exact hvector
  case float => exact hfloat
  case integer => exact hinteger
  case string => exact hstring
  case overlong =>
    rintro n rest rfl hn hf hfits hend
    exact h.unique hhead (denotes_overlong hn hf hfits hend hhead)
  case kept =>
    rintro n rest rfl hn hnovector hnofloat hnointeger
    cases hv : v with
    | vector xs => exact absurd ((hvector xs).mp hv) (hnovector xs)
    | float x => exact absurd ((hfloat x).mp hv) (hnofloat x)
    | integer i => exact absurd ((hinteger i).mp hv) (hnointeger i)
    | string s =>
      obtain ⟨more, rfl⟩ := exists_kept hn (((hstring s).mp hv).imp_right And.right)
      exact ⟨more, rfl⟩

end

/-! ### Entries -/

/-- A line is an entry of a key and of a value that is told by the form of the text behind the sign
and the blanks there. -/
def Tells (l : List Char) (key : String) (v : Value) : Prop :=
  ∃ w r, l = w ++ r ∧ Keying w key ∧ (∀ c ∈ r.head?, c ≠ ' ' ∧ c ≠ '\t') ∧ Classified r v

lemma tells_of_entry {l : List Char} {key : String} (h : Entry Trailing l key v) :
    Tells l key v := by
  obtain ⟨w, r, heq, hkey, hhead, hvalue⟩ := h
  have hhead' : ∀ c ∈ r.head?, Text.isBlank c = false := fun c hc => by
    simpa [Text.isBlank] using hhead c hc
  exact ⟨w, r, heq, hkey, hhead, classified_of_denotes hhead' hvalue⟩

/-- The entries of lines, in order, with one line for each; the other lines are blank or headers. -/
inductive Rows : List (List Char) → List (String × Value) → Prop where
  | nil : Rows [] []
  | other {l : List Char} {ls : List (List Char)} {es : List (String × Value)}
      (h : Trailing l ∨ ∃ name, Header Trailing l name) (hs : Rows ls es) : Rows (l :: ls) es
  | entry {l : List Char} {ls : List (List Char)} {key : String} {v : Value}
      {es : List (String × Value)} (h : Tells l key v) (hs : Rows ls es) :
      Rows (l :: ls) ((key, v) :: es)

section

variable {ls ls' : List (List Char)} {es es' : List (String × Value)} {g : Group} {gs : List Group}

lemma Rows.append (h : Rows ls es) (h' : Rows ls' es') : Rows (ls ++ ls') (es ++ es') := by
  induction h with
  | nil => exact h'
  | other h hs ih => exact .other h ih
  | entry h hs ih => exact .entry h ih

lemma rows_of_entries (h : Entries ls es) : Rows ls es := by
  induction h with
  | nil => exact .nil
  | blank h hs ih => exact .other (.inl h) ih
  | entry h hs ih => exact .entry (tells_of_entry h) ih

lemma rows_of_part (h : Part g ls) : Rows ls g.entries := by
  obtain ⟨hheader, hs⟩ := h
  exact .other (.inr ⟨_, hheader⟩) (rows_of_entries hs)

lemma rows_of_parts {parts : List (List (List Char))} (h : List.Forall₂ Part gs parts) :
    Rows parts.flatten (gs.flatMap (·.entries)) := by
  induction h with
  | nil => exact .nil
  | cons hp hs ih =>
    rw [List.flatten_cons, List.flatMap_cons]
    exact (rows_of_part hp).append ih

lemma rows_of_spells (h : Spells ls gs) : Rows ls (gs.flatMap (·.entries)) := by
  obtain ⟨lead, parts, rfl, hlead, hparts⟩ := h
  exact (rows_of_entries (Line.entries_nil.mpr hlead)).append (rows_of_parts hparts)

end

end Spelling

namespace Grammar

open Spelling

/-! ### The choice between the rules -/

variable {cs r rest l nl after : List Char} {ended : Bool} {v : Value}

lemma exactRule_eq_some : (vector <|> number <|> quoted) cs = some (v, rest) ↔
    vector cs = some (v, rest) ∨ (vector cs = none ∧ number cs = some (v, rest)) ∨
      (vector cs = none ∧ number cs = none ∧ quoted cs = some (v, rest)) := by
  rw [orElse_apply, orElse_apply, Option.or_eq_some_iff, Option.or_eq_some_iff, and_or_left]

lemma exactRule_eq_none : (vector <|> number <|> quoted) cs = none ↔
    vector cs = none ∧ number cs = none ∧ quoted cs = none := by
  rw [orElse_apply, orElse_apply, Option.or_eq_none_iff, Option.or_eq_none_iff]

/-- The value tells which of the rules has read it. -/
lemma exactRule_cases (h : (vector <|> number <|> quoted) cs = some (v, rest)) :
    (vector cs = some (v, rest) ∧ ∃ xs, v = .vector xs) ∨
      (vector cs = none ∧ number cs = some (v, rest) ∧
        ((∃ x, v = .float x) ∨ ∃ i, v = .integer i)) ∨
      (vector cs = none ∧ number cs = none ∧ quoted cs = some (v, rest) ∧ ∃ s, v = .string s) := by
  rcases exactRule_eq_some.mp h with h | ⟨hvector, h⟩ | ⟨hvector, hnumber, h⟩
  · obtain ⟨x, y, zs, -, -, -, -, -, -, rfl⟩ := vector_eq_some.mp h
    exact .inl ⟨h, _, rfl⟩
  · refine .inr (.inl ⟨hvector, h, ?_⟩)
    rw [number, orElse_apply, Option.or_eq_some_iff] at h
    simp only [bind_eq_some, pure_eq_some] at h
    rcases h with ⟨x, -, -, -, -, -, rfl, -⟩ | ⟨-, i, -, -, -, -, -, rfl, -⟩
    · exact .inl ⟨x, rfl⟩
    · exact .inr ⟨i, rfl⟩
  · obtain ⟨s, -, -, -, -, rfl⟩ := quoted_eq_some.mp h
    exact .inr (.inr ⟨hvector, hnumber, h, _, rfl⟩)

/-- Which rule reads the value that stands in front of `cs`, where `r` is what stands in the line. A
rule is tried where none before it matches. -/
structure Chosen (cs r : List Char) : Prop where
  vector : ∀ xs, (∃ rest, Grammar.vector cs = some (.vector xs, rest)) ↔ IsVector r xs
  float : ∀ x, (Grammar.vector cs = none ∧ ∃ rest, number cs = some (.float x, rest)) ↔ IsFloat r x
  integer : ∀ i, (Grammar.vector cs = none ∧ ∃ rest, number cs = some (.integer i, rest)) ↔
    IsInteger r i
  quoted : ∀ s, (Grammar.vector cs = none ∧ number cs = none ∧
    ∃ rest, Grammar.quoted cs = some (.string s, rest)) ↔ IsQuoted r s
  bare : Grammar.vector cs = none ∧ number cs = none ∧ Grammar.quoted cs = none ↔ IsInexact r

lemma exists_exactRule (hf : Feed ended after nl) (hn : '\n' ∉ r)
    (hhead : ∀ c ∈ (Line.body ended r).head?, Text.isBlank c = false) :
    (∃ rest, (vector <|> number <|> quoted) (r ++ nl) = some (v, rest)) ↔
      Strict Trailing (Line.body ended r) v := by
  constructor
  · rintro ⟨rest, h⟩
    exact Line.strict_iff.mp (strict_of_rule hf hn h).1
  · intro h
    have hrule := rule_of_strict hf hn (Line.strict_iff.mpr h)
    obtain ⟨⟨v', rest⟩, hread⟩ := Option.ne_none_iff_exists'.mp hrule
    have h' := Line.strict_iff.mp (strict_of_rule hf hn hread).1
    obtain rfl : v = v' := Denotes.unique hhead (.inl h) (.inl h')
    exact ⟨rest, hread⟩

/-- A rule is chosen where no rule before it reads the line to its end. -/
lemma chosen (hf : Feed ended after nl) (hn : '\n' ∉ r)
    (hhead : ∀ c ∈ (Line.body ended r).head?, Text.isBlank c = false) :
    Chosen (r ++ nl) (Line.body ended r) := by
  have hrule (v : Value) := exists_exactRule (v := v) hf hn hhead
  have hnumber (v : Value) (hvector : ∀ xs, v ≠ .vector xs) (hstring : ∀ s, v ≠ .string s) :
      (vector (r ++ nl) = none ∧ ∃ rest, number (r ++ nl) = some (v, rest)) ↔
        Strict Trailing (Line.body ended r) v := by
    rw [← hrule, ← exists_and_left]
    refine exists_congr fun rest => ⟨fun h => exactRule_eq_some.mpr (.inr (.inl h)), fun h => ?_⟩
    rcases exactRule_cases h with ⟨-, xs, hxs⟩ | ⟨hnone, h, -⟩ | ⟨-, -, -, s, hs⟩
    · exact absurd hxs (hvector xs)
    · exact ⟨hnone, h⟩
    · exact absurd hs (hstring s)
  constructor
  case vector =>
    intro xs
    rw [isVector_iff, ← hrule]
    refine exists_congr fun rest => ⟨fun h => exactRule_eq_some.mpr (.inl h), fun h => ?_⟩
    rcases exactRule_cases h with ⟨h, -⟩ | ⟨-, -, ⟨_, ⟨⟩⟩ | ⟨_, ⟨⟩⟩⟩ | ⟨-, -, -, _, ⟨⟩⟩
    exact h
  case float => exact fun x => (hnumber (.float x) nofun nofun).trans isFloat_iff.symm
  case integer => exact fun i => (hnumber (.integer i) nofun nofun).trans isInteger_iff.symm
  case quoted =>
    intro s
    rw [isQuoted_iff, ← hrule, ← exists_and_left, ← exists_and_left]
    refine exists_congr fun rest => ⟨fun h => exactRule_eq_some.mpr (.inr (.inr h)), fun h => ?_⟩
    rcases exactRule_cases h with ⟨-, _, ⟨⟩⟩ | ⟨-, -, ⟨_, ⟨⟩⟩ | ⟨_, ⟨⟩⟩⟩ | ⟨hvector, hnumber, h, -⟩
    exact ⟨hvector, hnumber, h⟩
  case bare =>
    rw [isInexact_iff, ← exactRule_eq_none]
    constructor
    · intro h v hv
      obtain ⟨rest, hread⟩ := (hrule v).mpr hv
      rw [h] at hread
      cases hread
    · intro h
      exact Option.eq_none_iff_forall_ne_some.mpr fun ⟨v, rest⟩ hread =>
        h v ((hrule v).mp ⟨rest, hread⟩)

/-- **The rule for an entry chooses the rule for its value by the form of the line**, whatever lines
come behind it. -/
theorem entry_chosen (hf : Feed ended after nl) (hn : '\n' ∉ l) {k : String}
    (h : entry (l ++ nl) = some ((k, v), rest)) :
    rest = after ∧ ∃ w r, l = w ++ r ∧ Keying w k ∧ Chosen (r ++ nl) (Line.body ended r) ∧
      Classified (Line.body ended r) v := by
  obtain ⟨⟨w, r, rfl, hkey, hhead, hvalue⟩, hrest⟩ := (entry_eq_some hf hn).mp h
  have hhead' : ∀ c ∈ (Line.body ended r).head?, Text.isBlank c = false := by
    intro c hc
    rcases Line.head?_body ended r with hsame | ⟨hnil, -⟩
    · rw [hsame] at hc
      simpa [Text.isBlank] using hhead c hc
    · rw [hnil] at hc
      cases hc
  exact ⟨hrest, w, r, rfl, hkey, chosen hf (fun hr => hn (List.mem_append_right w hr)) hhead',
    classified_of_denotes hhead' (Line.denotes_iff.mp hvalue)⟩

end Grammar

namespace Definition

open Spelling

/-- **Values are told apart by their form**, in every text that is read. -/
theorem parse_classified {text : String} {d : Definition} (h : parse text = .ok d) :
    Rows (lines text.toList) (d.groups.flatMap (·.entries)) := by
  obtain ⟨es, hes⟩ := parse_eq_ok.mp h
  have hspells : Spells (lines text.toList) d.groups := by
    rw [← Line.map_body_ofText]
    exact Line.outlined_false.mp ⟨es, Line.outline_eq_some.mp hes⟩
  exact rows_of_spells hspells

/-- Two numbers, a number, a number in quotes, one with something behind it and one that fits in no
word. -/
theorem parse_classified_numbers :
    let text := "[a]\nv = -1, 0.5 ; two\ni = 3\nq = \"4;\"\nb = 5x ; five\nw = 9223372036854775808"
    let es : List (String × Value) :=
      [("v", .vector [Float.ofInt (-1), Numeral.toFloat ⟨false, ['0'], some ['5']⟩]),
        ("i", .integer 3), ("q", .string "4;"), ("b", .string "5x"),
        ("w", .string "9223372036854775808")]
    parse text = .ok ⟨[⟨"a", es⟩]⟩ ∧ Rows (lines text.toList) es := by
  intro text es
  have hlines : Line.ofText text.toList = [⟨"[a]".toList, true⟩,
      ⟨"v = -1, 0.5 ; two".toList, true⟩, ⟨"i = 3".toList, true⟩, ⟨"q = \"4;\"".toList, true⟩,
      ⟨"b = 5x ; five".toList, true⟩, ⟨"w = 9223372036854775808".toList, false⟩] := by
    have htext : text.toList = "[a]".toList ++ '\n' :: ("v = -1, 0.5 ; two".toList ++ '\n' ::
        ("i = 3".toList ++ '\n' :: ("q = \"4;\"".toList ++ '\n' :: ("b = 5x ; five".toList ++
          '\n' :: "w = 9223372036854775808".toList)))) := by simp [text]
    rw [htext, Line.ofText_append (by decide), Line.ofText_append (by decide),
      Line.ofText_append (by decide), Line.ofText_append (by decide),
      Line.ofText_append (by decide), Line.ofText_of_not_mem (by decide)]
  have hheader : Line.content? false ⟨"[a]".toList, true⟩ = some (.header "a") := rfl
  have hvector : Line.content? true ⟨"v = -1, 0.5 ; two".toList, true⟩ = some (.entry "v"
      (.vector [Float.ofInt (-1), Numeral.toFloat ⟨false, ['0'], some ['5']⟩])) := rfl
  have hnil : Blanks [] := List.forall_mem_nil _
  have hinteger : Line.content? true ⟨"i = 3".toList, true⟩ = some (.entry "i" (.integer 3)) := by
    have hread : Line.content? true ⟨"i = 3".toList, true⟩ =
        some (.entry "i" (Line.bareValue ['3'])) := rfl
    have hplain : Plain ['3'] (.integer 3) :=
      .integer (n := ⟨false, ['3'], none⟩) ⟨by decide, List.all_eq_true.mp rfl⟩ (by decide)
    have hvalue := Line.bareValue_plain hplain hnil
    rw [List.append_nil] at hvalue
    rw [hread, hvalue]
  have hquoted : Line.content? true ⟨"q = \"4;\"".toList, true⟩ =
      some (.entry "q" (.string "4;")) := rfl
  have hbare : Line.content? true ⟨"b = 5x ; five".toList, true⟩ =
      some (.entry "b" (.string "5x")) := rfl
  have hword : Line.content? true ⟨"w = 9223372036854775808".toList, false⟩ =
      some (.entry "w" (.string "9223372036854775808")) := by
    have hread : Line.content? true ⟨"w = 9223372036854775808".toList, false⟩ =
        some (.entry "w" (Line.bareValue "9223372036854775808".toList)) := rfl
    have hspelled : Numeral.Spelled ⟨false, "9223372036854775808".toList, none⟩ :=
      ⟨by decide, List.all_eq_true.mp rfl⟩
    have hchars : Numeral.chars ⟨false, "9223372036854775808".toList, none⟩ =
        "9223372036854775808".toList := by decide
    have hvalue := bareValue_overlong hspelled rfl (by decide) hnil
    rw [List.append_nil, hchars, String.ofList_toList] at hvalue
    rw [hread, hvalue]
  have hparse : parse text = .ok ⟨[⟨"a", es⟩]⟩ := by
    simp only [parse, hlines, Line.contents, hheader, hvector, hinteger, hquoted, hbare, hword,
      Bool.or_true, Bool.or_false]
    rfl
  have hrows := parse_classified hparse
  exact ⟨hparse, by simpa using hrows⟩

end Definition

end Barrage
