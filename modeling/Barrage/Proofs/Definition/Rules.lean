import Barrage.Definition.Grammar
import Barrage.Proofs.Definition.Outline

/-!
What the rules of the grammar read.

A rule that is for one line stops at its end: it reads what is spelled in the line, and then the
line feed. For each of them it is told what it reads in front of the rest of a text, and when it
does not match.
-/

namespace Barrage.Grammar

open Spelling

/-! ### Operators -/

section

variable {α β : Type} {r r' : Rule α} {a : α} {cs rest w : List Char} {p : Char → Bool} {u : Unit}

lemma bind_eq_some {f : α → Rule β} {b : β} : (r >>= f) cs = some (b, rest) ↔
    ∃ a cs', r cs = some (a, cs') ∧ f a cs' = some (b, rest) := by
  show (r cs).bind (fun x => f x.1 x.2) = _ ↔ _
  simp [Option.bind_eq_some_iff]

lemma bind_of_eq_some {f : α → Rule β} (h : r cs = some (a, rest)) : (r >>= f) cs = f a rest := by
  show (r cs).bind (fun x => f x.1 x.2) = _
  rw [h]
  rfl

lemma bind_of_eq_none {f : α → Rule β} (h : r cs = none) : (r >>= f) cs = none := by
  show (r cs).bind (fun x => f x.1 x.2) = _
  rw [h]
  rfl

lemma pure_eq_some {b : α} : (pure b : Rule α) cs = some (a, rest) ↔ a = b ∧ rest = cs := by
  show some (b, cs) = _ ↔ _
  simp [eq_comm]

lemma map_eq_some {f : α → β} {b : β} :
    (f <$> r) cs = some (b, rest) ↔ ∃ a, r cs = some (a, rest) ∧ b = f a := by
  show (r cs).bind (fun x => some (f x.1, x.2)) = _ ↔ _
  rcases r cs with _ | ⟨a, rest'⟩
  · simp
  · simp [eq_comm, and_comm]

lemma orElse_apply (r r' : Rule α) (cs : List Char) : (r <|> r') cs = (r cs).or (r' cs) := by
  show (r cs).orElse (fun _ => r' cs) = _
  cases r cs <;> rfl

lemma char_eq_some {d : Char} : char d cs = some (u, rest) ↔ cs = d :: rest := by
  rcases cs with _ | ⟨c, cs⟩
  · simp [char]
  · simp [char]

lemma char_eq_none {d : Char} : char d cs = none ↔ cs.head? ≠ some d := by
  rcases cs with _ | ⟨c, cs⟩
  · simp [char]
  · simp [char]

lemma star_eq_some : star p cs = some (w, rest) ↔ cs = w ++ rest ∧ Span p w rest := by
  constructor
  · intro h
    obtain ⟨w', rest', rfl, hspan⟩ := Span.exists_split p cs
    rw [star, hspan.take, hspan.drop] at h
    cases h
    exact ⟨rfl, hspan⟩
  · rintro ⟨rfl, hspan⟩
    rw [star, hspan.take, hspan.drop]

lemma plus_eq_some : plus p cs = some (w, rest) ↔ cs = w ++ rest ∧ w ≠ [] ∧ Span p w rest := by
  rw [plus]
  constructor
  · intro h
    split at h
    · cases h
    · rename_i hne
      obtain ⟨rfl, hspan⟩ := star_eq_some.mp h
      rw [hspan.take] at hne
      exact ⟨rfl, hne, hspan⟩
  · rintro ⟨rfl, hne, hspan⟩
    rw [hspan.take, if_neg hne]
    exact star_eq_some.mpr ⟨rfl, hspan⟩

lemma plus_eq_none : plus p cs = none ↔ ∀ c ∈ cs.head?, p c = false := by
  rw [plus]
  rcases cs with _ | ⟨c, cs⟩
  · simp
  · rcases hc : p c with _ | _
    · simp [hc]
    · simp [hc, star]

lemma opt_eq_some {o : Option α} : opt r cs = some (o, rest) ↔
    (∃ a, o = some a ∧ r cs = some (a, rest)) ∨ (o = none ∧ rest = cs ∧ r cs = none) := by
  have hopt : opt r cs = match r cs with
      | some (a, rest) => some (some a, rest)
      | none => some (none, cs) := by
    rw [opt, orElse_apply]
    show ((r cs).bind fun x => some (some x.1, x.2)).or (some (none, cs)) = _
    cases r cs <;> rfl
  rw [hopt]
  rcases r cs with _ | ⟨a, rest'⟩
  · simp [eq_comm]
  · simp [eq_comm]

lemma ahead_eq_some :
    ahead r cs = some (u, rest) ↔ rest = cs ∧ ∃ a rest', r cs = some (a, rest') := by
  rw [ahead]
  rcases r cs with _ | ⟨a, rest'⟩
  · simp
  · simp [eq_comm]

lemma eof_eq_some : eof cs = some (u, rest) ↔ cs = [] ∧ rest = [] := by
  rw [eof]
  split
  · rename_i h
    simp [h, eq_comm]
  · rename_i h
    simp [h]

lemma many_of_eq_none (h : r cs = none) : many r cs = some ([], cs) := by
  rw [many]
  split
  · rfl
  · rename_i heq
    rw [h] at heq
    cases heq

lemma many_of_eq_some (h : r cs = some (a, rest)) (hlt : rest.length < cs.length) :
    many r cs = (many r rest).map fun x => (a :: x.1, x.2) := by
  rw [many]
  split
  · rename_i heq
    rw [h] at heq
    cases heq
  · rename_i heq
    rw [h] at heq
    cases heq
    exact dif_pos hlt

lemma many_cons {as : List α} : many r cs = some (a :: as, rest) ↔
    ∃ cs', r cs = some (a, cs') ∧ cs'.length < cs.length ∧ many r cs' = some (as, rest) := by
  constructor
  · intro h
    rw [many] at h
    split at h
    · cases h
    · rename_i a' cs' hr
      split at h
      · rename_i hlt
        obtain ⟨⟨as', rest'⟩, hrest, heq⟩ := Option.map_eq_some_iff.mp h
        cases heq
        exact ⟨cs', hr, hlt, hrest⟩
      · cases h
  · rintro ⟨cs', hr, hlt, hrest⟩
    rw [many_of_eq_some hr hlt, hrest]
    rfl

lemma rest_of_many_nil (h : many r cs = some ([], rest)) : rest = cs := by
  rw [many] at h
  split at h
  · cases h
    rfl
  · split at h
    · obtain ⟨_, -, heq⟩ := Option.map_eq_some_iff.mp h
      cases heq
    · cases h
      rfl

end

/-! ### Numbers -/

section

variable {cs rest : List Char} {n : Numeral}

/-- No digit follows. -/
def NoDigit (rest : List Char) : Prop := ∀ c ∈ rest.head?, Numeral.isDigit c = false

lemma whole_eq_some : whole cs = some (n, rest) ↔
    n.Spelled ∧ n.fraction = none ∧ cs = n.chars ++ rest ∧ NoDigit rest := by
  simp only [whole, bind_eq_some, opt_eq_some, char_eq_some, plus_eq_some, pure_eq_some]
  constructor
  · rintro ⟨o, cs', hminus, ds, _, ⟨rfl, hne, hspan⟩, rfl, rfl⟩
    refine ⟨⟨hne, by simpa using hspan.inside⟩, rfl, ?_, hspan.outside⟩
    rcases hminus with ⟨_, rfl, rfl⟩ | ⟨rfl, rfl, -⟩ <;> simp [Numeral.chars, Numeral.unsigned]
  · rintro ⟨hn, hf, rfl, hrest⟩
    obtain ⟨negative, ds, _⟩ := n
    obtain rfl : _ = none := hf
    have hspan : Span Numeral.isDigit ds rest :=
      ⟨fun c hc => hn.digits c (List.mem_append_left _ hc), hrest⟩
    cases negative with
    | true => exact ⟨some (), ds ++ rest, .inl ⟨(), rfl, by simp [Numeral.chars, Numeral.unsigned]⟩,
        ds, rest, ⟨rfl, hn.whole, hspan⟩, rfl, rfl⟩
    | false =>
      refine ⟨none, ds ++ rest, .inr ⟨rfl, by simp [Numeral.chars, Numeral.unsigned], ?_⟩,
        ds, rest, ⟨rfl, hn.whole, hspan⟩, rfl, rfl⟩
      obtain ⟨d, ds, rfl⟩ := List.exists_cons_of_ne_nil hn.whole
      rw [char_eq_none]
      rintro ⟨⟩
      exact absurd (hspan.inside '-' List.mem_cons_self) (by decide)

lemma float_eq_some {x : Float} : float cs = some (x, rest) ↔
    ∃ n : Numeral, n.Spelled ∧ n.fraction.isSome = true ∧ cs = n.chars ++ rest ∧ NoDigit rest ∧
      x = n.toFloat := by
  simp only [float, bind_eq_some, whole_eq_some, opt_eq_some, char_eq_some, plus_eq_some,
    pure_eq_some]
  constructor
  · rintro ⟨⟨negative, ds, _⟩, _, ⟨hn, rfl, rfl, -⟩, _, cs', rfl, o, _, ho, rfl, rfl⟩
    have hds : ∀ c ∈ ds, Numeral.isDigit c = true := by simpa using hn.digits
    rcases ho with ⟨fs, rfl, rfl, hne, hspan⟩ | ⟨rfl, rfl, hno⟩
    · refine ⟨⟨negative, ds, some fs⟩, ⟨hn.whole, ?_⟩, rfl, ?_, hspan.outside, rfl⟩
      · exact List.forall_mem_append.mpr ⟨hds, hspan.inside⟩
      · cases negative <;> simp [Numeral.chars, Numeral.unsigned]
    · refine ⟨⟨negative, ds, some []⟩, ⟨hn.whole, by simpa using hds⟩, rfl, ?_, ?_, rfl⟩
      · cases negative <;> simp [Numeral.chars, Numeral.unsigned]
      · exact plus_eq_none.mp hno
  · rintro ⟨⟨negative, ds, fraction⟩, hn, hf, rfl, hrest, rfl⟩
    obtain ⟨fs, rfl⟩ := Option.isSome_iff_exists.mp hf
    have hds : ∀ c ∈ ds, Numeral.isDigit c = true := fun c hc =>
      hn.digits c (List.mem_append_left _ hc)
    have hspan : Span Numeral.isDigit fs rest :=
      ⟨fun c hc => hn.digits c (List.mem_append_right _ hc), hrest⟩
    have hdigits : ∃ o, ((∃ w, o = some w ∧ fs ++ rest = w ++ rest ∧ w ≠ [] ∧
        Span Numeral.isDigit w rest) ∨ (o = none ∧ rest = fs ++ rest ∧
        plus Numeral.isDigit (fs ++ rest) = none)) ∧ o.getD [] = fs := by
      rcases fs with _ | ⟨f, fs⟩
      · exact ⟨none, .inr ⟨rfl, rfl, plus_eq_none.mpr hrest⟩, rfl⟩
      · exact ⟨some (f :: fs), .inl ⟨_, rfl, rfl, by simp, hspan⟩, rfl⟩
    obtain ⟨o, ho, hfs⟩ := hdigits
    refine ⟨⟨negative, ds, none⟩, '.' :: (fs ++ rest),
      ⟨⟨hn.whole, by simpa using hds⟩, rfl, ?_, ?_⟩,
      (), fs ++ rest, rfl, o, rest, ho, by rw [hfs], rfl⟩
    · cases negative <;> simp [Numeral.chars, Numeral.unsigned]
    · simp [NoDigit, Numeral.isDigit_point]

lemma integer_eq_some {i : Int} : integer cs = some (i, rest) ↔
    ∃ n : Numeral, n.Spelled ∧ n.word? = some i ∧ cs = n.chars ++ rest ∧ NoDigit rest := by
  simp only [integer, bind_eq_some, whole_eq_some]
  constructor
  · rintro ⟨n, cs', ⟨hn, -, rfl, hrest⟩, h⟩
    rcases hi : n.word? with _ | i'
    · rw [hi] at h
      cases h
    · rw [hi] at h
      obtain ⟨rfl, rfl⟩ := pure_eq_some.mp h
      exact ⟨n, hn, hi, rfl, hrest⟩
  · rintro ⟨n, hn, hi, rfl, hrest⟩
    refine ⟨n, rest, ⟨hn, Numeral.fraction_of_word? hi, rfl, hrest⟩, ?_⟩
    rw [hi]
    exact pure_eq_some.mpr ⟨rfl, rfl⟩

end

/-! ### The ends of lines -/

/-- What stands behind the characters of a line: a line feed and the rest of the text, or nothing.
-/
inductive Feed : Bool → List Char → List Char → Prop where
  | line (after : List Char) : Feed true after ('\n' :: after)
  | last : Feed false [] []

section

variable {ended : Bool} {after nl cs rest r w : List Char} {u : Unit}

lemma Feed.head (hf : Feed ended after nl) : ∀ c ∈ nl.head?, c = '\n' := by
  cases hf <;> simp

/-- A class of characters without the line feed ends in the line. -/
lemma Feed.span (hf : Feed ended after nl) {p q : Char → Bool} (h : Span p w rest)
    (hn : '\n' ∉ w) (hq : q '\n' = false) (hpq : ∀ c, c ≠ '\n' → q c = p c) :
    Span q w (rest ++ nl) := by
  refine ⟨fun c hc => ?_, fun c hc => ?_⟩
  · rw [hpq c (ne_of_mem_of_not_mem hc hn)]
    exact h.inside c hc
  · rcases rest with _ | ⟨d, rest⟩
    · rw [hf.head c hc, hq]
    · by_cases hfeed : c = '\n'
      · rw [hfeed, hq]
      · rw [hpq c hfeed]
        exact h.outside c hc

lemma Feed.eq_cons (hf : Feed ended after nl) {c : Char} (hc : c ≠ '\n')
    (h : r ++ nl = c :: rest) : ∃ r', r = c :: r' ∧ rest = r' ++ nl := by
  rcases r with _ | ⟨d, r⟩
  · exact absurd (hf.head c (by rw [← List.nil_append nl, h]; rfl)) hc
  · cases h
    exact ⟨r, rfl, rfl⟩

lemma Feed.eq_feed (hf : Feed ended after nl) (hn : '\n' ∉ r) (h : r ++ nl = '\n' :: rest) :
    r = [] ∧ ended = true ∧ rest = after := by
  rcases r with _ | ⟨d, r⟩
  · cases hf with
    | line => exact ⟨rfl, rfl, (List.cons.inj h).2.symm⟩
    | last => cases h
  · cases h
    exact absurd List.mem_cons_self hn

lemma ws_eq_some : ws cs = some (u, rest) ↔
    ∃ bs, cs = bs ++ rest ∧ Blanks bs ∧ ∀ c ∈ rest.head?, Text.isBlank c = false := by
  simp only [ws, bind_eq_some, star_eq_some, pure_eq_some, Line.blanks_iff]
  constructor
  · rintro ⟨bs, rest', ⟨rfl, hspan⟩, -, rfl⟩
    exact ⟨bs, rfl, hspan.inside, hspan.outside⟩
  · rintro ⟨bs, rfl, hb, hrest⟩
    exact ⟨bs, rest, ⟨rfl, hb, hrest⟩, trivial, rfl⟩

/-- What is left of a line behind spaces, tabs and a comment. -/
def gap (cs : List Char) : List Char :=
  match Text.skipBlanks cs with
  | ';' :: _ => []
  | r => r

lemma not_mem_gap (hn : '\n' ∉ cs) : '\n' ∉ gap cs := by
  have hskip : '\n' ∉ Text.skipBlanks cs := fun h => hn ((List.dropWhile_suffix _).subset h)
  rw [gap]
  split
  · simp
  · exact hskip

lemma ends_iff_gap : Line.Ends ended cs ↔ gap cs = [] ∨ (gap cs = ['\r'] ∧ ended = true) := by
  rw [Line.Ends, Line.isEnd, gap]
  generalize Text.skipBlanks cs = r
  split
  · simp
  · simp
  · simp
  · rename_i hnil hcomment hreturn
    split
    · exact absurd rfl (hcomment _)
    · simpa using ⟨hnil, fun h => absurd h hreturn⟩

/-- A text without a line feed is up to the end of the line. -/
lemma Feed.span_all (hf : Feed ended after nl) (hn : '\n' ∉ w) : Span (· != '\n') w nl := by
  refine ⟨fun c hc => by simpa using ne_of_mem_of_not_mem hc hn, fun c hc => ?_⟩
  rw [hf.head c hc]
  rfl

lemma comment_eq_some (hf : Feed ended after nl) (hn : '\n' ∉ r) :
    comment (r ++ nl) = some (u, rest) ↔ (∃ text, r = ';' :: text) ∧ rest = nl := by
  simp only [comment, bind_eq_some, char_eq_some, star_eq_some, pure_eq_some]
  constructor
  · rintro ⟨_, cs', h, text, _, ⟨rfl, hspan⟩, -, rfl⟩
    obtain ⟨r', rfl, h'⟩ := hf.eq_cons (by decide) h
    have hspan' := hf.span_all (w := r') fun h => hn (List.mem_cons_of_mem _ h)
    exact ⟨⟨r', rfl⟩, (hspan.unique hspan' h').2⟩
  · rintro ⟨⟨text, rfl⟩, rfl⟩
    have hspan := hf.span_all (w := text) fun h => hn (List.mem_cons_of_mem _ h)
    exact ⟨(), text ++ rest, rfl, text, rest, ⟨rfl, hspan⟩, trivial, rfl⟩

lemma ws_apply (hf : Feed ended after nl) (cs : List Char) :
    ws (cs ++ nl) = some ((), Text.skipBlanks cs ++ nl) := by
  obtain ⟨bs, r, rfl, hb, hhead⟩ := Line.exists_blanks cs
  rw [Line.skipBlanks_eq hb hhead]
  refine ws_eq_some.mpr ⟨bs, by simp, hb, fun c hc => ?_⟩
  rcases r with _ | ⟨d, r⟩
  · rw [hf.head c hc]
    rfl
  · exact hhead c hc

lemma exists_opt_comment (hf : Feed ended after nl) (hn : '\n' ∉ cs) :
    ∃ o, opt comment (Text.skipBlanks cs ++ nl) = some (o, gap cs ++ nl) := by
  have hskip : '\n' ∉ Text.skipBlanks cs := fun h => hn ((List.dropWhile_suffix _).subset h)
  rw [gap]
  split
  · rename_i text heq
    rw [heq] at hskip ⊢
    have hread := (comment_eq_some (u := ()) hf hskip).mpr ⟨⟨text, rfl⟩, rfl⟩
    exact ⟨some (), opt_eq_some.mpr (.inl ⟨(), rfl, hread⟩)⟩
  · rename_i hno
    refine ⟨none, opt_eq_some.mpr (.inr ⟨rfl, rfl, ?_⟩)⟩
    refine Option.eq_none_iff_forall_ne_some.mpr fun ⟨_, rest⟩ h => ?_
    obtain ⟨⟨text, heq⟩, -⟩ := (comment_eq_some hf hskip).mp h
    exact hno text heq

lemma gap_apply {β : Type} (hf : Feed ended after nl) (hn : '\n' ∉ cs) (k : Rule β) :
    (do
      ws
      let _ ← opt comment
      k) (cs ++ nl) = k (gap cs ++ nl) := by
  obtain ⟨o, ho⟩ := exists_opt_comment hf hn
  rw [bind_of_eq_some (ws_apply hf cs), bind_of_eq_some ho]

lemma newline_eq_some (hf : Feed ended after nl) (hn : '\n' ∉ r) :
    newline (r ++ nl) = some (u, rest) ↔ (r = [] ∨ r = ['\r']) ∧ ended = true ∧ rest = after := by
  simp only [newline, bind_eq_some, opt_eq_some, char_eq_some]
  constructor
  · rintro ⟨o, cs', ⟨-, -, h⟩ | ⟨-, rfl, -⟩, h'⟩
    · obtain ⟨r', rfl, rfl⟩ := hf.eq_cons (by decide) h
      obtain ⟨rfl, hended, hrest⟩ := hf.eq_feed (fun h => hn (List.mem_cons_of_mem _ h)) h'
      exact ⟨.inr rfl, hended, hrest⟩
    · obtain ⟨rfl, hended, hrest⟩ := hf.eq_feed hn h'
      exact ⟨.inl rfl, hended, hrest⟩
  · rintro ⟨rfl | rfl, rfl, rfl⟩
    · cases hf
      exact ⟨none, _, .inr ⟨rfl, rfl, rfl⟩, rfl⟩
    · cases hf
      exact ⟨some (), _, .inl ⟨(), rfl, rfl⟩, rfl⟩

lemma blank_eq_some (hf : Feed ended after nl) (hn : '\n' ∉ cs) :
    blank (cs ++ nl) = some (u, rest) ↔ Line.Ends ended cs ∧ ended = true ∧ rest = after := by
  rw [blank, gap_apply hf hn, newline_eq_some hf (not_mem_gap hn), ends_iff_gap]
  tauto

/-- A line ends where its line feed is read, or at the end of the text. -/
lemma lineEnd_eq_some (hf : Feed ended after nl) (hn : '\n' ∉ cs) :
    lineEnd (cs ++ nl) = some (u, rest) ↔ Line.Ends ended cs ∧ rest = after := by
  rw [lineEnd, gap_apply hf hn, orElse_apply, ends_iff_gap]
  generalize hgap : gap cs = r
  have hr : '\n' ∉ r := hgap ▸ not_mem_gap hn
  have hnewline (u : Unit) (rest : List Char) : newline (r ++ nl) = some (u, rest) ↔
      (r = [] ∨ r = ['\r']) ∧ ended = true ∧ rest = after := newline_eq_some hf hr
  cases hf with
  | line =>
    have heof : eof (r ++ '\n' :: after) = none := by simp [eof]
    rw [heof, Option.or_none, hnewline]
    tauto
  | last =>
    have hnone : newline (r ++ []) = none :=
      Option.eq_none_iff_forall_ne_some.mpr fun x hx => by cases ((hnewline _ _).mp hx).2.1
    rw [hnone, Option.none_or, eof_eq_some]
    simp

end

/-! ### Numbers with commas between them -/

section

variable {cs cs' rest w t : List Char} {n : Numeral} {x : Float} {xs : List Float}

lemma numeral_of_scalar (h : scalar cs = some (x, rest)) :
    ∃ n : Numeral, n.Spelled ∧ n.component? = some x ∧ cs = n.chars ++ rest := by
  rw [scalar, orElse_apply, Option.or_eq_some_iff, map_eq_some] at h
  rcases h with h | ⟨-, i, h, rfl⟩
  · obtain ⟨n, hn, hf, rfl, -, rfl⟩ := float_eq_some.mp h
    exact ⟨n, hn, by rw [Numeral.component?, if_pos hf], rfl⟩
  · obtain ⟨n, hn, hi, rfl, -⟩ := integer_eq_some.mp h
    exact ⟨n, hn, by simp [Numeral.component?, Numeral.fraction_of_word? hi, hi], rfl⟩

lemma scalar_of_numeral (hn : n.Spelled) (hx : n.component? = some x) (hdigit : NoDigit rest)
    (hpoint : rest.head? ≠ some '.') : scalar (n.chars ++ rest) = some (x, rest) := by
  rw [scalar, orElse_apply]
  rw [Numeral.component?] at hx
  split at hx
  · rename_i hf
    cases hx
    rw [float_eq_some.mpr ⟨n, hn, hf, rfl, hdigit, rfl⟩, Option.some_or]
  · rename_i hf
    obtain ⟨i, hi, rfl⟩ := Option.map_eq_some_iff.mp hx
    have hwhole : whole (n.chars ++ rest) = some (n, rest) :=
      whole_eq_some.mpr ⟨hn, by simpa using hf, rfl, hdigit⟩
    have hnone : float (n.chars ++ rest) = none := by
      rw [float, bind_of_eq_some hwhole, bind_of_eq_none (char_eq_none.mpr hpoint)]
    have hsome : integer (n.chars ++ rest) = some (i, rest) :=
      integer_eq_some.mpr ⟨n, hn, hi, rfl, hdigit⟩
    rw [hnone, Option.none_or]
    exact map_eq_some.mpr ⟨i, hsome, rfl⟩

lemma component_eq_some : component cs = some (x, rest) ↔ ∃ bs bs' cs',
    cs = bs ++ ',' :: (bs' ++ cs') ∧ Blanks bs ∧ Blanks bs' ∧ scalar cs' = some (x, rest) := by
  simp only [component, bind_eq_some, ws_eq_some, char_eq_some]
  constructor
  · rintro ⟨_, _, ⟨bs, rfl, hb, -⟩, _, _, rfl, _, cs', ⟨bs', rfl, hb', -⟩, h⟩
    exact ⟨bs, bs', cs', rfl, hb, hb', h⟩
  · rintro ⟨bs, bs', cs', rfl, hb, hb', h⟩
    refine ⟨(), _, ⟨bs, rfl, hb, by simp [Text.isBlank]⟩, (), _, rfl, (), cs',
      ⟨bs', rfl, hb', ?_⟩, h⟩
    obtain ⟨n, hn, -, rfl⟩ := numeral_of_scalar h
    obtain ⟨d, ds, hd⟩ := hn.exists_cons
    intro c hc
    rw [hd] at hc
    obtain rfl : d = c := by simpa using hc
    exact hn.not_blank d (by simp [hd])

lemma length_lt_of_component (h : component cs = some (x, rest)) : rest.length < cs.length := by
  obtain ⟨bs, bs', cs', rfl, -, -, hscalar⟩ := component_eq_some.mp h
  obtain ⟨n, -, -, rfl⟩ := numeral_of_scalar hscalar
  simp only [List.length_append, List.length_cons]
  omega

/-- Nothing follows that numbers would go on with. -/
structure Stops (t : List Char) : Prop where
  digit : NoDigit t
  point : t.head? ≠ some '.'
  component : component t = none

lemma components_of_scalar {ys : List Float} (h : scalar cs = some (x, cs'))
    (hmany : many component cs' = some (ys, rest)) :
    ∃ w, cs = w ++ rest ∧ Components w (x :: ys) := by
  induction ys generalizing cs cs' x with
  | nil =>
    obtain ⟨n, hn, hx, rfl⟩ := numeral_of_scalar h
    obtain rfl := rest_of_many_nil hmany
    exact ⟨n.chars, rfl, .last hn hx⟩
  | cons y ys ih =>
    obtain ⟨n, hn, hx, rfl⟩ := numeral_of_scalar h
    obtain ⟨cs'', hcomponent, -, hrest⟩ := many_cons.mp hmany
    obtain ⟨bs, bs', ds, rfl, hb, hb', hscalar⟩ := component_eq_some.mp hcomponent
    obtain ⟨w, rfl, hw⟩ := ih hscalar hrest
    exact ⟨_, by simp, .more hn hx hb hb' hw⟩

lemma scalar_of_components (h : Components w xs) (ht : Stops t) : ∃ y ys t', xs = y :: ys ∧
    scalar (w ++ t) = some (y, t') ∧ many component t' = some (ys, t) := by
  induction h with
  | @last n x hn hx =>
    exact ⟨x, [], t, rfl, scalar_of_numeral hn hx ht.digit ht.point, many_of_eq_none ht.component⟩
  | @more n x bs bs' cs xs hn hx hb hb' hs ih =>
    obtain ⟨y, ys, t', rfl, hscalar, hmany⟩ := ih
    have hcomponent : component (bs ++ ',' :: (bs' ++ (cs ++ t))) = some (y, t') :=
      component_eq_some.mpr ⟨bs, bs', cs ++ t, rfl, hb, hb', hscalar⟩
    have hhead : ∀ c ∈ (bs ++ ',' :: (bs' ++ (cs ++ t))).head?, c = ',' ∨ c = ' ' ∨ c = '\t' := by
      rcases bs with _ | ⟨b, bs⟩
      · simp
      · simpa using .inr (hb b List.mem_cons_self)
    refine ⟨x, y :: ys, bs ++ ',' :: (bs' ++ (cs ++ t)), rfl, ?_,
      many_cons.mpr ⟨t', hcomponent, length_lt_of_component hcomponent, hmany⟩⟩
    have happend : n.chars ++ (bs ++ ',' :: (bs' ++ cs)) ++ t =
        n.chars ++ (bs ++ ',' :: (bs' ++ (cs ++ t))) := by simp
    rw [happend]
    refine scalar_of_numeral hn hx (fun c hc => ?_) fun hc => ?_
    · rcases hhead c hc with rfl | rfl | rfl <;> decide
    · rcases hhead '.' hc with h | h | h <;> cases h

/-! ### Values that are spelled exactly -/

lemma vector_eq_some {v : Value} : vector cs = some (v, rest) ↔ ∃ x y zs cs' cs'',
    scalar cs = some (x, cs') ∧ component cs' = some (y, cs'') ∧
      many component cs'' = some (zs, rest) ∧ (∃ u t, lineEnd rest = some (u, t)) ∧
      v = .vector (x :: y :: zs) := by
  simp only [vector, bind_eq_some, ahead_eq_some, pure_eq_some]
  constructor
  · rintro ⟨x, cs', hx, y, cs'', hy, zs, _, hzs, u, _, ⟨rfl, hend⟩, rfl, rfl⟩
    exact ⟨x, y, zs, cs', cs'', hx, hy, hzs, hend, rfl⟩
  · rintro ⟨x, y, zs, cs', cs'', hx, hy, hzs, hend, rfl⟩
    exact ⟨x, cs', hx, y, cs'', hy, zs, rest, hzs, (), rest, ⟨rfl, hend⟩, rfl, rfl⟩

lemma number_eq_some {v : Value} (h : number cs = some (v, rest)) :
    (∃ u t, lineEnd rest = some (u, t)) ∧ ∃ w, cs = w ++ rest ∧ Plain w v := by
  rw [number, orElse_apply, Option.or_eq_some_iff] at h
  simp only [bind_eq_some, ahead_eq_some, pure_eq_some] at h
  rcases h with ⟨x, cs', hx, u, _, ⟨rfl, hend⟩, rfl, rfl⟩ |
    ⟨-, i, cs', hi, u, _, ⟨rfl, hend⟩, rfl, rfl⟩
  · obtain ⟨n, hn, hf, rfl, -, rfl⟩ := float_eq_some.mp hx
    exact ⟨hend, n.chars, rfl, .float hn hf⟩
  · obtain ⟨n, hn, hword, rfl, -⟩ := integer_eq_some.mp hi
    exact ⟨hend, n.chars, rfl, .integer hn hword⟩

lemma number_ne_none (hend : ∃ u t', lineEnd t = some (u, t'))
    (h : (∃ x, float cs = some (x, t)) ∨ ∃ i, integer cs = some (i, t)) : number cs ≠ none := by
  intro hnone
  rw [number, orElse_apply, Option.or_eq_none_iff] at hnone
  have hahead : ahead lineEnd t = some ((), t) := ahead_eq_some.mpr ⟨rfl, hend⟩
  rcases h with ⟨x, hx⟩ | ⟨i, hi⟩
  · rw [bind_of_eq_some hx, bind_of_eq_some hahead] at hnone
    cases hnone.1
  · rw [bind_of_eq_some hi, bind_of_eq_some hahead] at hnone
    cases hnone.2

lemma quoted_eq_some {v : Value} : quoted cs = some (v, rest) ↔
    ∃ s, cs = '"' :: (s ++ '"' :: rest) ∧ '"' ∉ s ∧ '\n' ∉ s ∧
      (∃ u t, lineEnd rest = some (u, t)) ∧ v = .string (String.ofList s) := by
  simp only [quoted, bind_eq_some, char_eq_some, star_eq_some, ahead_eq_some, pure_eq_some]
  constructor
  · rintro ⟨_, _, rfl, s, _, ⟨rfl, hspan⟩, _, _, rfl, _, _, ⟨rfl, hend⟩, rfl, rfl⟩
    refine ⟨s, rfl, fun h => ?_, fun h => ?_, hend, rfl⟩
    · simpa using hspan.inside _ h
    · simpa using hspan.inside _ h
  · rintro ⟨s, rfl, hquote, hfeed, hend, rfl⟩
    have hspan : Span (fun c => c != '"' && c != '\n') s ('"' :: rest) := by
      refine ⟨fun c hc => ?_, by simp⟩
      simpa using ⟨ne_of_mem_of_not_mem hc hquote, ne_of_mem_of_not_mem hc hfeed⟩
    exact ⟨(), _, rfl, s, _, ⟨rfl, hspan⟩, (), rest, rfl, (), rest, ⟨rfl, hend⟩, rfl, rfl⟩

lemma feed_not_mem_of_plain {v : Value} (h : Plain w v) : '\n' ∉ w := by
  intro hmem
  cases h.numeric _ hmem

/-- What the rules for exact values read is spelled exactly. -/
lemma exact_of_rule {v : Value} (h : (vector <|> number <|> quoted) cs = some (v, rest)) :
    (∃ u t, lineEnd rest = some (u, t)) ∧ ∃ w, cs = w ++ rest ∧ Exact w v ∧ '\n' ∉ w := by
  rw [orElse_apply, orElse_apply, Option.or_eq_some_iff, Option.or_eq_some_iff] at h
  rcases h with h | ⟨-, h | ⟨-, h⟩⟩
  · obtain ⟨x, y, zs, cs', cs'', hx, hy, hzs, hend, rfl⟩ := vector_eq_some.mp h
    have hmany := many_cons.mpr ⟨cs'', hy, length_lt_of_component hy, hzs⟩
    obtain ⟨w, rfl, hw⟩ := components_of_scalar hx hmany
    have hplain : Plain w (.vector (x :: y :: zs)) := .vector hw (by simp)
    exact ⟨hend, w, rfl, .plain hplain, feed_not_mem_of_plain hplain⟩
  · obtain ⟨hend, w, rfl, hplain⟩ := number_eq_some h
    exact ⟨hend, w, rfl, .plain hplain, feed_not_mem_of_plain hplain⟩
  · obtain ⟨s, rfl, hquote, hfeed, hend, rfl⟩ := quoted_eq_some.mp h
    exact ⟨hend, '"' :: (s ++ ['"']), by simp, .quoted hquote, by simp [hfeed]⟩

/-- What is spelled exactly is read by one of the rules for exact values. -/
lemma rule_of_exact {v : Value} (h : Exact w v) (hn : '\n' ∉ w) (ht : Stops t)
    (hend : ∃ u t', lineEnd t = some (u, t')) : (vector <|> number <|> quoted) (w ++ t) ≠ none := by
  intro hnone
  rw [orElse_apply, orElse_apply, Option.or_eq_none_iff, Option.or_eq_none_iff] at hnone
  obtain ⟨hvector, hnumber, hquoted⟩ := hnone
  cases h with
  | plain h =>
    cases h with
    | vector h htwo =>
      obtain ⟨y, ys, t', rfl, hscalar, hmany⟩ := scalar_of_components h ht
      rcases ys with _ | ⟨z, zs⟩
      · simp at htwo
      · obtain ⟨cs', hcomponent, -, hrest⟩ := many_cons.mp hmany
        have hread := vector_eq_some.mpr ⟨y, z, zs, t', cs', hscalar, hcomponent, hrest, hend, rfl⟩
        rw [hvector] at hread
        cases hread
    | float hs hf =>
      have hread := float_eq_some.mpr ⟨_, hs, hf, rfl, ht.digit, rfl⟩
      exact number_ne_none hend (.inl ⟨_, hread⟩) hnumber
    | integer hs hi =>
      have hread := integer_eq_some.mpr ⟨_, hs, hi, rfl, ht.digit⟩
      exact number_ne_none hend (.inr ⟨_, hread⟩) hnumber
  | @quoted s hquote =>
    have hs : '\n' ∉ s := fun hmem => hn (by simp [hmem])
    have hread := quoted_eq_some.mpr ⟨s, rfl, hquote, hs, hend, rfl⟩
    have happend : '"' :: (s ++ ['"']) ++ t = '"' :: (s ++ '"' :: t) := by simp
    rw [happend, hread] at hquoted
    cases hquoted

end

/-! ### Lines -/

section

variable {ended : Bool} {after nl cs rest w s : List Char} {v : Value} {u : Unit}

/-- What is read in front of a line feed is in the line. -/
lemma Feed.split (hf : Feed ended after nl) (hn : '\n' ∉ w) (h : cs ++ nl = w ++ rest) :
    ∃ r, cs = w ++ r ∧ rest = r ++ nl := by
  rcases List.append_eq_append_iff.mp h with ⟨a, rfl, rfl⟩ | ⟨a, rfl, rfl⟩
  · have ha : a = [] := by
      rcases a with _ | ⟨c, a⟩
      · rfl
      · exact absurd (hf.head c rfl ▸ List.mem_append_right _ List.mem_cons_self) hn
    subst ha
    exact ⟨[], by simp, by simp⟩
  · exact ⟨a, rfl, rfl⟩

/-- Numbers stop where a line may end. -/
lemma stops_of_ends (hf : Feed ended after nl) (h : Line.Ends ended cs) : Stops (cs ++ nl) := by
  obtain ⟨bs, r, rfl, hb, hhead⟩ := Line.exists_blanks cs
  have hrest : ∀ c ∈ (r ++ nl).head?, c = ';' ∨ c = '\r' ∨ c = '\n' := by
    rcases ((Line.ends_append hb).mp h).cases hhead with rfl | ⟨text, rfl⟩ | ⟨rfl, -⟩
    · exact fun c hc => .inr (.inr (hf.head c hc))
    · simp
    · simp
  have hfirst : ∀ c ∈ (bs ++ r ++ nl).head?,
      c = ' ' ∨ c = '\t' ∨ c = ';' ∨ c = '\r' ∨ c = '\n' := by
    rw [List.append_assoc]
    rcases bs with _ | ⟨b, bs⟩
    · exact fun c hc => .inr (.inr (hrest c hc))
    · intro c hc
      obtain rfl : b = c := by simpa using hc
      rcases hb b List.mem_cons_self with rfl | rfl <;> simp
  constructor
  case digit =>
    intro c hc
    rcases hfirst c hc with rfl | rfl | rfl | rfl | rfl <;> decide
  case point =>
    intro hc
    rcases hfirst '.' hc with h | h | h | h | h <;> cases h
  case component =>
    refine Option.eq_none_iff_forall_ne_some.mpr fun ⟨x, rest⟩ hx => ?_
    obtain ⟨bs', bs'', cs', heq, hb', -, -⟩ := component_eq_some.mp hx
    have hspan : Span Text.isBlank bs (r ++ nl) := by
      refine ⟨Line.blanks_iff.mp hb, fun c hc => ?_⟩
      rcases hrest c hc with rfl | rfl | rfl <;> rfl
    have hspan' : Span Text.isBlank bs' (',' :: (bs'' ++ cs')) :=
      ⟨Line.blanks_iff.mp hb', by simp [Text.isBlank]⟩
    rw [List.append_assoc] at heq
    obtain ⟨-, hcomma⟩ := hspan.unique hspan' heq
    rcases hrest ',' (by rw [hcomma]; rfl) with h | h | h <;> cases h

lemma value_apply (cs : List Char) :
    value cs = ((vector <|> number <|> quoted) cs).or (bare cs) := by
  rw [value, orElse_apply, orElse_apply, orElse_apply, orElse_apply, orElse_apply, Option.or_assoc,
    Option.or_assoc]

lemma strict_of_rule (hf : Feed ended after nl) (hn : '\n' ∉ cs)
    (h : (vector <|> number <|> quoted) (cs ++ nl) = some (v, rest)) :
    Strict (Line.Ends ended) cs v ∧ ∀ u s, lineEnd rest = some (u, s) ↔ s = after := by
  obtain ⟨⟨u, t, hend⟩, w, heq, hw, hfeed⟩ := exact_of_rule h
  obtain ⟨r, rfl, rfl⟩ := hf.split hfeed heq
  have hr : '\n' ∉ r := fun hmem => hn (List.mem_append_right _ hmem)
  have hends := ((lineEnd_eq_some hf hr).mp hend).1
  exact ⟨⟨w, r, rfl, hw, hends⟩, fun u s => by rw [lineEnd_eq_some hf hr]; tauto⟩

lemma rule_of_strict (hf : Feed ended after nl) (hn : '\n' ∉ cs)
    (h : Strict (Line.Ends ended) cs v) :
    (vector <|> number <|> quoted) (cs ++ nl) ≠ none := by
  obtain ⟨w, r, rfl, hw, hends⟩ := h
  rw [List.append_assoc]
  have hr : '\n' ∉ r := fun hmem => hn (List.mem_append_right _ hmem)
  exact rule_of_exact hw (fun hmem => hn (List.mem_append_left _ hmem)) (stops_of_ends hf hends)
    ⟨(), after, (lineEnd_eq_some hf hr).mpr ⟨hends, rfl⟩⟩

lemma bare_eq_some (hf : Feed ended after nl) (hn : '\n' ∉ cs) :
    bare (cs ++ nl) = some (v, rest) ↔ ∃ w r, cs = w ++ r ∧ rest = r ++ nl ∧ Bare w r ∧
      v = .string (String.ofList (Text.trimEnd w)) := by
  simp only [bare, bind_eq_some, plus_eq_some, pure_eq_some]
  constructor
  · rintro ⟨w, _, ⟨heq, hne, hspan⟩, rfl, rfl⟩
    have hclass : ∀ c ∈ w, (c ≠ ';' ∧ c ≠ '\n') ∧ c ≠ '\r' := by simpa using hspan.inside
    obtain ⟨r, rfl, rfl⟩ := hf.split (fun h => (hclass _ h).1.2 rfl) heq
    refine ⟨w, r, rfl, rfl, ⟨hne, fun c hc => ⟨(hclass c hc).1.1, (hclass c hc).2⟩, ?_⟩, rfl⟩
    intro c hc
    have hmem : c ≠ '\n' := fun h =>
      hn (List.mem_append_right _ (h ▸ List.mem_of_mem_head? hc))
    have hout := hspan.outside c (List.mem_head?_append_of_mem_head? hc)
    simpa [hmem, imp_iff_not_or] using hout
  · rintro ⟨w, r, rfl, rfl, hbare, rfl⟩
    have hw : '\n' ∉ w := fun h => hn (List.mem_append_left _ h)
    exact ⟨w, r ++ nl, ⟨by simp, hbare.nonempty, hf.span (Line.bare_span hbare) hw rfl
      fun c hc => by simp [Line.isBare, bne_iff_ne.mpr hc]⟩, rfl, rfl⟩

/-- A value and the end of its line are read if the value is spelled in the line. -/
lemma value_line (hf : Feed ended after nl) (hn : '\n' ∉ cs)
    (hhead : ∀ c ∈ cs.head?, Text.isBlank c = false) :
    (∃ rest, value (cs ++ nl) = some (v, rest) ∧ lineEnd rest = some (u, s)) ↔
      Denotes (Line.Ends ended) cs v ∧ s = after := by
  rw [value_apply]
  by_cases hstrict : ∃ v', Strict (Line.Ends ended) cs v'
  · obtain ⟨v', hv'⟩ := hstrict
    obtain ⟨⟨v'', rest⟩, hrule⟩ := Option.ne_none_iff_exists'.mp (rule_of_strict hf hn hv')
    obtain ⟨hv'', hend⟩ := strict_of_rule hf hn hrule
    rw [hrule, Option.some_or, ← Line.value_eq_ok hhead, Line.value_of_strict hv'']
    simp only [Option.some.injEq, Prod.mk.injEq, Except.ok.injEq]
    constructor
    · rintro ⟨_, ⟨rfl, rfl⟩, h⟩
      exact ⟨rfl, (hend _ _).mp h⟩
    · rintro ⟨rfl, h⟩
      exact ⟨rest, ⟨rfl, rfl⟩, (hend _ _).mpr h⟩
  · have hnone : (vector <|> number <|> quoted) (cs ++ nl) = none :=
      Option.eq_none_iff_forall_ne_some.mpr fun ⟨v', rest⟩ h =>
        hstrict ⟨v', (strict_of_rule hf hn h).1⟩
    have hloose : Denotes (Line.Ends ended) cs v ↔ Loose (Line.Ends ended) cs v :=
      ⟨fun h => (h.resolve_left fun h => hstrict ⟨v, h⟩).2,
        fun h => .inr ⟨fun v' h' => hstrict ⟨v', h'⟩, h⟩⟩
    rw [hnone, Option.none_or, hloose]
    constructor
    · rintro ⟨_, h, hend⟩
      obtain ⟨w, r, rfl, rfl, hbare, rfl⟩ := (bare_eq_some hf hn).mp h
      have hr : '\n' ∉ r := fun hmem => hn (List.mem_append_right _ hmem)
      obtain ⟨hends, hs⟩ := (lineEnd_eq_some hf hr).mp hend
      exact ⟨⟨w, r, rfl, hbare, hends, rfl⟩, hs⟩
    · rintro ⟨⟨w, r, rfl, hbare, hends, rfl⟩, rfl⟩
      have hr : '\n' ∉ r := fun hmem => hn (List.mem_append_right _ hmem)
      exact ⟨r ++ nl, (bare_eq_some hf hn).mpr ⟨w, r, rfl, rfl, hbare, rfl⟩,
        (lineEnd_eq_some hf hr).mpr ⟨hends, rfl⟩⟩

lemma feed_not_mem_blanks {bs : List Char} (hb : Blanks bs) : '\n' ∉ bs := by
  intro hmem
  rcases hb _ hmem with h | h <;> cases h

lemma header_eq_some (hf : Feed ended after nl) (hn : '\n' ∉ cs) {name : String} :
    header (cs ++ nl) = some (name, rest) ↔
      Header (Line.Ends ended) cs name ∧ rest = after := by
  simp only [header, bind_eq_some, ws_eq_some, char_eq_some, plus_eq_some, pure_eq_some]
  constructor
  · rintro ⟨_, _, ⟨bs, heq, hb, -⟩, _, _, rfl, text, _, ⟨rfl, hne, hspan⟩, _, t, rfl, _, _, hend,
      rfl, rfl⟩
    have htext : ∀ c ∈ text, (c ≠ ']' ∧ c ≠ '\n') ∧ c ≠ '\r' := by simpa using hspan.inside
    have hfeed : '\n' ∉ bs ++ '[' :: (text ++ [']']) := by
      simpa using ⟨feed_not_mem_blanks hb, fun h => (htext _ h).1.2 rfl⟩
    have hsplit : cs ++ nl = bs ++ '[' :: (text ++ [']']) ++ t := by simp [heq]
    obtain ⟨r, rfl, rfl⟩ := hf.split hfeed hsplit
    have hr : '\n' ∉ r := fun hmem => hn (List.mem_append_right _ hmem)
    obtain ⟨hends, hrest⟩ := (lineEnd_eq_some hf hr).mp hend
    exact ⟨⟨_, r, rfl, .mk hb hne fun c hc => ⟨(htext c hc).1.1, (htext c hc).2⟩, hends⟩, hrest⟩
  · rintro ⟨⟨_, r, rfl, @⟨bs, text, hb, hne, htext⟩, hends⟩, rfl⟩
    have hr : '\n' ∉ r := fun hmem => hn (List.mem_append_right _ hmem)
    have hspan : Span (fun c => c != ']' && c != '\n' && c != '\r') text (']' :: (r ++ nl)) := by
      refine ⟨fun c hc => ?_, by simp⟩
      have hfeed : c ≠ '\n' := ne_of_mem_of_not_mem hc fun h => hn (by simp [h])
      simpa using ⟨⟨(htext c hc).1, hfeed⟩, (htext c hc).2⟩
    exact ⟨(), _, ⟨bs, by simp, hb, by simp [Text.isBlank]⟩, (), _, rfl, text, _,
      ⟨rfl, hne, hspan⟩, (), _, rfl, (), _, (lineEnd_eq_some hf hr).mpr ⟨hends, rfl⟩, rfl, rfl⟩

lemma entry_eq_some (hf : Feed ended after nl) (hn : '\n' ∉ cs) {k : String} :
    entry (cs ++ nl) = some ((k, v), rest) ↔
      Entry (Line.Ends ended) cs k v ∧ rest = after := by
  simp only [entry, key, bind_eq_some, ws_eq_some, char_eq_some, plus_eq_some, pure_eq_some]
  constructor
  · rintro ⟨_, _, ⟨bs, heq, hb, -⟩, _, _, ⟨text, _, ⟨rfl, hne, hspan⟩, rfl, rfl⟩, _, _,
      ⟨bs', rfl, hb', -⟩, _, _, rfl, _, t, ⟨bs'', rfl, hb'', hhead⟩, _, _, hv, _, _, hend, ⟨⟩, rfl⟩
    have htext : ∀ c ∈ text, KeyChar c := fun c hc => Line.isKeyChar_iff.mp (hspan.inside c hc)
    have hfeed : '\n' ∉ bs ++ (text ++ (bs' ++ '=' :: bs'')) := by
      have hkey : '\n' ∉ text := fun h => by cases hspan.inside _ h
      simpa using ⟨feed_not_mem_blanks hb, hkey, feed_not_mem_blanks hb', feed_not_mem_blanks hb''⟩
    have hsplit : cs ++ nl = bs ++ (text ++ (bs' ++ '=' :: bs'')) ++ t := by simp [heq]
    obtain ⟨r, rfl, rfl⟩ := hf.split hfeed hsplit
    have hr : '\n' ∉ r := fun hmem => hn (List.mem_append_right _ hmem)
    have hhead' : ∀ c ∈ r.head?, Text.isBlank c = false := fun c hc =>
      hhead c (List.mem_head?_append_of_mem_head? hc)
    obtain ⟨hvalued, hrest⟩ := (value_line hf hr hhead').mp ⟨_, hv, hend⟩
    exact ⟨⟨_, r, rfl, .mk hb hne htext hb' hb'', fun c hc => by
      simpa [Text.isBlank] using hhead' c hc, hvalued⟩, hrest⟩
  · rintro ⟨⟨_, r, rfl, @⟨bs, text, bs', bs'', hb, hne, htext, hb', hb''⟩, hhead, hvalued⟩, rfl⟩
    have hr : '\n' ∉ r := fun hmem => hn (List.mem_append_right _ hmem)
    have hhead' : ∀ c ∈ r.head?, Text.isBlank c = false := fun c hc => by
      simpa [Text.isBlank] using hhead c hc
    have hfirst : ∀ c ∈ (r ++ nl).head?, Text.isBlank c = false := by
      rcases r with _ | ⟨d, r⟩
      · intro c hc
        rw [hf.head c hc]
        rfl
      · exact hhead'
    obtain ⟨t, hv, hend⟩ := (value_line (u := ()) hf hr hhead').mpr ⟨hvalued, rfl⟩
    obtain ⟨d, ds, rfl⟩ := List.exists_cons_of_ne_nil hne
    have hkey : ∀ c ∈ ((d :: ds) ++ (bs' ++ '=' :: (bs'' ++ (r ++ nl)))).head?,
        Text.isBlank c = false := by
      intro c hc
      obtain rfl : d = c := by simpa using hc
      exact Line.not_blank_of_keyChar (htext d List.mem_cons_self)
    exact ⟨(), _, ⟨bs, by simp, hb, hkey⟩, _, _, ⟨d :: ds, _, ⟨rfl, hne, Line.key_span htext hb'⟩,
      rfl, rfl⟩, (), _, ⟨bs', rfl, hb', by simp [Text.isBlank]⟩, (), _, rfl, (), _,
      ⟨bs'', rfl, hb'', hfirst⟩, v, t, hv, (), _, hend, rfl, rfl⟩

end

end Barrage.Grammar
