import Barrage.Proofs.Definition.Spelling

/-!
How numbers are read.

A text reads as a numeral if and only if it spells one, and as numbers with commas between them if
and only if it spells those. Whatever stands in front of a place where a class of characters ends is
found by taking characters of that class as long as there are some.
-/

namespace Barrage

/-! ### Classes of characters -/

/-- The characters of `w` are of a class, and the next one is not. -/
structure Span (p : Char → Bool) (w rest : List Char) : Prop where
  inside : ∀ c ∈ w, p c = true
  outside : ∀ c ∈ rest.head?, p c = false

namespace Span

variable {p : Char → Bool} {w rest cs : List Char}

lemma take (h : Span p w rest) : (w ++ rest).takeWhile p = w := by
  rw [List.takeWhile_append_of_pos h.inside]
  rcases rest with _ | ⟨c, rest⟩
  · simp
  · have hc := h.outside c rfl
    simp [hc]

lemma drop (h : Span p w rest) : (w ++ rest).dropWhile p = rest := by
  rw [List.dropWhile_append_of_pos h.inside]
  rcases rest with _ | ⟨c, rest⟩
  · rfl
  · have hc := h.outside c rfl
    simp [hc]

lemma unique {w' rest' : List Char} (h : Span p w rest) (h' : Span p w' rest')
    (heq : w ++ rest = w' ++ rest') : w = w' ∧ rest = rest' := by
  have htake := h.take
  have hdrop := h.drop
  rw [heq, h'.take] at htake
  rw [heq, h'.drop] at hdrop
  exact ⟨htake.symm, hdrop.symm⟩

lemma all (h : ∀ c ∈ w, p c = true) : Span p w [] := ⟨h, by simp⟩

/-- A class of characters ends somewhere in every text. -/
lemma exists_split (p : Char → Bool) (cs : List Char) :
    ∃ w rest, cs = w ++ rest ∧ Span p w rest := by
  refine ⟨_, _, (List.takeWhile_append_dropWhile (p := p)).symm, fun c hc => ?_, fun c hc => ?_⟩
  · exact List.all_eq_true.mp List.all_takeWhile c hc
  · have := List.head?_dropWhile_not p cs
    rw [Option.mem_def.mp hc] at this
    exact this

/-- The first `d` of a text, if it has one. -/
lemma exists_cut (d : Char) (cs : List Char) :
    d ∉ cs ∨ ∃ p cs', cs = p ++ d :: cs' ∧ d ∉ p := by
  obtain ⟨p, rest, rfl, hspan⟩ := exists_split (· != d) cs
  have hp : d ∉ p := fun hmem => by simpa using hspan.inside _ hmem
  rcases rest with _ | ⟨c, cs'⟩
  · exact .inl (by simpa using hp)
  · have hc : c = d := by simpa using hspan.outside c rfl
    exact .inr ⟨p, cs', by rw [hc], hp⟩

end Span

namespace Text

lemma isBlank_iff {c : Char} : isBlank c = true ↔ c = ' ' ∨ c = '\t' := by
  simp [isBlank]

lemma trimEndBy_append {p : Char → Bool} {w bs : List Char} (hb : ∀ c ∈ bs, p c = true)
    (hw : ∀ c ∈ w.getLast?, p c = false) : trimEndBy p (w ++ bs) = w := by
  have hspan : Span p bs.reverse w.reverse := by
    refine ⟨fun c hc => hb c (List.mem_reverse.mp hc), fun c hc => hw c ?_⟩
    rwa [List.head?_reverse] at hc
  rw [trimEndBy, List.reverse_append, hspan.drop, List.reverse_reverse]

lemma exists_trimEndBy (p : Char → Bool) (cs : List Char) : ∃ w bs, cs = w ++ bs ∧
    (∀ c ∈ bs, p c = true) ∧ ∀ c ∈ w.getLast?, p c = false := by
  obtain ⟨bs, w, h, hspan⟩ := Span.exists_split p cs.reverse
  refine ⟨w.reverse, bs.reverse, ?_, fun c hc => hspan.inside c (List.mem_reverse.mp hc), ?_⟩
  · rw [← List.reverse_append, ← h, List.reverse_reverse]
  · rw [List.getLast?_reverse]
    exact hspan.outside

end Text

/-! ### Numerals -/

namespace Numeral

variable {n : Numeral} {cs : List Char}

lemma isDigit_point : isDigit '.' = false := by decide

lemma ofUnsigned?_eq_some {negative : Bool} : ofUnsigned? negative cs = some n ↔
    n.Spelled ∧ n.negative = negative ∧ cs = n.unsigned := by
  constructor
  · intro h
    obtain ⟨ds, rest, rfl, hspan⟩ := Span.exists_split isDigit cs
    rw [ofUnsigned?, hspan.take, hspan.drop] at h
    split at h
    · cases h
    · cases h
      exact ⟨⟨by assumption, by simpa using hspan.inside⟩, rfl, by simp [unsigned]⟩
    · rename_i fs _ _
      split at h
      · rename_i hfs
        cases h
        refine ⟨⟨by assumption, fun c hc => ?_⟩, rfl, by simp [unsigned]⟩
        rcases List.mem_append.mp hc with hc | hc
        · exact hspan.inside c hc
        · exact List.all_eq_true.mp hfs c hc
      · cases h
    · cases h
  · rintro ⟨⟨hwhole, hdigits⟩, rfl, rfl⟩
    obtain ⟨negative, whole, fraction⟩ := n
    have hds : ∀ c ∈ whole, isDigit c = true := fun c hc => hdigits c (List.mem_append_left _ hc)
    obtain ⟨d, ds, rfl⟩ := List.exists_cons_of_ne_nil hwhole
    rcases fraction with _ | fs
    · have hspan : Span isDigit (d :: ds) [] := .all hds
      simp only [unsigned, ofUnsigned?, Option.elim_none, hspan.take, hspan.drop]
    · have hspan : Span isDigit (d :: ds) ('.' :: fs) := ⟨hds, by simp [isDigit_point]⟩
      have hfs : fs.all isDigit = true :=
        List.all_eq_true.mpr fun c hc => hdigits c (List.mem_append_right _ hc)
      simp only [unsigned, ofUnsigned?, Option.elim_some, hspan.take, hspan.drop, hfs, if_pos]

lemma Spelled.exists_digit (h : n.Spelled) : ∃ d cs, n.unsigned = d :: cs ∧ isDigit d = true := by
  obtain ⟨d, ds, hd⟩ := List.exists_cons_of_ne_nil h.whole
  exact ⟨d, _, by rw [unsigned, hd]; rfl, h.digits d (by simp [hd])⟩

lemma Spelled.exists_cons (h : n.Spelled) : ∃ d cs, n.chars = d :: cs := by
  obtain ⟨d, cs, hd, -⟩ := h.exists_digit
  rw [chars, hd]
  split <;> exact ⟨_, _, rfl⟩

lemma ofChars?_cons {d : Char} (hd : d ≠ '-') (cs : List Char) :
    ofChars? (d :: cs) = ofUnsigned? false (d :: cs) := by
  rw [ofChars?]
  rintro cs' h
  exact hd (List.cons.inj h).1

/-- **A text reads as the numeral that it spells.** -/
theorem ofChars?_eq_some : ofChars? cs = some n ↔ n.Spelled ∧ cs = n.chars := by
  by_cases hminus : ∃ cs', cs = '-' :: cs'
  · obtain ⟨cs', rfl⟩ := hminus
    rw [ofChars?, ofUnsigned?_eq_some, and_congr_right_iff]
    intro h
    rcases hn : n.negative with _ | _
    · obtain ⟨d, ds, hd, hdigit⟩ := h.exists_digit
      simp only [chars, hn, Bool.false_eq_true, false_and, if_false, hd, List.cons.injEq, false_iff,
        not_and]
      rintro rfl
      cases hdigit
    · simp [chars, hn]
  · have hsame : ofChars? cs = ofUnsigned? false cs := by
      rcases cs with _ | ⟨d, cs⟩
      · rfl
      · exact ofChars?_cons (fun hd => hminus ⟨cs, by rw [hd]⟩) cs
    rw [hsame, ofUnsigned?_eq_some, and_congr_right_iff]
    intro h
    rcases hn : n.negative with _ | _
    · simp [chars, hn]
    · simp only [chars, hn, Bool.true_eq_false, false_and, if_true, false_iff]
      exact fun heq => hminus ⟨_, heq⟩

lemma fraction_of_word? {i : Int} (h : n.word? = some i) : n.fraction = none := by
  rw [word?] at h
  split at h
  · rename_i hw
    rw [Bool.and_eq_true, Option.isNone_iff_eq_none] at hw
    exact hw.1
  · cases h

lemma Spelled.mem_chars (h : n.Spelled) {c : Char} (hc : c ∈ n.chars) :
    c = '-' ∨ c = '.' ∨ isDigit c = true := by
  have hunsigned (hc : c ∈ n.unsigned) : c = '.' ∨ isDigit c = true := by
    rcases List.mem_append.mp hc with hc | hc
    · exact .inr (h.digits c (List.mem_append_left _ hc))
    · rcases hf : n.fraction with _ | fs
      · simp [hf] at hc
      · rw [hf, Option.elim_some] at hc
        rcases List.mem_cons.mp hc with rfl | hc
        · exact .inl rfl
        · exact .inr (h.digits c (List.mem_append_right _ (by simpa [hf] using hc)))
  rw [chars] at hc
  split at hc
  · rcases List.mem_cons.mp hc with rfl | hc
    · exact .inl rfl
    · exact .inr (hunsigned hc)
  · exact .inr (hunsigned hc)

lemma Spelled.not_mem (h : n.Spelled) {c : Char} (hminus : c ≠ '-') (hpoint : c ≠ '.')
    (hdigit : isDigit c = false) : c ∉ n.chars := by
  intro hc
  rcases h.mem_chars hc with rfl | rfl | hd
  · exact hminus rfl
  · exact hpoint rfl
  · rw [hdigit] at hd
    cases hd

lemma Spelled.not_comma (h : n.Spelled) : ',' ∉ n.chars :=
  h.not_mem (by decide) (by decide) (by decide)

lemma Spelled.not_blank (h : n.Spelled) : ∀ c ∈ n.chars, Text.isBlank c = false := by
  intro c hc
  by_contra hblank
  rcases Text.isBlank_iff.mp (by simpa using hblank) with rfl | rfl
  · exact h.not_mem (by decide) (by decide) (by decide) hc
  · exact h.not_mem (by decide) (by decide) (by decide) hc

end Numeral

/-! ### Numbers with commas between them -/

namespace Line

lemma splitCommas_of_not_mem {cs : List Char} (h : ',' ∉ cs) : splitCommas cs = [cs] := by
  induction cs with
  | nil => rfl
  | cons c cs ih =>
    rw [List.mem_cons, not_or] at h
    rw [splitCommas, if_neg (Ne.symm h.1), ih h.2]

lemma splitCommas_append {p : List Char} (h : ',' ∉ p) (cs : List Char) :
    splitCommas (p ++ ',' :: cs) = p :: splitCommas cs := by
  induction p with
  | nil => rw [List.nil_append, splitCommas, if_pos rfl]
  | cons c p ih =>
    rw [List.mem_cons, not_or] at h
    rw [List.cons_append, splitCommas, if_neg (Ne.symm h.1), ih h.2]

/-- What one component reads as; blanks around it do not count. -/
def component? (p : List Char) : Option Float :=
  (Numeral.ofChars? (Text.trimEndBy Text.isBlank (Text.skipBlanks p))).bind (·.component?)

open Spelling

lemma blanks_iff {bs : List Char} : Blanks bs ↔ ∀ c ∈ bs, Text.isBlank c = true :=
  forall₂_congr fun _ _ => Text.isBlank_iff.symm

lemma component?_eq_some {p : List Char} {x : Float} : component? p = some x ↔
    ∃ bs, ∃ n : Numeral, ∃ bs', p = bs ++ (n.chars ++ bs') ∧ Blanks bs ∧ Blanks bs' ∧
      n.Spelled ∧ n.component? = some x := by
  simp only [component?, Option.bind_eq_some_iff, Numeral.ofChars?_eq_some, blanks_iff]
  constructor
  · rintro ⟨n, ⟨hn, htrim⟩, hx⟩
    obtain ⟨bs, rest, rfl, hspan⟩ := Span.exists_split Text.isBlank p
    rw [Text.skipBlanks, hspan.drop] at htrim
    obtain ⟨w, bs', rfl, hb', hw⟩ := Text.exists_trimEndBy Text.isBlank rest
    rw [Text.trimEndBy_append hb' hw] at htrim
    exact ⟨bs, n, bs', by rw [htrim], hspan.inside, hb', hn, hx⟩
  · rintro ⟨bs, n, bs', rfl, hb, hb', hn, hx⟩
    refine ⟨n, ⟨hn, ?_⟩, hx⟩
    have hnb := hn.not_blank
    obtain ⟨d, ds, hd⟩ := hn.exists_cons
    have hspan : Span Text.isBlank bs (n.chars ++ bs') := by
      refine ⟨hb, fun c hc => hnb c ?_⟩
      rw [hd] at hc ⊢
      cases hc
      exact List.mem_cons_self
    rw [Text.skipBlanks, hspan.drop,
      Text.trimEndBy_append hb' fun c hc => hnb c (List.mem_of_getLast? hc)]

lemma comma_not_blank {bs : List Char} (h : Blanks bs) : ',' ∉ bs := by
  intro hmem
  rcases h _ hmem with hc | hc <;> cases hc

lemma split_components {w : List Char} {xs : List Float} (h : Components w xs) {bs bs' : List Char}
    (hb : Blanks bs) (hb' : Blanks bs') :
    (splitCommas (bs ++ (w ++ bs'))).mapM component? = some xs ∧
      (splitCommas (bs ++ (w ++ bs'))).length = xs.length := by
  induction h generalizing bs with
  | @last n x hn hx =>
    have hcomma : ',' ∉ bs ++ (n.chars ++ bs') := by
      simp only [List.mem_append, not_or]
      exact ⟨comma_not_blank hb, hn.not_comma, comma_not_blank hb'⟩
    have hread : component? (bs ++ (n.chars ++ bs')) = some x :=
      component?_eq_some.mpr ⟨bs, n, bs', rfl, hb, hb', hn, hx⟩
    simp [splitCommas_of_not_mem hcomma, hread]
  | @more n x cs cs' w xs hn hx hc hc' hs ih =>
    obtain ⟨hmap, hlength⟩ := ih hc'
    have hcomma : ',' ∉ bs ++ (n.chars ++ cs) := by
      simp only [List.mem_append, not_or]
      exact ⟨comma_not_blank hb, hn.not_comma, comma_not_blank hc⟩
    have hread : component? (bs ++ (n.chars ++ cs)) = some x :=
      component?_eq_some.mpr ⟨bs, n, cs, rfl, hb, hc, hn, hx⟩
    have hsplit : splitCommas (bs ++ ((n.chars ++ (cs ++ ',' :: (cs' ++ w))) ++ bs')) =
        (bs ++ (n.chars ++ cs)) :: splitCommas (cs' ++ (w ++ bs')) := by
      rw [← splitCommas_append hcomma]
      simp
    rw [hsplit]
    exact ⟨by simp [hread, hmap], by simp [hlength]⟩

lemma mapM_cons_eq_some {α β : Type} {f : α → Option β} {a : α} {as : List α} {bs : List β} :
    (a :: as).mapM f = some bs ↔ ∃ b bs', bs = b :: bs' ∧ f a = some b ∧ as.mapM f = some bs' := by
  simp only [List.mapM_cons, Option.bind_eq_bind, Option.bind_eq_some_iff, Option.pure_def,
    Option.some.injEq]
  constructor
  · rintro ⟨b, hb, bs', hbs, rfl⟩
    exact ⟨b, bs', rfl, hb, hbs⟩
  · rintro ⟨b, bs', rfl, hb, hbs⟩
    exact ⟨b, hb, bs', hbs, rfl⟩

lemma components_of_split {cs : List Char} {xs : List Float}
    (h : (splitCommas cs).mapM component? = some xs) :
    ∃ bs w bs', cs = bs ++ (w ++ bs') ∧ Blanks bs ∧ Blanks bs' ∧ Components w xs := by
  induction xs generalizing cs with
  | nil =>
    rcases Span.exists_cut ',' cs with hcomma | ⟨p, cs', rfl, hcomma⟩
    · rw [splitCommas_of_not_mem hcomma, mapM_cons_eq_some] at h
      obtain ⟨_, _, ⟨⟩, -⟩ := h
    · rw [splitCommas_append hcomma, mapM_cons_eq_some] at h
      obtain ⟨_, _, ⟨⟩, -⟩ := h
  | cons x xs ih =>
    rcases Span.exists_cut ',' cs with hcomma | ⟨p, cs', rfl, hcomma⟩
    · rw [splitCommas_of_not_mem hcomma, mapM_cons_eq_some] at h
      obtain ⟨_, _, ⟨⟩, hread, ⟨⟩⟩ := h
      obtain ⟨bs, n, bs', rfl, hb, hb', hn, hx⟩ := component?_eq_some.mp hread
      exact ⟨bs, n.chars, bs', rfl, hb, hb', .last hn hx⟩
    · rw [splitCommas_append hcomma, mapM_cons_eq_some] at h
      obtain ⟨_, _, ⟨⟩, hread, hrest⟩ := h
      obtain ⟨bs, n, ds, rfl, hb, hd, hn, hx⟩ := component?_eq_some.mp hread
      obtain ⟨ds', w, bs', rfl, hd', hb', hw⟩ := ih hrest
      exact ⟨bs, _, bs', by simp, hb, hb', .more hn hx hd hd' hw⟩

lemma vector?_eq (cs : List Char) : vector? cs =
    (if 2 ≤ (splitCommas cs).length then (splitCommas cs).mapM component? else none) := by
  rw [vector?]
  split
  · simp_all
  · simp_all
  · rename_i h h'
    rw [if_pos]
    · rfl
    · match hs : splitCommas cs with
      | [] => exact absurd hs h
      | [_] => exact absurd hs (h' _)
      | _ :: _ :: _ => simp

/-- **A text reads as numbers with commas between them if it spells them**, with blanks around. -/
theorem vector?_eq_some {cs : List Char} {xs : List Float} : vector? cs = some xs ↔
    ∃ bs w bs', cs = bs ++ (w ++ bs') ∧ Blanks bs ∧ Blanks bs' ∧ Components w xs ∧
      2 ≤ xs.length := by
  rw [vector?_eq]
  constructor
  · intro h
    split at h
    · rename_i htwo
      obtain ⟨bs, w, bs', rfl, hb, hb', hw⟩ := components_of_split h
      rw [(split_components hw hb hb').2] at htwo
      exact ⟨bs, w, bs', rfl, hb, hb', hw, htwo⟩
    · cases h
  · rintro ⟨bs, w, bs', rfl, hb, hb', hw, htwo⟩
    obtain ⟨hmap, hlength⟩ := split_components hw hb hb'
    rw [hlength, if_pos htwo, hmap]

end Line

end Barrage
