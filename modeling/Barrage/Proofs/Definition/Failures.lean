import Barrage.Proofs.Definition.Attempts
import Barrage.Proofs.Definition.Stops

/-!
Where the rules of the grammar fail in a line.

A rule that does not match in a line fails furthest where the reading of the line stops. For values
this is less than plain: the rules for numbers are tried first and the rule for quotes is tried
next, but what numbers are written in is bare, so that only the quotes may come further than the
bare value does.
-/

namespace Barrage.Grammar

open Spelling

namespace Attempt

variable {α β : Type} {r : Attempt α} {f : α → Attempt β} {a : α} {p : Char → Bool}
  {cs x rest : List Char}

/-! ### The furthest failure -/

/-- Of all failures, none is further on than the one in front of `stop`. -/
structure Furthest (fails : List Char → Prop) (stop : List Char) : Prop where
  mem : fails stop
  length_le : ∀ x, fails x → stop.length ≤ x.length

lemma length_further (r s : List Char) :
    (Line.further r s).length ≤ r.length ∧ (Line.further r s).length ≤ s.length := by
  rw [Line.further]
  split <;> omega

lemma further_append (r s nl : List Char) :
    Line.further (r ++ nl) (s ++ nl) = Line.further r s ++ nl := by
  simp only [Line.further, List.length_append, Nat.add_lt_add_iff_right]
  split <;> rfl

/-- The furthest failure of a rule. -/
abbrev FailsAt (r : Attempt α) (cs stop : List Char) : Prop := Furthest (· ∈ r.failures cs) stop

section

variable {k : Attempt β} {stop w bs : List Char} {d : Char}

lemma failsAt_of_mem (h : ∀ x, x ∈ r.failures cs ↔ x = stop) : FailsAt r cs stop :=
  ⟨(h stop).mpr rfl, fun x hx => Nat.le_of_eq (congrArg List.length ((h x).mp hx).symm)⟩

lemma failsAt_bind (hr : r.rule cs = some (a, rest))
    (hle : ∀ x ∈ r.failures cs, stop.length ≤ x.length) (h : FailsAt (f a) rest stop) :
    FailsAt (r >>= f) cs stop := by
  constructor
  case mem => exact mem_bind.mpr (.inr ⟨a, rest, hr, h.mem⟩)
  case length_le =>
    intro x hx
    rcases mem_bind.mp hx with hx | ⟨a', rest', ha', hx⟩
    · exact hle x hx
    · rw [hr] at ha'
      cases ha'
      exact h.length_le x hx

/-- Where what is tried next does not come as far, it does not count. -/
lemma failsAt_bind_further {s t : List Char} (hr : r.rule cs = some (a, rest))
    (hmem : t ∈ r.failures cs)
    (hle : ∀ x ∈ r.failures cs, t.length ≤ x.length ∨ rest.length ≤ x.length)
    (h : FailsAt (f a) rest s) (hs : s.length ≤ rest.length) :
    FailsAt (r >>= f) cs (Line.further s t) := by
  obtain ⟨hle₁, hle₂⟩ := length_further s t
  constructor
  case mem =>
    rw [Line.further]
    split
    · exact mem_bind.mpr (.inl hmem)
    · exact mem_bind.mpr (.inr ⟨a, rest, hr, h.mem⟩)
  case length_le =>
    intro x hx
    rcases mem_bind.mp hx with hx | ⟨a', rest', ha', hx⟩
    · rcases hle x hx with hx | hx <;> omega
    · rw [hr] at ha'
      cases ha'
      exact Nat.le_trans hle₁ (h.length_le x hx)

lemma failsAt_bind_none (hr : r.rule cs = none) (h : FailsAt r cs stop) :
    FailsAt (r >>= f) cs stop := by
  rwa [FailsAt, failures_bind_of_none hr]

lemma failsAt_bind_pure {g : α → β} (h : FailsAt r cs stop) :
    FailsAt (r >>= fun a => pure (g a)) cs stop := by
  rwa [FailsAt, failures_bind_pure]

lemma failsAt_ws (hb : Blanks bs) (hblank : ∀ c ∈ rest.head?, Text.isBlank c = false)
    (h : FailsAt k rest stop) : FailsAt (do ws; k) (bs ++ rest) stop :=
  failsAt_bind (a := ()) (ws_eq_some.mpr ⟨bs, rfl, hb, hblank⟩) nofun h

lemma failsAt_char (h : FailsAt k cs stop) : FailsAt (do char d; k) (d :: cs) stop :=
  failsAt_bind (a := ()) (char_eq_some.mpr rfl) (fun _ hx => absurd rfl (mem_char.mp hx).2) h

lemma failsAt_char_none (h : cs.head? ≠ some d) : FailsAt (do char d; k) cs cs :=
  failsAt_bind_none (char_eq_none.mpr h)
    (failsAt_of_mem fun _ => by rw [mem_char, and_iff_left h])

lemma mem_plus (h : Span p w rest) : x ∈ (plus p).failures (w ++ rest) ↔ x = rest := by
  show x ∈ [(w ++ rest).dropWhile p] ↔ _
  rw [h.drop, List.mem_singleton]

lemma failsAt_plus {f : List Char → Attempt β} (hne : w ≠ []) (hw : Span p w rest)
    (hle : stop.length ≤ rest.length) (h : FailsAt (f w) rest stop) :
    FailsAt (plus p >>= f) (w ++ rest) stop :=
  failsAt_bind (plus_eq_some.mpr ⟨rfl, hne, hw⟩) (fun x hx => by rwa [(mem_plus hw).mp hx]) h

lemma failsAt_plus_none {f : List Char → Attempt β} (h : ∀ c ∈ cs.head?, p c = false) :
    FailsAt (plus p >>= f) cs cs :=
  failsAt_bind_none (plus_eq_none.mpr h)
    (failsAt_of_mem fun _ => mem_plus (w := []) ⟨by simp, h⟩)

end

/-! ### The furthest failure in a line -/

section

variable {ended : Bool} {after nl l stop w r bs : List Char} {d : Char}

lemma failures_lineEnd (cs : List Char) : lineEnd.failures cs = blank.failures cs := by
  have heof (cs : List Char) : (newline <|> quiet eof).failures cs = newline.failures cs := by
    rw [failures_orElse]
    rcases newline.rule cs with _ | a <;> simp [quiet]
  simp only [lineEnd, blank, failures_bind, heof]

lemma failures_comment (h : cs.head? ≠ some ';') : comment.failures cs = [cs] := by
  have hnone : (char ';').rule cs = none := char_eq_none.mpr h
  rw [comment, failures_bind_of_none hnone]
  exact if_neg h

lemma head_class (hf : Feed ended after nl) (hp : p '\n' = false)
    (h : ∀ c ∈ r.head?, p c = false) : ∀ c ∈ (r ++ nl).head?, p c = false := by
  rcases r with _ | ⟨c, r⟩
  · intro c hc
    rwa [hf.head c hc]
  · exact h

lemma head_ne (hf : Feed ended after nl) (hd : d ≠ '\n') (h : r.head? ≠ some d) :
    (r ++ nl).head? ≠ some d := by
  rcases r with _ | ⟨c, r⟩
  · exact fun hnl => hd (hf.head d hnl)
  · exact h

lemma failsAt_newline (h : cs.head? ≠ some '\r') (h' : cs.head? ≠ some '\n') :
    FailsAt newline cs cs := by
  have hopt : (opt (char '\r')).rule cs = some (none, cs) :=
    opt_eq_some.mpr (.inr ⟨rfl, rfl, char_eq_none.mpr h⟩)
  refine failsAt_bind hopt (fun x hx => ?_) (failsAt_of_mem fun x => ?_)
  · exact Nat.le_of_eq (congrArg List.length (mem_char.mp hx).1.symm)
  · rw [mem_char, and_iff_left h']

lemma failsAt_newline_feed (h : cs.head? ≠ some '\n') : FailsAt newline ('\r' :: cs) cs := by
  have hopt : (opt (char '\r')).rule ('\r' :: cs) = some (some (), cs) := rfl
  refine failsAt_bind hopt (fun x hx => ?_) (failsAt_of_mem fun x => ?_)
  · have hx : x ∈ (char '\r').failures ('\r' :: cs) := hx
    exact absurd rfl (mem_char.mp hx).2
  · rw [mem_char, and_iff_left h]

lemma failsAt_blank (h : Line.EndStop ended l stop) (hf : Feed ended after nl) (hn : '\n' ∉ l) :
    FailsAt blank (l ++ nl) (stop ++ nl) := by
  have hgap {bs cs : List Char} (hb : Blanks bs) (hblank : ∀ c ∈ cs.head?, Text.isBlank c = false)
      (hcomment : cs.head? ≠ some ';') {stop : List Char} (hle : stop.length ≤ cs.length)
      (h : FailsAt newline cs stop) : FailsAt blank (bs ++ cs) stop := by
    have hopt : (opt comment).rule cs = some (none, cs) :=
      opt_eq_some.mpr (.inr ⟨rfl, rfl, bind_of_eq_none (char_eq_none.mpr hcomment)⟩)
    refine failsAt_ws hb hblank (failsAt_bind hopt (fun x hx => ?_) h)
    have hx : x ∈ comment.failures cs := hx
    rw [failures_comment hcomment, List.mem_singleton] at hx
    rwa [hx]
  cases h with
  | @other bs r c hb hc hblank =>
    have hfeed : c ≠ '\n' := fun h => hn (by simp [h])
    rw [List.append_assoc]
    exact hgap hb (by simpa using hblank) (by simpa using hc.1) (Nat.le_refl _)
      (failsAt_newline (by simpa using hc.2) (by simpa using hfeed))
  | @feed bs _ hb hend =>
    have hhead : (stop ++ nl).head? ≠ some '\n' := by
      rcases stop with _ | ⟨c, r⟩
      · rw [hend rfl] at hf
        cases hf
        simp
      · rintro ⟨⟩
        simp at hn
    rw [List.append_assoc]
    exact hgap hb (by simp [Text.isBlank]) (by simp) (by simp) (failsAt_newline_feed hhead)

lemma failsAt_lineEnd (h : Line.EndStop ended l stop) (hf : Feed ended after nl) (hn : '\n' ∉ l) :
    FailsAt lineEnd (l ++ nl) (stop ++ nl) := by
  rw [FailsAt, failures_lineEnd]
  exact failsAt_blank h hf hn

lemma length_le_of_endStop (h : Line.EndStop ended l stop) : stop.length ≤ l.length := by
  obtain ⟨w, rfl, -⟩ := h.exists_ends
  simp

lemma failsAt_header (h : Line.HeaderStop ended l stop) (hf : Feed ended after nl)
    (hn : '\n' ∉ l) : FailsAt header (l ++ nl) (stop ++ nl) := by
  have hclass {name r : List Char} (hname : Span Line.isNameChar name r) (hn : '\n' ∉ name) :
      Span (fun c => c != ']' && c != '\n' && c != '\r') name (r ++ nl) :=
    hf.span hname hn rfl fun c hc => by simp [Line.isNameChar, bne_iff_ne.mpr hc]
  cases h with
  | @bracket bs _ hb hblank h =>
    rw [List.append_assoc]
    exact failsAt_ws hb (head_class hf rfl hblank) (failsAt_char_none (head_ne hf (by decide) h))
  | @name bs name _ hb hname h =>
    have hspan := hclass hname fun hmem => hn (by simp [hmem])
    rw [List.append_assoc, List.cons_append, List.append_assoc]
    refine failsAt_ws hb (by simp [Text.isBlank]) (failsAt_char ?_)
    by_cases hnil : name = []
    · subst hnil
      exact failsAt_plus_none hspan.outside
    · have hclose := head_ne hf (by decide) (h.resolve_left hnil)
      exact failsAt_plus hnil hspan (Nat.le_refl _) (failsAt_char_none hclose)
  | @tail bs name r _ hb hne hname h =>
    have hspan := hclass hname fun hmem => hn (by simp [hmem])
    have hr : '\n' ∉ r := fun hmem => hn (by simp [hmem])
    have hle := length_le_of_endStop h
    rw [List.append_assoc, List.cons_append, List.append_assoc]
    refine failsAt_ws hb (by simp [Text.isBlank]) (failsAt_char (failsAt_plus hne hspan ?_ ?_))
    · simp only [List.length_append, List.length_cons]
      omega
    · exact failsAt_char (failsAt_bind_pure (failsAt_lineEnd h hf hr))

/-- In quotes, a text goes on up to the next quote or to the end of the line. -/
lemma failsAt_quoted (hf : Feed ended after nl) (hn : '\n' ∉ l) :
    FailsAt quoted (l ++ nl) (Line.quotedStop l ++ nl) := by
  by_cases hquote : l.head? = some '"'
  · obtain ⟨cs, rfl⟩ := List.head?_eq_some_iff.mp hquote
    obtain ⟨text, r, rfl, hspan⟩ := Span.exists_split (· != '"') cs
    have hclass : Span (fun c => c != '"' && c != '\n') text (r ++ nl) :=
      hf.span hspan (fun hmem => hn (by simp [hmem])) rfl fun c hc => by simp [bne_iff_ne.mpr hc]
    rw [Line.quotedStop, hspan.drop, List.cons_append, List.append_assoc]
    -- the text ends in front of the quote, and behind it nothing counts
    refine failsAt_char ⟨mem_bind.mpr (.inl ((mem_plus hclass).mpr rfl)), fun x hx => ?_⟩
    rcases mem_bind.mp hx with hx | ⟨s, rest, hs, hx⟩
    · exact Nat.le_of_eq (congrArg List.length ((mem_plus hclass).mp hx).symm)
    · obtain ⟨heq, hspan'⟩ := star_eq_some.mp hs
      obtain ⟨-, rfl⟩ := hclass.unique hspan' heq
      rcases mem_bind.mp hx with hx | ⟨_, _, -, hx⟩
      · exact Nat.le_of_eq (congrArg List.length (mem_char.mp hx).1.symm)
      · rcases mem_bind.mp hx with hx | ⟨_, _, -, hx⟩
        · cases hx
        · cases hx
  · rw [Line.quotedStop_of_ne hquote]
    exact failsAt_char_none (head_ne hf (by decide) hquote)

lemma exact_eq_none (hf : Feed ended after nl) (hn : '\n' ∉ l)
    (hstrict : ∀ v, ¬ Strict (Line.Ends ended) l v) :
    (Grammar.vector <|> Grammar.number <|> Grammar.quoted) (l ++ nl) = none :=
  eq_none_of_forall fun v _ h => hstrict v (strict_of_rule hf hn h).1

/-- A value that is not spelled exactly fails in quotes or behind what is bare of it. -/
lemma fails_value (hf : Feed ended after nl) (hn : '\n' ∉ w ++ r) (hw : Span Line.isBare w r)
    (hstrict : ∀ v, ¬ Strict (Line.Ends ended) (w ++ r) v) :
    Line.quotedStop (w ++ r) ++ nl ∈ value.failures (w ++ r ++ nl) ∧
      ∀ x ∈ value.failures (w ++ r ++ nl),
        (Line.quotedStop (w ++ r) ++ nl).length ≤ x.length ∨ (r ++ nl).length ≤ x.length := by
  have hnone := exact_eq_none hf hn hstrict
  rw [orElse_apply, orElse_apply, Option.or_eq_none_iff, Option.or_eq_none_iff] at hnone
  obtain ⟨hvector, hnumber, -⟩ := hnone
  rw [← rule_vector] at hvector
  rw [← rule_number] at hnumber
  have hquoted := failsAt_quoted hf hn
  have hspan : Span (fun c => c != ';' && c != '\n' && c != '\r') w (r ++ nl) :=
    hf.span hw (fun hmem => hn (List.mem_append_left _ hmem)) rfl fun c hc => by
      simp [Line.isBare, bne_iff_ne.mpr hc]
  have hnumeric {x : List Char} (hx : Past isNumeric (w ++ r ++ nl) x) :
      (r ++ nl).length ≤ x.length := by
    rw [List.append_assoc] at hx
    refine (hx.mono fun c hc => ?_).length_le hspan
    have hfeed : c ≠ '\n' := by
      rintro rfl
      cases hc
    simpa [hfeed] using Line.isBare_iff.mp (Line.isBare_of_numeric hc)
  constructor
  · exact mem_orElse.mpr (.inr ⟨hvector, mem_orElse.mpr (.inr ⟨hnumber,
      mem_orElse.mpr (.inl hquoted.mem)⟩)⟩)
  · intro x hx
    rcases mem_orElse.mp hx with hx | ⟨-, hx⟩
    · exact .inr (hnumeric (within_vector.fails _ x hx))
    · rcases mem_orElse.mp hx with hx | ⟨-, hx⟩
      · exact .inr (hnumeric (within_number.fails _ x hx))
      · rcases mem_orElse.mp hx with hx | ⟨-, hx⟩
        · exact .inl (hquoted.length_le x hx)
        · rw [bare, failures_bind_pure, List.append_assoc, mem_plus hspan] at hx
          exact .inr (Nat.le_of_eq (congrArg List.length hx.symm))

lemma length_le_of_valueStop (h : Line.ValueStop ended l stop)
    (hblank : ∀ c ∈ l.head?, Text.isBlank c = false) : stop.length ≤ l.length := by
  obtain ⟨w, rfl, -⟩ := h.begins hblank
  simp

lemma failsAt_value {g : Value → β} (h : Line.ValueStop ended l stop) (hf : Feed ended after nl)
    (hn : '\n' ∉ l) :
    FailsAt (do
      let v ← value
      lineEnd
      return g v) (l ++ nl) (stop ++ nl) := by
  have hrule (hstrict : ∀ v, ¬ Strict (Line.Ends ended) l v) :
      value.rule (l ++ nl) = Grammar.bare (l ++ nl) := by
    rw [rule_value, value_apply, exact_eq_none hf hn hstrict, Option.none_or]
  cases h with
  | empty h hstrict =>
    have hclass : ∀ c ∈ l.head?, (c != ';' && c != '\n' && c != '\r') = false := fun c hc => by
      have := h c hc
      simp_all [Line.isBare]
    have hnone : value.rule (l ++ nl) = none := by
      rw [hrule hstrict]
      exact bind_of_eq_none (plus_eq_none.mpr (head_class hf rfl hclass))
    have hquote : l.head? ≠ some '"' := fun hc => by cases h '"' hc
    obtain ⟨hmem, hle⟩ := fails_value (w := []) hf hn ⟨by simp, h⟩ hstrict
    rw [List.nil_append, Line.quotedStop_of_ne hquote] at hmem hle
    exact failsAt_bind_none hnone ⟨hmem, fun x hx => (hle x hx).elim id id⟩
  | @bare w r hne hw hend hstrict =>
    have hbare : Bare w ('\r' :: r) :=
      ⟨hne, fun c hc => Line.isBare_iff.mp (hw.inside c hc), by simp⟩
    have hsome : value.rule (w ++ '\r' :: r ++ nl) =
        some (.string (String.ofList (Text.trimEnd w)), '\r' :: r ++ nl) := by
      rw [hrule hstrict]
      exact (bare_eq_some hf hn).mpr ⟨w, '\r' :: r, rfl, rfl, hbare, rfl⟩
    have hstop : Line.EndStop ended ([] ++ '\r' :: r) r := .feed (by simp [Blanks]) hend
    have hend' : FailsAt lineEnd ('\r' :: r ++ nl) (r ++ nl) :=
      failsAt_lineEnd hstop hf fun hmem => hn (List.mem_append_right _ hmem)
    obtain ⟨hmem, hle⟩ := fails_value hf hn hw hstrict
    rw [← further_append]
    exact failsAt_bind_further hsome hmem hle (failsAt_bind_pure hend') (by simp)

lemma failsAt_key {f : String → Attempt β} {stop : List Char} (hne : w ≠ [])
    (hw : Span Line.isKeyChar w rest) (hle : stop.length ≤ rest.length)
    (h : ∀ k, FailsAt (f k) rest stop) : FailsAt (key >>= f) (w ++ rest) stop := by
  have hplus : (plus Line.isKeyChar).rule (w ++ rest) = some (w, rest) :=
    plus_eq_some.mpr ⟨rfl, hne, hw⟩
  refine failsAt_bind (bind_of_eq_some hplus) (fun x hx => ?_) (h _)
  rw [key, failures_bind_pure, mem_plus hw] at hx
  rwa [hx]

lemma failsAt_key_none {f : String → Attempt β} (h : ∀ c ∈ cs.head?, Line.isKeyChar c = false) :
    FailsAt (key >>= f) cs cs :=
  failsAt_bind_none (bind_of_eq_none (plus_eq_none.mpr h)) (failsAt_plus_none h)

lemma failsAt_entry (h : Line.EntryStop ended l stop) (hf : Feed ended after nl)
    (hn : '\n' ∉ l) : FailsAt entry (l ++ nl) (stop ++ nl) := by
  have hclass {key rest : List Char} (hkey : Span Line.isKeyChar key rest) (hn : '\n' ∉ key) :
      Span Line.isKeyChar key (rest ++ nl) := hf.span hkey hn rfl fun _ _ => rfl
  have hhead {key rest : List Char} (hne : key ≠ []) (hkey : ∀ c ∈ key, Line.isKeyChar c = true) :
      ∀ c ∈ (key ++ rest).head?, Text.isBlank c = false := by
    obtain ⟨c, key, rfl⟩ := List.exists_cons_of_ne_nil hne
    intro d hd
    cases hd
    exact Line.not_blank_of_keyChar (Line.isKeyChar_iff.mp (hkey c List.mem_cons_self))
  cases h with
  | @key bs _ hb hblank h =>
    rw [List.append_assoc]
    exact failsAt_ws hb (head_class hf rfl hblank) (failsAt_key_none (head_class hf rfl h))
  | @sign bs key bs' _ hb hne hkey hb' hblank h =>
    have hspan := hclass hkey fun hmem => hn (by simp [hmem])
    rw [List.append_assoc, List.append_assoc]
    refine failsAt_ws hb (hhead hne hkey.inside) (failsAt_key hne hspan (by simp) fun k => ?_)
    rw [List.append_assoc]
    exact failsAt_ws hb' (head_class hf rfl hblank) (failsAt_char_none (head_ne hf (by decide) h))
  | @value bs key bs' bs'' r _ hb hne hkey hb' hb'' hblank h =>
    have hspan := hclass hkey fun hmem => hn (by simp [hmem])
    have hr : '\n' ∉ r := fun hmem => hn (by simp [hmem])
    have hle := length_le_of_valueStop h hblank
    rw [List.append_assoc, List.append_assoc]
    refine failsAt_ws hb (hhead hne hkey.inside) (failsAt_key hne hspan ?_ fun k => ?_)
    · simp only [List.length_append, List.length_cons]
      omega
    · rw [List.append_assoc, List.cons_append, List.append_assoc]
      refine failsAt_ws hb' (by simp [Text.isBlank]) (failsAt_char ?_)
      exact failsAt_ws hb'' (head_class hf rfl hblank) (failsAt_value h hf hr)

end

end Attempt

end Barrage.Grammar
