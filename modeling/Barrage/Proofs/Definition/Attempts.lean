import Barrage.Definition.Attempt
import Barrage.Proofs.Definition.Scannerless

/-!
What is tried, and what is read of a text before it fails.

An attempt is its rule, and it fails where its parts do, as far as these come to be tried. All that
the rules for numbers read before they fail is characters of numbers, all that the rules for a line
read is in the line, and what a file fails in front of is a rest of the text.
-/

namespace Barrage.Grammar

open Spelling

/-- `x` is left of a text behind some characters of a class. -/
def Past (p : Char → Bool) (cs x : List Char) : Prop := ∃ w, cs = w ++ x ∧ ∀ c ∈ w, p c = true

namespace Past

variable {p q : Char → Bool} {cs x y w rest : List Char}

lemma refl (p : Char → Bool) (cs : List Char) : Past p cs cs := ⟨[], rfl, by simp⟩

lemma trans (h : Past p cs x) (h' : Past p x y) : Past p cs y := by
  obtain ⟨w, rfl, hw⟩ := h
  obtain ⟨w', rfl, hw'⟩ := h'
  exact ⟨w ++ w', by simp, List.forall_mem_append.mpr ⟨hw, hw'⟩⟩

lemma mono (hpq : ∀ c, p c = true → q c = true) (h : Past p cs x) : Past q cs x := by
  obtain ⟨w, rfl, hw⟩ := h
  exact ⟨w, rfl, fun c hc => hpq c (hw c hc)⟩

lemma cons {c : Char} (hc : p c = true) : Past p (c :: cs) cs := ⟨[c], rfl, by simpa using hc⟩

lemma dropWhile (p : Char → Bool) (cs : List Char) : Past p cs (cs.dropWhile p) := by
  obtain ⟨w, rest, rfl, hspan⟩ := Span.exists_split p cs
  rw [hspan.drop]
  exact ⟨w, rfl, hspan.inside⟩

/-- Characters of a class do not lead beyond the first one that is of another. -/
lemma length_le (h : Past p (w ++ rest) x) (hspan : Span p w rest) : rest.length ≤ x.length := by
  obtain ⟨w', heq, hw'⟩ := h
  rw [← hspan.drop, heq, List.dropWhile_append_of_pos hw']
  exact (List.dropWhile_suffix p).length_le

end Past

namespace Attempt

variable {α β : Type} {r r' : Attempt α} {f : α → Attempt β} {a : α} {p q : Char → Bool}
  {cs x rest : List Char}

/-! ### Operators -/

lemma failures_bind (r : Attempt α) (f : α → Attempt β) (cs : List Char) :
    (r >>= f).failures cs = r.failures cs ++ match r.rule cs with
      | none => []
      | some (a, rest) => (f a).failures rest := rfl

lemma failures_bind_of_some (h : r.rule cs = some (a, rest)) :
    (r >>= f).failures cs = r.failures cs ++ (f a).failures rest := by
  rw [failures_bind, h]

lemma failures_bind_of_none (h : r.rule cs = none) :
    (r >>= f).failures cs = r.failures cs := by
  rw [failures_bind, h, List.append_nil]

lemma mem_bind : x ∈ (r >>= f).failures cs ↔
    x ∈ r.failures cs ∨ ∃ a rest, r.rule cs = some (a, rest) ∧ x ∈ (f a).failures rest := by
  rw [failures_bind, List.mem_append]
  rcases r.rule cs with _ | ⟨a, rest⟩ <;> simp

lemma failures_pure (a : α) (cs : List Char) : (pure a : Attempt α).failures cs = [] := rfl

lemma failures_bind_pure {g : α → β} :
    (r >>= fun a => pure (g a)).failures cs = r.failures cs := by
  rw [failures_bind]
  rcases r.rule cs with _ | ⟨a, rest⟩ <;> simp [failures_pure]

lemma failures_orElse (r r' : Attempt α) (cs : List Char) :
    (r <|> r').failures cs = r.failures cs ++ match r.rule cs with
      | none => r'.failures cs
      | some _ => [] := rfl

lemma mem_orElse :
    x ∈ (r <|> r').failures cs ↔ x ∈ r.failures cs ∨ (r.rule cs = none ∧ x ∈ r'.failures cs) := by
  rw [failures_orElse, List.mem_append]
  rcases r.rule cs with _ | ⟨a, rest⟩ <;> simp

lemma mem_char {d : Char} : x ∈ (char d).failures cs ↔ x = cs ∧ cs.head? ≠ some d := by
  show x ∈ (if cs.head? = some d then [] else [cs]) ↔ _
  split
  · rename_i h
    simp [h]
  · rename_i h
    simp [h]

lemma mem_many : x ∈ (many r).failures cs ↔ x ∈ r.failures cs ∨
    ∃ a rest, r.rule cs = some (a, rest) ∧ rest.length < cs.length ∧
      x ∈ (many r).failures rest := by
  show x ∈ failuresOfMany r cs ↔ _
  rw [failuresOfMany, List.mem_append]
  rcases r.rule cs with _ | ⟨a, rest⟩
  · simp
  · by_cases hlt : rest.length < cs.length
    · simp [hlt, many]
    · simp [hlt]

/-! ### What is tried is the grammar -/

lemma rule_bind (r : Attempt α) (f : α → Attempt β) :
    (r >>= f).rule = r.rule >>= fun a => (f a).rule := rfl

lemma rule_orElse (r r' : Attempt α) : (r <|> r').rule = (r.rule <|> r'.rule) := rfl

lemma rule_map (g : α → β) (r : Attempt α) : (g <$> r).rule = g <$> r.rule := rfl

lemma rule_many (r : Attempt α) : (many r).rule = Grammar.many r.rule := rfl

lemma rule_blank : blank.rule = Grammar.blank := rfl

lemma rule_integer : integer.rule = Grammar.integer := by
  rw [integer, rule_bind, Grammar.integer]
  congr 1
  funext n
  rcases n.word? with _ | i <;> rfl

lemma rule_scalar : scalar.rule = Grammar.scalar := by
  rw [scalar, rule_orElse, rule_map, rule_integer]
  rfl

lemma rule_component : component.rule = Grammar.component := by
  simp only [component, rule_bind, rule_scalar]
  rfl

lemma rule_vector : vector.rule = Grammar.vector := by
  simp only [vector, rule_bind, rule_many, rule_scalar, rule_component]
  rfl

lemma rule_number : number.rule = Grammar.number := by
  simp only [number, rule_orElse, rule_bind, rule_integer]
  rfl

lemma rule_value : value.rule = Grammar.value := by
  simp only [value, rule_orElse, rule_vector, rule_number]
  rfl

lemma rule_entry : entry.rule = Grammar.entry := by
  simp only [entry, rule_bind, rule_value]
  rfl

lemma rule_spacedEntry : spacedEntry.rule = Grammar.spacedEntry := by
  rw [spacedEntry, rule_bind, rule_entry]
  rfl

lemma rule_group : group.rule = Grammar.group := by
  simp only [group, rule_bind, rule_many, rule_spacedEntry]
  rfl

/-- **What is tried is the grammar.** -/
theorem rule_file : file.rule = Grammar.file := by
  simp only [file, rule_bind, rule_many, rule_group]
  rfl

/-! ### Classes of characters -/

/-- A rule fails where only characters of a class stand in front. -/
def FailsWithin (p : Char → Bool) (r : Attempt α) : Prop :=
  ∀ cs x, x ∈ r.failures cs → Past p cs x

/-- A rule reads characters of a class only. -/
structure Within (p : Char → Bool) (r : Attempt α) : Prop where
  reads : ∀ cs a rest, r.rule cs = some (a, rest) → Past p cs rest
  fails : FailsWithin p r

lemma FailsWithin.bind (hr : Within p r) (hf : ∀ a, FailsWithin p (f a)) :
    FailsWithin p (r >>= f) := by
  intro cs x hx
  rcases mem_bind.mp hx with hx | ⟨a, rest, ha, hx⟩
  · exact hr.fails cs x hx
  · exact (hr.reads cs a rest ha).trans (hf a rest x hx)

lemma FailsWithin.orElse (hr : FailsWithin p r) (hr' : FailsWithin p r') :
    FailsWithin p (r <|> r') := by
  intro cs x hx
  rcases mem_orElse.mp hx with hx | ⟨-, hx⟩
  · exact hr cs x hx
  · exact hr' cs x hx

lemma failsWithin_char (p : Char → Bool) (d : Char) : FailsWithin p (char d) := by
  intro cs x hx
  rw [(mem_char.mp hx).1]
  exact .refl p cs

lemma failsWithin_quiet (p : Char → Bool) (r : Rule α) : FailsWithin p (quiet r) := nofun

namespace Within

lemma mono (hpq : ∀ c, p c = true → q c = true) (h : Within p r) : Within q r :=
  ⟨fun cs a rest ha => (h.reads cs a rest ha).mono hpq, fun cs x hx => (h.fails cs x hx).mono hpq⟩

lemma pure (p : Char → Bool) (a : α) : Within p (Pure.pure a) := by
  refine ⟨fun cs b rest hb => ?_, nofun⟩
  rw [(pure_eq_some.mp hb).2]
  exact .refl p cs

lemma bind (hr : Within p r) (hf : ∀ a, Within p (f a)) : Within p (r >>= f) := by
  refine ⟨fun cs b rest hb => ?_, .bind hr fun a => (hf a).fails⟩
  obtain ⟨a, cs', ha, hb⟩ := bind_eq_some.mp hb
  exact (hr.reads cs a cs' ha).trans ((hf a).reads cs' b rest hb)

lemma orElse (hr : Within p r) (hr' : Within p r') : Within p (r <|> r') := by
  refine ⟨fun cs a rest ha => ?_, .orElse hr.fails hr'.fails⟩
  rw [rule_orElse, orElse_apply, Option.or_eq_some_iff] at ha
  rcases ha with ha | ⟨-, ha⟩
  · exact hr.reads cs a rest ha
  · exact hr'.reads cs a rest ha

lemma map (g : α → β) (hr : Within p r) : Within p (g <$> r) := by
  refine ⟨fun cs b rest hb => ?_, hr.fails⟩
  obtain ⟨a, ha, -⟩ := map_eq_some.mp hb
  exact hr.reads cs a rest ha

lemma opt (hr : Within p r) : Within p (opt r) := by
  refine ⟨fun cs o rest ho => ?_, hr.fails⟩
  rcases opt_eq_some.mp ho with ⟨a, -, ha⟩ | ⟨-, rfl, -⟩
  · exact hr.reads cs a rest ha
  · exact .refl p rest

lemma many (hr : Within p r) : Within p (many r) := by
  constructor
  case reads =>
    intro cs as rest has
    rw [rule_many] at has
    induction as generalizing cs with
    | nil =>
      rw [rest_of_many_nil has]
      exact .refl p cs
    | cons a as ih =>
      obtain ⟨cs', ha, -, has⟩ := many_cons.mp has
      exact (hr.reads cs a cs' ha).trans (ih cs' has)
  case fails =>
    intro cs x hx
    induction hn : cs.length using Nat.strongRecOn generalizing cs with
    | ind n ih =>
      subst hn
      rcases mem_many.mp hx with hx | ⟨a, rest, ha, hlt, hx⟩
      · exact hr.fails cs x hx
      · exact (hr.reads cs a rest ha).trans (ih rest.length hlt rest hx rfl)

lemma char {d : Char} (hd : p d = true) : Within p (char d) := by
  refine ⟨fun cs _ rest h => ?_, failsWithin_char p d⟩
  rw [char_eq_some.mp h]
  exact .cons hd

lemma star (hqp : ∀ c, q c = true → p c = true) : Within p (star q) := by
  refine ⟨fun cs w rest h => ?_, fun cs x hx => ?_⟩
  · obtain ⟨rfl, hspan⟩ := star_eq_some.mp h
    exact ⟨w, rfl, fun c hc => hqp c (hspan.inside c hc)⟩
  · rw [List.mem_singleton.mp hx]
    exact (Past.dropWhile q cs).mono hqp

lemma plus (hqp : ∀ c, q c = true → p c = true) : Within p (plus q) := by
  refine ⟨fun cs w rest h => ?_, (star hqp).fails⟩
  obtain ⟨rfl, -, hspan⟩ := plus_eq_some.mp h
  exact ⟨w, rfl, fun c hc => hqp c (hspan.inside c hc)⟩

lemma ws (hp : ∀ c, Text.isBlank c = true → p c = true) : Within p ws := by
  refine ⟨fun cs _ rest h => ?_, nofun⟩
  obtain ⟨bs, rfl, hb, -⟩ := ws_eq_some.mp h
  exact ⟨bs, rfl, fun c hc => hp c (Line.blanks_iff.mp hb c hc)⟩

lemma ahead (p : Char → Bool) (r : Rule α) : Within p (quiet (ahead r)) := by
  refine ⟨fun cs _ rest h => ?_, nofun⟩
  rw [(ahead_eq_some.mp h).1]
  exact .refl p cs

lemma check (p : Char → Bool) (o : Option α) : Within p (check o) := by
  rcases o with _ | a
  · refine ⟨nofun, fun cs x hx => ?_⟩
    rw [List.mem_singleton.mp hx]
    exact .refl p cs
  · exact .pure p a

end Within

/-! ### Rules that fail in a line -/

lemma numeric_digit {c : Char} (h : Numeral.isDigit c = true) : isNumeric c = true := by
  simp [isNumeric, h]

lemma numeric_blank {c : Char} (h : Text.isBlank c = true) : isNumeric c = true := by
  simp [isNumeric, h]

lemma within_whole : Within isNumeric whole :=
  (Within.char rfl).opt.bind fun _ => (Within.plus fun _ => numeric_digit).bind fun _ => .pure _ _

lemma within_float : Within isNumeric float :=
  within_whole.bind fun _ => (Within.char rfl).bind fun _ =>
    (Within.plus fun _ => numeric_digit).opt.bind fun _ => .pure _ _

lemma within_integer : Within isNumeric integer := within_whole.bind fun _ => .check _ _

lemma within_scalar : Within isNumeric scalar := within_float.orElse (within_integer.map _)

lemma within_component : Within isNumeric component :=
  (Within.ws fun _ => numeric_blank).bind fun _ => (Within.char rfl).bind fun _ =>
    (Within.ws fun _ => numeric_blank).bind fun _ => within_scalar

lemma within_vector : Within isNumeric vector :=
  within_scalar.bind fun _ => within_component.bind fun _ => within_component.many.bind fun _ =>
    (Within.ahead _ _).bind fun _ => .pure _ _

lemma within_number : Within isNumeric number :=
  (within_float.bind fun _ => (Within.ahead _ _).bind fun _ => .pure _ _).orElse
    (within_integer.bind fun _ => (Within.ahead _ _).bind fun _ => .pure _ _)

/-- All characters but the line feed. -/
def inLine (c : Char) : Bool := c != '\n'

lemma inLine_of_ne {c : Char} (h : c ≠ '\n') : inLine c = true := by simpa [inLine] using h

lemma inLine_numeric {c : Char} (h : isNumeric c = true) : inLine c = true :=
  inLine_of_ne fun hc => by rw [hc] at h; cases h

lemma inLine_blank {c : Char} (h : Text.isBlank c = true) : inLine c = true :=
  inLine_numeric (numeric_blank h)

lemma within_quoted : Within inLine quoted :=
  (Within.char rfl).bind fun _ => (Within.star fun c hc => by simp_all [inLine]).bind fun _ =>
    (Within.char rfl).bind fun _ => (Within.ahead _ _).bind fun _ => .pure _ _

lemma within_bare : Within inLine bare :=
  (Within.plus fun c hc => by simp_all [inLine]).bind fun _ => .pure _ _

lemma within_value : Within inLine value :=
  (within_vector.mono fun _ => inLine_numeric).orElse
    ((within_number.mono fun _ => inLine_numeric).orElse (within_quoted.orElse within_bare))

lemma within_ws : Within inLine ws := .ws fun _ => inLine_blank

lemma within_comment : Within inLine comment :=
  (Within.char rfl).bind fun _ => (Within.star fun _ hc => hc).bind fun _ => .pure _ _

lemma failsWithin_newline : FailsWithin inLine newline :=
  .bind (Within.char rfl).opt fun _ => failsWithin_char _ _

lemma failsWithin_blank : FailsWithin inLine blank :=
  .bind within_ws fun _ => .bind within_comment.opt fun _ => failsWithin_newline

lemma failsWithin_lineEnd : FailsWithin inLine lineEnd :=
  .bind within_ws fun _ => .bind within_comment.opt fun _ =>
    failsWithin_newline.orElse (failsWithin_quiet _ _)

lemma FailsWithin.bind_pure {g : α → β} (hr : FailsWithin p r) :
    FailsWithin p (r >>= fun a => pure (g a)) := by
  intro cs x hx
  rw [failures_bind_pure] at hx
  exact hr cs x hx

lemma failsWithin_header : FailsWithin inLine header :=
  .bind within_ws fun _ => .bind (.char rfl) fun _ =>
    .bind (.plus fun c hc => by simp_all [inLine]) fun _ => .bind (.char rfl) fun _ =>
    failsWithin_lineEnd.bind_pure

lemma within_key : Within inLine key :=
  (Within.plus fun c hc => inLine_of_ne fun h => by rw [h] at hc; cases hc).bind fun _ => .pure _ _

lemma failsWithin_entry : FailsWithin inLine entry :=
  .bind within_ws fun _ => .bind within_key fun _ => .bind within_ws fun _ =>
    .bind (.char rfl) fun _ => .bind within_ws fun _ => .bind within_value fun _ =>
    failsWithin_lineEnd.bind_pure

/-! ### The rests of a text -/

/-- Every character. -/
def anything (_ : Char) : Bool := true

lemma Within.anything {α : Type} {p : Char → Bool} {r : Attempt α} (h : Within p r) :
    Within anything r :=
  h.mono fun _ _ => rfl

lemma within_newline : Within anything newline :=
  (Within.char rfl).opt.bind fun _ => .char rfl

lemma within_blank : Within anything blank :=
  within_ws.anything.bind fun _ => within_comment.anything.opt.bind fun _ => within_newline

lemma within_eof : Within anything (quiet eof) := by
  refine ⟨fun cs _ rest h => ?_, nofun⟩
  obtain ⟨rfl, rfl⟩ := eof_eq_some.mp h
  exact .refl _ _

lemma within_lineEnd : Within anything lineEnd :=
  within_ws.anything.bind fun _ => within_comment.anything.opt.bind fun _ =>
    within_newline.orElse within_eof

lemma within_header : Within anything header :=
  within_ws.anything.bind fun _ => (Within.char rfl).bind fun _ =>
    (Within.plus fun _ _ => rfl).bind fun _ => (Within.char rfl).bind fun _ =>
    within_lineEnd.bind fun _ => .pure _ _

lemma within_entry : Within anything entry :=
  within_ws.anything.bind fun _ => within_key.anything.bind fun _ =>
    within_ws.anything.bind fun _ => (Within.char rfl).bind fun _ =>
    within_ws.anything.bind fun _ => within_value.anything.bind fun _ =>
    within_lineEnd.bind fun _ => .pure _ _

lemma within_group : Within anything group :=
  within_blank.many.bind fun _ => within_header.bind fun _ =>
    (within_blank.many.bind fun _ => within_entry).many.bind fun _ => .pure _ _

/-- What is read and what fails is in the text. -/
lemma within_file : Within anything file :=
  within_group.many.bind fun _ => within_blank.many.bind fun _ => within_ws.anything.bind fun _ =>
    within_comment.anything.opt.bind fun _ => .pure _ _

end Attempt

end Barrage.Grammar
