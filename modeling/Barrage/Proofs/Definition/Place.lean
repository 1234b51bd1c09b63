import Barrage.Proofs.Definition.Failures

/-!
The place that is reported of a text that is no definition.

Whatever is tried of a text is tried line by line: a line that says something leaves its failures in
front of its end, and the line that says nothing is where all rules that are tried there fail. So
the furthest failure of all is the place where the reading of that line stops, and this is the place
that is reported. It is honest: what stands in front of it is the beginning of a definition.
-/

namespace Barrage.Grammar

open Spelling

variable {β : Type} {inGroup ended : Bool} {l cs after nl rest stop x : List Char} {u : Unit}

namespace Attempt

/-! ### Blank lines -/

lemma mem_skip_blank (h : Grammar.blank cs = some (u, after)) (k : Attempt β) :
    x ∈ (do
      let _ ← many blank
      k).failures cs ↔ x ∈ blank.failures cs ∨ x ∈ (do
      let _ ← many blank
      k).failures after := by
  have hlt := length_lt_of_blank h
  obtain ⟨us, rest, hafter⟩ := exists_many Grammar.blank after
  have hcs : (many blank).rule cs = some (u :: us, rest) := many_cons.mpr ⟨after, h, hlt, hafter⟩
  have hafter : (many blank).rule after = some (us, rest) := hafter
  have hmany : x ∈ (many blank).failures cs ↔
      x ∈ blank.failures cs ∨ x ∈ (many blank).failures after := by
    rw [mem_many, rule_blank, h]
    simp [hlt]
  rw [failures_bind_of_some hcs, failures_bind_of_some hafter, List.mem_append, List.mem_append,
    hmany, or_assoc]

lemma mem_skip_nothing (h : Grammar.blank cs = none) (k : Attempt β) :
    x ∈ (do
      let _ ← many blank
      k).failures cs ↔ x ∈ blank.failures cs ∨ x ∈ k.failures cs := by
  have hcs : (many blank).rule cs = some ([], cs) := many_of_eq_none h
  have hmany : x ∈ (many blank).failures cs ↔ x ∈ blank.failures cs := by
    rw [mem_many, rule_blank, h]
    simp
  rw [failures_bind_of_some hcs, List.mem_append, hmany]

/-! ### Files -/

/-- What may stand behind the last group. -/
def coda : Attempt Unit := do
  let _ ← many blank
  ws
  let _ ← opt comment
  return ()

lemma mem_file {gs : List Group} (h : Grammar.many Grammar.group cs = some (gs, rest)) :
    x ∈ file.failures cs ↔ x ∈ (many group).failures cs ∨ x ∈ coda.failures rest := by
  have hgroups : (many group).rule cs = some (gs, rest) := by rw [rule_many, rule_group, h]
  rw [file, failures_bind_of_some hgroups, List.mem_append, coda]
  simp only [failures_bind, failures_pure]

lemma mem_file_of_group {g : Group} (h : Grammar.group cs = some (g, rest)) :
    x ∈ file.failures cs ↔ x ∈ group.failures cs ∨ x ∈ file.failures rest := by
  have hlt := length_lt_of_group h
  obtain ⟨gs, t, hrest⟩ := exists_many Grammar.group rest
  rw [mem_file hrest, mem_file (many_cons.mpr ⟨rest, h, hlt, hrest⟩), mem_many, rule_group, h]
  simp [hlt, or_assoc]

lemma mem_file_of_none (h : Grammar.group cs = none) :
    x ∈ file.failures cs ↔ x ∈ group.failures cs ∨ x ∈ coda.failures cs := by
  rw [mem_file (many_of_eq_none h), mem_many, rule_group, h]
  simp

lemma mem_file_of_blank (h : Grammar.blank cs = some (u, after)) :
    x ∈ file.failures cs ↔ x ∈ blank.failures cs ∨ x ∈ file.failures after := by
  have hgroup : Grammar.group cs = Grammar.group after := skip_blank h _
  rcases hg : Grammar.group after with _ | ⟨g, rest⟩
  · rw [mem_file_of_none hg, mem_file_of_none (hgroup.trans hg), group, coda, mem_skip_blank h,
      mem_skip_blank h]
    tauto
  · rw [mem_file_of_group hg, mem_file_of_group (hgroup.trans hg), group, mem_skip_blank h,
      or_assoc]

/-- Where a file ends, a comment has failed or has come to its end. -/
lemma mem_of_file {gs : List Group} (h : Grammar.file cs = some (gs, x)) :
    x ∈ file.failures cs := by
  rw [← rule_file] at h
  obtain ⟨gs', t, hgroups, h⟩ := bind_eq_some.mp h
  obtain ⟨us, t', hblank, h⟩ := bind_eq_some.mp h
  obtain ⟨u, t'', hws, h⟩ := bind_eq_some.mp h
  obtain ⟨o, t₃, ho, h⟩ := bind_eq_some.mp h
  obtain ⟨-, rfl⟩ := pure_eq_some.mp h
  have hcomment : x ∈ comment.failures t'' := by
    rcases opt_eq_some.mp ho with ⟨_, -, hsome⟩ | ⟨-, rfl, hnone⟩
    · obtain ⟨_, cs', hsign, hstar⟩ := bind_eq_some.mp hsome
      obtain ⟨text, rest, htext, hrest⟩ := bind_eq_some.mp hstar
      obtain ⟨rfl, hspan⟩ := star_eq_some.mp htext
      obtain ⟨-, rfl⟩ := pure_eq_some.mp hrest
      exact mem_bind.mpr (.inr ⟨(), _, hsign, mem_bind.mpr (.inl ((mem_plus hspan).mpr rfl))⟩)
    · refine mem_bind.mpr (.inl (mem_char.mpr ⟨rfl, fun hhead => ?_⟩))
      obtain ⟨r, rfl⟩ := List.head?_eq_some_iff.mp hhead
      cases hnone
  exact mem_bind.mpr (.inr ⟨gs', t, hgroups, mem_bind.mpr (.inr ⟨us, t', hblank,
    mem_bind.mpr (.inr ⟨u, t'', hws, mem_bind.mpr (.inl hcomment)⟩)⟩)⟩)

/-- What fails behind a header counts, and so does what fails behind the group. -/
def Fails (inGroup : Bool) (cs x : List Char) : Prop :=
  match inGroup with
  | false => x ∈ file.failures cs
  | true => x ∈ (many spacedEntry).failures cs ∨
      ∃ es t, Grammar.many Grammar.spacedEntry cs = some (es, t) ∧ x ∈ file.failures t

lemma fails_of_spacedEntry {e : String × Value} (h : Grammar.spacedEntry cs = some (e, rest)) :
    Fails true cs x ↔ x ∈ spacedEntry.failures cs ∨ Fails true rest x := by
  have hlt := length_lt_of_spacedEntry h
  obtain ⟨es, t, hrest⟩ := exists_many Grammar.spacedEntry rest
  have hcs : Grammar.many Grammar.spacedEntry cs = some (e :: es, t) :=
    many_cons.mpr ⟨rest, h, hlt, hrest⟩
  simp only [Fails]
  rw [mem_many, rule_spacedEntry, h, hcs, hrest]
  simp [hlt, or_assoc]

lemma fails_of_none (h : Grammar.spacedEntry cs = none) :
    Fails true cs x ↔ x ∈ spacedEntry.failures cs ∨ Fails false cs x := by
  simp only [Fails]
  rw [mem_many, rule_spacedEntry, h, many_of_eq_none h]
  simp

lemma fails_of_blank (h : Grammar.blank cs = some (u, after)) :
    Fails inGroup cs x ↔ x ∈ blank.failures cs ∨ Fails inGroup after x := by
  cases inGroup with
  | false => exact mem_file_of_blank h
  | true =>
    have hspaced : Grammar.spacedEntry cs = Grammar.spacedEntry after := skip_blank h _
    have hfails : x ∈ spacedEntry.failures cs ↔
        x ∈ blank.failures cs ∨ x ∈ spacedEntry.failures after := mem_skip_blank h _
    rcases hs : Grammar.spacedEntry after with _ | ⟨e, t⟩
    · rw [fails_of_none hs, fails_of_none (hspaced.trans hs), hfails]
      have hfile : Fails false cs x ↔ _ := mem_file_of_blank h
      rw [hfile]
      simp only [Fails]
      tauto
    · rw [fails_of_spacedEntry hs, fails_of_spacedEntry (hspaced.trans hs), hfails, or_assoc]

/-! ### Line by line -/

section

variable (hs : Standing ended l after nl)

include hs

lemma fails_of_header {name : String} (hl : Header (Line.Ends ended) l name) :
    Fails inGroup (l ++ nl) x ↔ (x ∈ blank.failures (l ++ nl) ∨ x ∈ header.failures (l ++ nl) ∨
      inGroup = true ∧ x ∈ entry.failures (l ++ nl)) ∨ Fails true after x := by
  obtain ⟨es, t, hmany⟩ := exists_many Grammar.spacedEntry after
  have hheader : header.rule (l ++ nl) = some (name, after) :=
    (header_eq_some hs.feed hs.line).mpr ⟨hl, rfl⟩
  have hgroup : Grammar.group (l ++ nl) = some (⟨name, es⟩, t) :=
    group_eq_some.mpr ⟨[], l ++ nl, name, after, es, many_of_eq_none hs.blank_eq_none, hheader,
      hmany, rfl⟩
  have hfile : Fails false (l ++ nl) x ↔
      (x ∈ blank.failures (l ++ nl) ∨ x ∈ header.failures (l ++ nl)) ∨ Fails true after x := by
    simp only [Fails]
    rw [mem_file_of_group hgroup, group, mem_skip_nothing hs.blank_eq_none,
      failures_bind_of_some hheader, List.mem_append, failures_bind_pure, hmany]
    simp [or_assoc]
  cases inGroup with
  | false => simpa using hfile
  | true =>
    have hnone := hs.spacedEntry_eq_none fun _ _ hl' => Line.not_header_of_entry hl' hl
    rw [fails_of_none hnone, spacedEntry, mem_skip_nothing hs.blank_eq_none, hfile]
    tauto

lemma fails_of_entry {k : String} {v : Value} (hl : Entry (Line.Ends ended) l k v) :
    Fails true (l ++ nl) x ↔
      (x ∈ blank.failures (l ++ nl) ∨ x ∈ entry.failures (l ++ nl)) ∨ Fails true after x := by
  rw [fails_of_spacedEntry (hs.spacedEntry_eq_some hl), spacedEntry,
    mem_skip_nothing hs.blank_eq_none]

/-- What is tried behind the last group has been tried as a blank line. -/
lemma mem_coda : x ∈ coda.failures (l ++ nl) ↔ x ∈ blank.failures (l ++ nl) := by
  rw [coda, mem_skip_nothing hs.blank_eq_none]
  refine or_iff_left_of_imp fun hx => ?_
  rcases mem_bind.mp hx with hx | ⟨_, t, ht, hx⟩
  · cases hx
  · rcases mem_bind.mp hx with hx | ⟨_, _, -, hx⟩
    · exact mem_bind.mpr (.inr ⟨(), t, ht, mem_bind.mpr (.inl hx)⟩)
    · cases hx

lemma fails_of_nothing (hl : ∀ c, ¬ Line.Says (Line.Ends ended) inGroup l c) :
    Fails inGroup (l ++ nl) x ↔ x ∈ blank.failures (l ++ nl) ∨ x ∈ header.failures (l ++ nl) ∨
      inGroup = true ∧ x ∈ entry.failures (l ++ nl) := by
  have hheader : header.rule (l ++ nl) = none :=
    eq_none_of_forall fun name _ h => hl (.header name) ((header_eq_some hs.feed hs.line).mp h).1
  have hfile : Fails false (l ++ nl) x ↔
      x ∈ blank.failures (l ++ nl) ∨ x ∈ header.failures (l ++ nl) := by
    simp only [Fails]
    rw [mem_file_of_none (hs.group_eq_none fun name => hl (.header name)), group,
      mem_skip_nothing hs.blank_eq_none, failures_bind_of_none hheader, mem_coda hs]
    tauto
  cases inGroup with
  | false => simpa using hfile
  | true =>
    have hnone := hs.spacedEntry_eq_none fun k v hl' => hl (.entry k v) ⟨rfl, hl'⟩
    rw [fails_of_none hnone, spacedEntry, mem_skip_nothing hs.blank_eq_none, hfile]
    tauto

end

/-- What fails in front of a later part of a text does not count. -/
lemma Furthest.later {p q r : List Char → Prop} (h : ∀ x, p x ↔ q x ∨ r x)
    (hq : ∀ x, q x → after.length < x.length) (hle : stop.length ≤ after.length)
    (hr : Furthest r stop) : Furthest p stop := by
  refine ⟨(h stop).mpr (.inr hr.mem), fun x hx => ?_⟩
  rcases (h x).mp hx with hx | hx
  · have := hq x hx
    omega
  · exact hr.length_le x hx

/-- What fails in a line does so in front of the line feed. -/
lemma FailsWithin.length_lt {α : Type} {r : Attempt α} (hr : FailsWithin inLine r) (hn : '\n' ∉ l)
    (hx : x ∈ r.failures (l ++ '\n' :: after)) : after.length < x.length :=
  (hr _ _ hx).length_le ⟨fun _ hc => inLine_of_ne (ne_of_mem_of_not_mem hc hn), by simp [inLine]⟩

/-- Where a line says nothing, all readings of it have failed, each where it stops. -/
lemma furthest_of_stopped (hf : Feed ended after nl) (hn : '\n' ∉ l)
    (h : Line.Stopped inGroup ⟨l, ended⟩ stop) :
    Furthest (Fails inGroup (l ++ nl)) (stop ++ nl) := by
  obtain ⟨hend, ⟨stop₁, hheader⟩, hentry⟩ := Line.of_content?_eq_none h.nothing
  have hs : Standing ended l after nl := ⟨hf, hn, fun _ => hend⟩
  have hsays (c : Line.Content) : ¬ Line.Says (Line.Ends ended) inGroup l c := by
    intro hc
    have := h.nothing
    rw [Line.content?_eq_some.mpr hc] at this
    cases this
  have hblank := failsAt_blank (Line.endStop_of_not_ends hend) hf hn
  constructor
  case mem =>
    refine (fails_of_nothing hs hsays).mpr ?_
    rcases Line.mem_stops.mp h.mem with rfl | h' | ⟨hg, h'⟩
    · exact .inl hblank.mem
    · exact .inr (.inl (failsAt_header (Line.headerStop_of_error h') hf hn).mem)
    · exact .inr (.inr ⟨hg, (failsAt_entry (Line.entryStop_of_error h') hf hn).mem⟩)
  case length_le =>
    have hle {s x : List Char} (hs : s ∈ Line.stops inGroup ⟨l, ended⟩)
        (hx : (s ++ nl).length ≤ x.length) : (stop ++ nl).length ≤ x.length := by
      have := h.furthest s hs
      simp only [List.length_append] at hx ⊢
      omega
    intro x hx
    rcases (fails_of_nothing hs hsays).mp hx with hx | hx | ⟨hg, hx⟩
    · exact hle (Line.mem_stops.mpr (.inl rfl)) (hblank.length_le x hx)
    · have hat := failsAt_header (Line.headerStop_of_error hheader) hf hn
      exact hle (Line.mem_stops.mpr (.inr (.inl hheader))) (hat.length_le x hx)
    · obtain ⟨stop₂, hentry⟩ := hentry hg
      have hat := failsAt_entry (Line.entryStop_of_error hentry) hf hn
      exact hle (Line.mem_stops.mpr (.inr (.inr ⟨hg, hentry⟩))) (hat.length_le x hx)

/-- **The reading of a text stops at the furthest failure.** -/
theorem furthest_fails (h : Line.Halts inGroup cs rest) : Furthest (Fails inGroup cs) rest := by
  have hlength {g : Bool} {after rest : List Char} (h : Line.Halts g after rest) :
      rest.length ≤ after.length := by
    obtain ⟨seen, _, rfl, -⟩ := h.exists_reading
    simp
  induction h with
  | here hf hn h => exact furthest_of_stopped hf hn h
  | @blank inGroup l after rest hn h hs ih =>
    have hblank : Grammar.blank (l ++ '\n' :: after) = some ((), after) :=
      (blank_eq_some (.line after) hn).mpr ⟨h, rfl, rfl⟩
    exact .later (fun x => fails_of_blank hblank) (fun x => failsWithin_blank.length_lt hn)
      (hlength hs) ih
  | @header inGroup l after rest name hn h hs ih =>
    have hs' : Standing true l after ('\n' :: after) :=
      ⟨.line after, hn, fun _ => Line.not_ends_of_header h⟩
    refine .later (fun x => fails_of_header hs' h) (fun x hx => ?_) (hlength hs) ih
    rcases hx with hx | hx | ⟨-, hx⟩
    · exact failsWithin_blank.length_lt hn hx
    · exact failsWithin_header.length_lt hn hx
    · exact failsWithin_entry.length_lt hn hx
  | @entry l after rest key v hn h hs ih =>
    have hs' : Standing true l after ('\n' :: after) :=
      ⟨.line after, hn, fun _ => Line.not_ends_of_entry h⟩
    refine .later (fun x => fails_of_entry hs' h) (fun x hx => ?_) (hlength hs) ih
    rcases hx with hx | hx
    · exact failsWithin_blank.length_lt hn hx
    · exact failsWithin_entry.length_lt hn hx

end Attempt

end Barrage.Grammar

namespace Barrage.Definition

/-- What a place says about a text: `seen` stands in front of it and `rest` behind it. -/
structure Marked (text : String) (place : Text.Place) (seen rest : List Char) : Prop where
  split : text.toList = seen ++ rest
  /-- The offset is between two characters, or at an end of the text. -/
  boundary : String.Pos.Raw.IsValid text ⟨place.offset⟩
  offset : place.offset = (String.ofList seen).utf8ByteSize
  line : place.line = seen.count '\n' + 1
  column : ∃ above last, seen = above ++ last ∧ '\n' ∉ last ∧ (∀ c ∈ above.getLast?, c = '\n') ∧
    place.column = last.length + 1
  /-- What stands in front is the beginning of a definition. -/
  viable : ∃ more d, parse (String.ofList (seen ++ more)) = .ok d
  /-- A rule of the grammar has failed there. -/
  failed : rest ∈ Grammar.Attempt.file.failures text.toList
  /-- No rule has failed further on, and the file has not ended further on either. -/
  furthest : ∀ x, (x ∈ Grammar.Attempt.file.failures text.toList ∨
    ∃ gs, Grammar.file text.toList = some (gs, x)) → ∃ front, text.toList = front ++ x ∧
      front.length ≤ seen.length

/-- The column is counted from the last line feed. -/
lemma column_after (seen : List Char) : ∃ above last, seen = above ++ last ∧ '\n' ∉ last ∧
    (∀ c ∈ above.getLast?, c = '\n') ∧ (Text.Place.after seen).column = last.length + 1 := by
  obtain ⟨last, above, hreverse, hspan⟩ := Span.exists_split (· != '\n') seen.reverse
  refine ⟨above.reverse, last.reverse, ?_, ?_, ?_, ?_⟩
  · rw [← List.reverse_append, ← hreverse, List.reverse_reverse]
  · rw [List.mem_reverse]
    exact fun hmem => by simpa using hspan.inside _ hmem
  · simpa using hspan.outside
  · rw [Text.Place.after, hreverse, hspan.take, List.length_reverse]

/-- **The place that is reported is the furthest failure, and what stands in front of it is the
beginning of a definition.** -/
theorem marked_of_error {text : String} {place : Text.Place} (h : parse text = .error place) :
    ∃ seen rest, Marked text place seen rest := by
  rw [parse] at h
  split at h
  · cases h
  · rename_i n hcontents
    cases h
    obtain ⟨seen, rest, hsplit, rfl, hhalts⟩ := Line.halts_of_error hcontents
    have hseen : text.toList.take (0 + seen.length) = seen := by
      rw [hsplit, Nat.zero_add, List.take_left]
    have hfurthest := Grammar.Attempt.furthest_fails hhalts
    rw [hseen]
    refine ⟨seen, rest, hsplit, ?boundary, rfl, rfl, column_after seen, ?viable, hfurthest.mem,
      fun x hx => ?furthest⟩
    case boundary =>
      have htext : text = String.ofList seen ++ String.ofList rest := by
        rw [← String.ofList_append, ← hsplit, String.ofList_toList]
      exact String.Pos.Raw.isValid_iff_exists_append.mpr ⟨_, _, htext, rfl⟩
    case viable =>
      obtain ⟨seen', more, heq, hread⟩ := hhalts.exists_reading
      obtain rfl : seen = seen' := List.append_cancel_right (hsplit.symm.trans heq)
      obtain ⟨⟨es, gs⟩, hes⟩ := Option.isSome_iff_exists.mp hread
      exact ⟨more, ⟨gs⟩, parse_eq_ok.mpr ⟨es, by rw [String.toList_ofList]; exact hes⟩⟩
    case furthest =>
      have hfails : x ∈ Grammar.Attempt.file.failures text.toList := by
        rcases hx with hx | ⟨gs, hgs⟩
        · exact hx
        · exact Grammar.Attempt.mem_of_file hgs
      obtain ⟨front, hfront, -⟩ := Grammar.Attempt.within_file.fails _ _ hfails
      have hlength := congrArg List.length (hsplit.symm.trans hfront)
      have hle := hfurthest.length_le x hfails
      simp only [List.length_append] at hlength
      exact ⟨front, hfront, by omega⟩

/-- In quotes, the reading comes further than the bare value, which a carriage return ends. -/
theorem marked_quote : parse "[a]\nk = \"é\rb" = .error ⟨2, 9, 13⟩ ∧
    ∃ seen rest, Marked "[a]\nk = \"é\rb" ⟨2, 9, 13⟩ seen rest := by
  have hlines : Line.ofText "[a]\nk = \"é\rb".toList =
      [⟨"[a]".toList, true⟩, ⟨"k = \"é\rb".toList, false⟩] := by
    have htext : "[a]\nk = \"é\rb".toList = "[a]".toList ++ '\n' :: "k = \"é\rb".toList := rfl
    rw [htext, Line.ofText_append (by decide), Line.ofText_of_not_mem (by decide)]
  have hparse : parse "[a]\nk = \"é\rb" = .error ⟨2, 9, 13⟩ := by
    rw [parse, hlines]
    rfl
  exact ⟨hparse, marked_of_error hparse⟩

end Barrage.Definition
