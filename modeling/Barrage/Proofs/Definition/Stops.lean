import Barrage.Proofs.Definition.Scannerless

/-!
Where the reading of a text stops.

A line that says nothing is left at the place where the reading that came furthest stopped. For each
reading it is told what stands in front of that place and what does not stand behind it. What stands
in front can always be completed: whatever has been read of a line is the beginning of a line that
says something, and whatever has been read of a text is the beginning of a definition.
-/

namespace Barrage

open Spelling
open Grammar (Feed exists_feed reading reading_feed reading_nil)

namespace Line

variable {ended inGroup : Bool} {cs l w r rest stop after nl : List Char} {v : Value}

/-! ### Where a line stops -/

/-- The end of a line is not found: something else stands behind the blanks, or a carriage return
that no line feed follows. -/
inductive EndStop (ended : Bool) : List Char → List Char → Prop where
  | other {bs r : List Char} {c : Char} (hb : Blanks bs) (hc : c ≠ ';' ∧ c ≠ '\r')
      (hblank : Text.isBlank c = false) : EndStop ended (bs ++ c :: r) (c :: r)
  | feed {bs r : List Char} (hb : Blanks bs) (h : r = [] → ended = false) :
      EndStop ended (bs ++ '\r' :: r) r

/-- A header stops in front of its name, within it or behind it. -/
inductive HeaderStop (ended : Bool) : List Char → List Char → Prop where
  | bracket {bs r : List Char} (hb : Blanks bs) (hblank : ∀ c ∈ r.head?, Text.isBlank c = false)
      (h : r.head? ≠ some '[') : HeaderStop ended (bs ++ r) r
  | name {bs name r : List Char} (hb : Blanks bs) (hname : Span isNameChar name r)
      (h : name = [] ∨ r.head? ≠ some ']') : HeaderStop ended (bs ++ '[' :: (name ++ r)) r
  | tail {bs name r stop : List Char} (hb : Blanks bs) (hne : name ≠ [])
      (hname : Span isNameChar name (']' :: r)) (h : EndStop ended r stop) :
      HeaderStop ended (bs ++ '[' :: (name ++ ']' :: r)) stop

/-- A value stops where there is none, or where neither what is bare nor what is in quotes goes on.
-/
inductive ValueStop (ended : Bool) : List Char → List Char → Prop where
  | empty {r : List Char} (h : ∀ c ∈ r.head?, isBare c = false)
      (hstrict : ∀ v, ¬ Strict (Ends ended) r v) : ValueStop ended r r
  | bare {w r : List Char} (hne : w ≠ []) (hw : Span isBare w ('\r' :: r))
      (hend : r = [] → ended = false) (hstrict : ∀ v, ¬ Strict (Ends ended) (w ++ '\r' :: r) v) :
      ValueStop ended (w ++ '\r' :: r) (further r (quotedStop (w ++ '\r' :: r)))

/-- An entry stops in front of its key, in front of the sign or in its value. -/
inductive EntryStop (ended : Bool) : List Char → List Char → Prop where
  | key {bs r : List Char} (hb : Blanks bs) (hblank : ∀ c ∈ r.head?, Text.isBlank c = false)
      (h : ∀ c ∈ r.head?, isKeyChar c = false) : EntryStop ended (bs ++ r) r
  | sign {bs key bs' r : List Char} (hb : Blanks bs) (hne : key ≠ [])
      (hkey : Span isKeyChar key (bs' ++ r)) (hb' : Blanks bs')
      (hblank : ∀ c ∈ r.head?, Text.isBlank c = false) (h : r.head? ≠ some '=') :
      EntryStop ended (bs ++ (key ++ (bs' ++ r))) r
  | value {bs key bs' bs'' r stop : List Char} (hb : Blanks bs) (hne : key ≠ [])
      (hkey : Span isKeyChar key (bs' ++ '=' :: (bs'' ++ r)))
      (hb' : Blanks bs') (hb'' : Blanks bs'')
      (hblank : ∀ c ∈ r.head?, Text.isBlank c = false) (h : ValueStop ended r stop) :
      EntryStop ended (bs ++ (key ++ (bs' ++ '=' :: (bs'' ++ r)))) stop

lemma endStop_feed (hb : Blanks bs) (r : List Char) : endStop (bs ++ '\r' :: r) = r := by
  rw [endStop, skipBlanks_eq hb (by simp [Text.isBlank])]
  rfl

lemma endStop_other (hb : Blanks bs) (hblank : ∀ c ∈ r.head?, Text.isBlank c = false)
    (h : r.head? ≠ some '\r') : endStop (bs ++ r) = r := by
  rw [endStop, skipBlanks_eq hb hblank]
  split
  · exact absurd rfl h
  · rfl

lemma endStop_of_not_ends (h : ¬ Ends ended rest) : EndStop ended rest (endStop rest) := by
  obtain ⟨bs, r, rfl, hb, hblank⟩ := exists_blanks rest
  rw [ends_append hb, Ends, isEnd, ← List.nil_append r,
    skipBlanks_eq (by simp [Blanks]) hblank] at h
  by_cases hfeed : r.head? = some '\r'
  · obtain ⟨r, rfl⟩ := List.head?_eq_some_iff.mp hfeed
    rw [endStop_feed hb]
    refine .feed hb ?_
    rintro rfl
    simpa using h
  · rw [endStop_other hb hblank hfeed]
    rcases r with _ | ⟨c, r⟩
    · exact absurd rfl h
    · refine .other hb ⟨?_, fun hc => hfeed (by rw [hc]; rfl)⟩ (hblank c rfl)
      rintro rfl
      exact h rfl

lemma headerStop_of_error {l : Line} (h : l.header = .error stop) :
    HeaderStop l.ended l.chars stop := by
  obtain ⟨chars, ended⟩ := l
  obtain ⟨bs, r, rfl, hb, hblank⟩ := exists_blanks chars
  rw [header, skipBlanks_eq hb hblank] at h
  split at h
  · rename_i cs
    obtain ⟨name, r, rfl, hspan⟩ := Span.exists_split isNameChar cs
    simp only [hspan.take, hspan.drop] at h
    split at h
    · cases h
      exact .name hb hspan (.inl rfl)
    · rename_i r' hne
      split at h
      · cases h
      · rename_i hend
        cases h
        exact .tail hb hne hspan (endStop_of_not_ends hend)
    · rename_i hne hclose
      cases h
      refine .name hb hspan (.inr fun hhead => ?_)
      obtain ⟨r', rfl⟩ := List.head?_eq_some_iff.mp hhead
      exact hclose r' rfl
  · rename_i hopen
    cases h
    refine .bracket hb hblank fun hhead => ?_
    obtain ⟨r', rfl⟩ := List.head?_eq_some_iff.mp hhead
    exact hopen r' rfl

lemma valueStop_of_error (hblank : ∀ c ∈ cs.head?, Text.isBlank c = false)
    (h : value ended cs = .error stop) : ValueStop ended cs stop := by
  have hstrict : ∀ v, ¬ Strict (Ends ended) cs v := fun v hv => by
    rw [value_of_strict hv] at h
    cases h
  rw [value, quoted?_of_not_strict hstrict] at h
  obtain ⟨w, r, rfl, hspan⟩ := Span.exists_split isBare cs
  simp only [hspan.take, hspan.drop] at h
  split at h
  · cases h
    exact .empty hspan.outside hstrict
  · rename_i hne
    split at h
    · cases h
    · rename_i hend
      cases h
      -- of what is not bare, a carriage return alone does not end the line
      rcases r with _ | ⟨c, r⟩
      · exact absurd rfl hend
      · have hc : c = ';' ∨ c = '\r' := by
          simpa [isBare, imp_iff_not_or] using hspan.outside c rfl
        rcases hc with rfl | rfl
        · exact absurd rfl hend
        · have hstop : endStop ('\r' :: r) = r :=
            endStop_feed (show Blanks [] by simp [Blanks]) r
          rw [hstop]
          refine .bare hne hspan ?_ hstrict
          rintro rfl
          simpa [isEnd, Text.skipBlanks, Text.isBlank] using hend

lemma entryStop_of_error {l : Line} (h : l.entry = .error stop) :
    EntryStop l.ended l.chars stop := by
  obtain ⟨chars, ended⟩ := l
  obtain ⟨bs, r, rfl, hb, hblank⟩ := exists_blanks chars
  rw [entry, skipBlanks_eq hb hblank] at h
  obtain ⟨key, r, rfl, hspan⟩ := Span.exists_split isKeyChar r
  obtain ⟨bs', r, rfl, hb', hblank'⟩ := exists_blanks r
  simp only [hspan.take, hspan.drop, skipBlanks_eq hb' hblank'] at h
  split at h
  · cases h
    exact .key hb hblank hspan.outside
  · rename_i hne
    split at h
    · rename_i r'
      obtain ⟨bs'', r, rfl, hb'', hblank''⟩ := exists_blanks r'
      rw [skipBlanks_eq hb'' hblank''] at h
      split at h
      · cases h
      · rename_i hvalue
        cases h
        exact .value hb hne hspan hb' hb'' hblank'' (valueStop_of_error hblank'' hvalue)
    · rename_i hsign
      cases h
      refine .sign hb hne hspan hb' hblank' fun hhead => ?_
      obtain ⟨r', rfl⟩ := List.head?_eq_some_iff.mp hhead
      exact hsign r' rfl

/-! ### What stands in front goes on -/

/-- A line that says something begins so. -/
def Begins (inGroup : Bool) (w : List Char) : Prop :=
  ∃ more c, '\n' ∉ more ∧ Says (Ends true) inGroup (w ++ more) c

lemma begins_of_ends (h : Ends true w) : Begins inGroup w :=
  ⟨[], .blank, by simp, by simpa [Says] using h⟩

lemma ends_blanks (hb : Blanks w) : Ends true w := by
  rw [← List.append_nil w, ends_append hb]
  rfl

lemma EndStop.exists_ends (h : EndStop ended l stop) : ∃ w, l = w ++ stop ∧ Ends true w := by
  cases h with
  | @other bs r c hb => exact ⟨bs, rfl, ends_blanks hb⟩
  | @feed bs r hb => exact ⟨bs ++ ['\r'], by simp, (ends_append hb).mpr rfl⟩

lemma HeaderStop.begins (h : HeaderStop ended l stop) :
    ∃ w, l = w ++ stop ∧ Begins inGroup w := by
  cases h with
  | @bracket bs r hb => exact ⟨bs, rfl, begins_of_ends (ends_blanks hb)⟩
  | @name bs name r hb hname =>
    have hheading : Heading (bs ++ '[' :: ((name ++ ['x']) ++ [']']))
        (String.ofList (Text.trim (name ++ ['x']))) := by
      refine .mk hb (by simp) (List.forall_mem_append.mpr ⟨fun c hc => ?_, by simp⟩)
      exact isNameChar_iff.mp (hname.inside c hc)
    exact ⟨bs ++ '[' :: name, by simp, ['x', ']'], .header _, by simp,
      _, [], by simp, hheading, rfl⟩
  | @tail bs name r _ hb hne hname h =>
    obtain ⟨u, rfl, hu⟩ := h.exists_ends
    have hheading : Heading (bs ++ '[' :: (name ++ [']'])) _ :=
      .mk hb hne fun c hc => isNameChar_iff.mp (hname.inside c hc)
    exact ⟨bs ++ '[' :: (name ++ ']' :: u), by simp, [], .header _, by simp,
      _, u, by simp, hheading, hu⟩

/-- A bare value has a reading. -/
lemma exists_denotes {E : List Char → Prop} (h : Loose E cs v) : ∃ v', Denotes E cs v' := by
  by_cases hstrict : ∃ v', Strict E cs v'
  · obtain ⟨v', hv'⟩ := hstrict
    exact ⟨v', .inl hv'⟩
  · exact ⟨v, .inr ⟨not_exists.mp hstrict, h⟩⟩

/-- Some value begins so, wherever one may stand. -/
def BeginsValue (w : List Char) : Prop :=
  ∃ more v, '\n' ∉ more ∧ (∀ c ∈ (w ++ more).head?, Text.isBlank c = false) ∧
    Denotes (Ends true) (w ++ more) v

lemma beginsValue_nil : BeginsValue [] := by
  have hbare : Bare ['x'] [] := ⟨by simp, by simp, by simp⟩
  obtain ⟨v, hv⟩ := exists_denotes ⟨['x'], [], rfl, hbare, show Ends true [] from rfl, rfl⟩
  exact ⟨['x'], v, by simp, by simp [Text.isBlank], hv⟩

lemma quotedStop_of_ne (h : cs.head? ≠ some '"') : quotedStop cs = cs := by
  rw [quotedStop.eq_def]
  split
  · exact absurd rfl h
  · rfl

lemma exists_beginsValue_quoted (cs : List Char) :
    ∃ w, cs = w ++ quotedStop cs ∧ BeginsValue w := by
  by_cases hquote : cs.head? = some '"'
  · obtain ⟨cs, rfl⟩ := List.head?_eq_some_iff.mp hquote
    obtain ⟨text, r, rfl, hspan⟩ := Span.exists_split (· != '"') cs
    have htext : '"' ∉ text := fun hmem => by simpa using hspan.inside _ hmem
    refine ⟨'"' :: text, by rw [quotedStop, hspan.drop, List.cons_append], ['"'], _, by simp,
      by simp [Text.isBlank], .inl ⟨'"' :: (text ++ ['"']), [], by simp, .quoted htext, rfl⟩⟩
  · exact ⟨[], (quotedStop_of_ne hquote).symm, beginsValue_nil⟩

lemma ValueStop.begins (h : ValueStop ended l stop)
    (hblank : ∀ c ∈ l.head?, Text.isBlank c = false) : ∃ w, l = w ++ stop ∧ BeginsValue w := by
  cases h with
  | empty => exact ⟨[], rfl, beginsValue_nil⟩
  | @bare w r hne hw =>
    rw [further]
    split
    · exact exists_beginsValue_quoted _
    · have hbare : Bare w ['\r'] :=
        ⟨hne, fun c hc => isBare_iff.mp (hw.inside c hc), by simp⟩
      obtain ⟨v, hv⟩ := exists_denotes ⟨w, ['\r'], rfl, hbare, show Ends true ['\r'] from rfl, rfl⟩
      obtain ⟨c, w, rfl⟩ := List.exists_cons_of_ne_nil hne
      exact ⟨(c :: w) ++ ['\r'], by simp, [], v, by simp, by simpa using hblank, by simpa using hv⟩

lemma EntryStop.begins (h : EntryStop ended l stop) : ∃ w, l = w ++ stop ∧ Begins true w := by
  have hvalue {bs key bs' bs'' w : List Char} (hb : Blanks bs) (hne : key ≠ [])
      (hkey : ∀ c ∈ key, isKeyChar c = true) (hb' : Blanks bs') (hb'' : Blanks bs'')
      (hw : BeginsValue w) : Begins true (bs ++ (key ++ (bs' ++ '=' :: (bs'' ++ w)))) := by
    obtain ⟨more, v, hmore, hhead, hv⟩ := hw
    refine ⟨more, .entry _ v, hmore, rfl, bs ++ (key ++ (bs' ++ '=' :: bs'')), w ++ more, by simp,
      .mk hb hne (fun c hc => isKeyChar_iff.mp (hkey c hc)) hb' hb'', fun c hc => ?_, hv⟩
    simpa [Text.isBlank] using hhead c hc
  cases h with
  | @key bs r hb => exact ⟨bs, rfl, begins_of_ends (ends_blanks hb)⟩
  | @sign bs key bs' r hb hne hkey hb' =>
    obtain ⟨more, c, hmore, hc⟩ := hvalue hb hne hkey.inside hb' (show Blanks [] by simp [Blanks])
      beginsValue_nil
    exact ⟨bs ++ (key ++ bs'), by simp, '=' :: more, c, by simpa using hmore, by simpa using hc⟩
  | @value bs key bs' bs'' r _ hb hne hkey hb' hb'' hblank h =>
    obtain ⟨w, rfl, hw⟩ := h.begins hblank
    exact ⟨_, by simp, hvalue hb hne hkey.inside hb' hb'' hw⟩

/-! ### The reading that comes furthest -/

lemma of_content?_eq_none {l : Line} (h : l.content? inGroup = none) :
    ¬ Ends l.ended l.chars ∧ (∃ stop, l.header = .error stop) ∧
      (inGroup = true → ∃ stop, l.entry = .error stop) := by
  rw [content?] at h
  split at h
  · cases h
  · rename_i hend
    refine ⟨hend, ?_⟩
    rcases hheader : l.header with stop | name
    · refine ⟨⟨stop, rfl⟩, ?_⟩
      rintro rfl
      rcases hentry : l.entry with stop' | ⟨key, v⟩
      · exact ⟨stop', rfl⟩
      · simp [hheader, hentry] at h
    · simp [hheader] at h

/-- Of all readings of a line that says nothing, the one that comes furthest stops in front of
`stop`. -/
structure Stopped (inGroup : Bool) (l : Line) (stop : List Char) : Prop where
  nothing : l.content? inGroup = none
  mem : stop ∈ l.stops inGroup
  furthest : ∀ r ∈ l.stops inGroup, stop.length ≤ r.length

lemma mem_stops {l : Line} : stop ∈ l.stops inGroup ↔
    stop = endStop l.chars ∨ l.header = .error stop ∨ (inGroup = true ∧ l.entry = .error stop) := by
  rw [stops]
  rcases l.header with s | name <;> rcases l.entry with s' | e <;> cases inGroup <;>
    simp [eq_comm]

lemma begins_of_mem {l : Line} (h : l.content? inGroup = none) (hs : stop ∈ l.stops inGroup) :
    ∃ w, l.chars = w ++ stop ∧ Begins inGroup w := by
  rcases mem_stops.mp hs with rfl | hheader | ⟨rfl, hentry⟩
  · obtain ⟨w, heq, hw⟩ := (endStop_of_not_ends (of_content?_eq_none h).1).exists_ends
    exact ⟨w, heq, begins_of_ends hw⟩
  · exact (headerStop_of_error hheader).begins
  · exact (entryStop_of_error hentry).begins

lemma foldl_max {α : Type} (f : α → Nat) (as : List α) (n : Nat) :
    n ≤ as.foldl (fun n a => max n (f a)) n ∧
      (∀ a ∈ as, f a ≤ as.foldl (fun n a => max n (f a)) n) ∧
      (as.foldl (fun n a => max n (f a)) n = n ∨
        ∃ a ∈ as, as.foldl (fun n a => max n (f a)) n = f a) := by
  induction as generalizing n with
  | nil => simp
  | cons a as ih =>
    obtain ⟨hle, hmem, heq⟩ := ih (max n (f a))
    simp only [List.foldl_cons, List.forall_mem_cons, List.exists_mem_cons_iff]
    refine ⟨by omega, ⟨by omega, hmem⟩, ?_⟩
    rcases heq with heq | heq
    · omega
    · exact .inr (.inr heq)

/-- The reach of a line is the length of what the furthest reading has read. -/
lemma exists_stopped {l : Line} (h : l.content? inGroup = none) :
    ∃ w stop, l.chars = w ++ stop ∧ w.length = l.reach inGroup ∧ Stopped inGroup l stop := by
  have hlength : ∀ r ∈ l.stops inGroup, r.length ≤ l.chars.length := fun r hr => by
    obtain ⟨w, heq, -⟩ := begins_of_mem h hr
    rw [heq, List.length_append]
    omega
  obtain ⟨-, hle, heq⟩ := foldl_max (fun r => l.chars.length - r.length) (l.stops inGroup) 0
  rw [← reach] at hle heq
  obtain ⟨stop, hstop, hreach⟩ : ∃ stop ∈ l.stops inGroup,
      l.reach inGroup = l.chars.length - stop.length := by
    rcases heq with heq | heq
    · have hfirst : endStop l.chars ∈ l.stops inGroup := mem_stops.mpr (.inl rfl)
      have := hle _ hfirst
      exact ⟨_, hfirst, by omega⟩
    · exact heq
  obtain ⟨w, hw, -⟩ := begins_of_mem h hstop
  refine ⟨w, stop, hw, ?_, h, hstop, fun r hr => ?_⟩
  · rw [hreach, hw, List.length_append]
    omega
  · have := hle r hr
    have := hlength r hr
    have := hlength stop hstop
    omega

/-! ### Where a text stops -/

/-- The reading of a text comes to a line that says nothing and stops in front of `rest`. -/
inductive Halts : Bool → List Char → List Char → Prop where
  | here {inGroup ended : Bool} {w stop after nl : List Char} (hf : Feed ended after nl)
      (hn : '\n' ∉ w ++ stop) (h : Stopped inGroup ⟨w ++ stop, ended⟩ stop) :
      Halts inGroup (w ++ stop ++ nl) (stop ++ nl)
  | blank {inGroup : Bool} {l after rest : List Char} (hn : '\n' ∉ l) (h : Ends true l)
      (hs : Halts inGroup after rest) : Halts inGroup (l ++ '\n' :: after) rest
  | header {inGroup : Bool} {l after rest : List Char} {name : String} (hn : '\n' ∉ l)
      (h : Header (Ends true) l name) (hs : Halts true after rest) :
      Halts inGroup (l ++ '\n' :: after) rest
  | entry {l after rest : List Char} {key : String} {v : Value} (hn : '\n' ∉ l)
      (h : Entry (Ends true) l key v) (hs : Halts true after rest) :
      Halts true (l ++ '\n' :: after) rest

lemma halts_of_error {start n : Nat} (h : contents inGroup start (ofText cs) = .error n) :
    ∃ seen rest, cs = seen ++ rest ∧ n = start + seen.length ∧ Halts inGroup cs rest := by
  induction hlen : cs.length using Nat.strongRecOn generalizing cs inGroup start n with
  | ind k ih =>
    subst hlen
    obtain ⟨l, ended, after, nl, rfl, hn, hf⟩ := exists_feed cs
    have hstop (hnone : (⟨l, ended⟩ : Line).content? inGroup = none)
        (heq : n = start + reach inGroup ⟨l, ended⟩) : ∃ seen rest,
          l ++ nl = seen ++ rest ∧ n = start + seen.length ∧ Halts inGroup (l ++ nl) rest := by
      obtain ⟨w, stop, hl, hreach, hs⟩ := exists_stopped hnone
      obtain rfl : l = w ++ stop := hl
      exact ⟨w, stop ++ nl, by simp, by rw [heq, hreach], .here hf hn hs⟩
    cases hf with
    | last =>
      rw [List.append_nil, ofText_of_not_mem hn, contents] at h
      split at h
      · rename_i hnone
        cases h
        exact hstop hnone rfl
      · cases h
    | line =>
      rw [ofText_append hn, contents] at h
      split at h
      · rename_i hnone
        cases h
        exact hstop hnone rfl
      · rename_i c hc
        have hsays := content?_eq_some.mp hc
        have hlt : after.length < (l ++ '\n' :: after).length := by
          simp only [List.length_append, List.length_cons]
          omega
        have hnext {g : Bool}
            (hm : (contents g (start + l.length + 1) (ofText after)).map (c :: ·) = .error n) :
            ∃ seen rest, l ++ '\n' :: after = seen ++ rest ∧ n = start + seen.length ∧
              Halts g after rest := by
          have hm' : contents g (start + l.length + 1) (ofText after) = .error n := by
            rcases hrest : contents g (start + l.length + 1) (ofText after) with m | cs
            · rw [hrest] at hm
              cases hm
              rfl
            · rw [hrest] at hm
              cases hm
          obtain ⟨seen, rest, rfl, rfl, hs⟩ := ih _ hlt hm' rfl
          refine ⟨l ++ '\n' :: seen, rest, by simp, ?_, hs⟩
          simp only [List.length_append, List.length_cons]
          omega
        cases c with
        | blank =>
          obtain ⟨seen, rest, heq, hlength, hs⟩ := hnext h
          rw [Bool.or_false] at hs
          exact ⟨seen, rest, heq, hlength, .blank hn hsays hs⟩
        | header name =>
          obtain ⟨seen, rest, heq, hlength, hs⟩ := hnext h
          rw [Bool.or_true] at hs
          exact ⟨seen, rest, heq, hlength, .header hn hsays hs⟩
        | entry key v =>
          obtain ⟨rfl, hentry⟩ := hsays
          obtain ⟨seen, rest, heq, hlength, hs⟩ := hnext h
          exact ⟨seen, rest, heq, hlength, .entry hn hentry hs⟩

/-- **What has been read of a text can be completed.** -/
theorem Halts.exists_reading (h : Halts inGroup cs rest) :
    ∃ seen more, cs = seen ++ rest ∧ (reading inGroup (seen ++ more)).isSome = true := by
  induction h with
  | @here inGroup ended w stop after nl hf hn h =>
    obtain ⟨w', heq, more, c, hmore, hc⟩ := begins_of_mem h.nothing h.mem
    obtain rfl := List.append_cancel_right heq
    have hn' : '\n' ∉ w ++ more := by
      simp only [List.mem_append, not_or] at hn ⊢
      exact ⟨hn.1, hmore⟩
    refine ⟨w, more ++ ['\n'], by simp, ?_⟩
    rw [← List.append_assoc, reading_feed (.line []) hn', content?_eq_some.mpr hc]
    cases c <;> simp [reading_nil]
  | @blank _ l _ _ hn h hs ih =>
    obtain ⟨seen, more, rfl, hmore⟩ := ih
    refine ⟨l ++ '\n' :: seen, more, by simp, ?_⟩
    rw [List.append_assoc, List.cons_append, Grammar.reading_of_ends (.line _) hn h]
    exact hmore
  | @header _ l _ _ _ hn h hs ih =>
    obtain ⟨seen, more, rfl, hmore⟩ := ih
    refine ⟨l ++ '\n' :: seen, more, by simp, ?_⟩
    rw [List.append_assoc, List.cons_append, Grammar.reading_of_header (.line _) hn h,
      Option.isSome_map]
    exact hmore
  | @entry l _ _ _ _ hn h hs ih =>
    obtain ⟨seen, more, rfl, hmore⟩ := ih
    refine ⟨l ++ '\n' :: seen, more, by simp, ?_⟩
    rw [List.append_assoc, List.cons_append, Grammar.reading_of_entry (.line _) hn h,
      Option.isSome_map]
    exact hmore

end Line

end Barrage
