import Barrage.Proofs.Definition.Numerals
import Barrage.ShotDefinition

/-!
What the entries of a shot group are about.

The key of an entry names a field of the shot, or the name or the offset of a sub-shot, or nothing
that a shot knows. The index in the key of a sub-shot counts by its value and not by its spelling,
so that entries with different keys may be about the same thing. What the value has to be depends on
what the entry is about.
-/

namespace Barrage.ShotDefinition

inductive Topic where
  | animation
  | damage
  | radius
  | gimmick
  | offset
  /-- The name of a sub-shot. -/
  | name (i : Nat)
  /-- The offset of a sub-shot. -/
  | place (i : Nat)
  deriving DecidableEq

/-- The field of a topic, as messages call it. -/
def Topic.field : Topic → String
  | .animation => "animation"
  | .damage => "damage"
  | .radius => "radius"
  | .gimmick => "gimmick"
  | .offset => "offset"
  | .name i => s!"subshot{i}.name"
  | .place i => s!"subshot{i}.offset"

/-! ### Keys -/

def SubShotField.text : SubShotField → String
  | .name => "name"
  | .offset => "offset"

def SubShotField.topic : SubShotField → Nat → Topic
  | .name => .name
  | .offset => .place

/-- The index as it is written ends at the first point, and the field stands behind it. -/
structure SubShotKey (key written : String) (field : SubShotField) : Prop where
  point : '.' ∉ written.toList
  spelled : key = "subshot" ++ written ++ "." ++ field.text

/-- Digits that stand for a number below the highest number of sub-shots. Keys have no signs. -/
structure Index (written : String) (i : Nat) : Prop where
  ne : written ≠ ""
  digits : ∀ c ∈ written.toList, Numeral.isDigit c = true
  value : Numeral.digitsValue written.toList = i
  lt : i < maxSubShots

inductive About : String → Topic → Prop where
  | animation : About "animation" .animation
  | damage : About "damage" .damage
  | radius : About "radius" .radius
  | gimmick : About "gimmick" .gimmick
  | offset : About "offset" .offset
  | subShot {key written : String} {field : SubShotField} {i : Nat}
      (hkey : SubShotKey key written field) (hi : Index written i) : About key (field.topic i)

/-- The key of a sub-shot with no index. -/
def Stray (key written : String) : Prop :=
  (∃ field, SubShotKey key written field) ∧ ∀ i, ¬ Index written i

lemma subShotKey?_eq_some {key written : String} {field : SubShotField} :
    subShotKey? key = some (written, field) ↔ SubShotKey key written field := by
  constructor
  · intro h
    rw [subShotKey?] at h
    split at h
    · rename_i hprefix
      obtain ⟨rest, hrest⟩ := List.isPrefixOf_iff_prefix.mp hprefix
      have hdrop : key.toList.drop 7 = rest := by rw [← hrest]; rfl
      obtain ⟨w, r, rfl, hspan⟩ := Span.exists_split (· != '.') rest
      have hpoint : '.' ∉ w := fun hmem => by simpa using hspan.inside _ hmem
      -- what stands behind the index decides on the field
      have hkey {field : SubShotField} (hr : String.ofList r = "." ++ field.text) :
          SubShotKey key (String.ofList w) field := by
        constructor
        case point => simpa using hpoint
        case spelled =>
          rw [← String.toList_inj, ← hrest, String.append_assoc, ← hr]
          simp
      rw [hdrop] at h
      dsimp only at h
      rw [hspan.take, hspan.drop] at h
      split at h
      · rename_i hr
        cases h
        exact hkey hr
      · rename_i hr
        cases h
        exact hkey hr
      · cases h
    · cases h
  · rintro ⟨hpoint, rfl⟩
    have hspan : Span (· != '.') written.toList ('.' :: field.text.toList) := by
      refine ⟨fun c hc => ?_, by simp⟩
      have hne : c ≠ '.' := fun h => hpoint (h ▸ hc)
      simpa using hne
    have hchars : ("subshot" ++ written ++ "." ++ field.text).toList =
        "subshot".toList ++ (written.toList ++ '.' :: field.text.toList) := by
      simp
    have hprefix : "subshot".toList.isPrefixOf
        ("subshot".toList ++ (written.toList ++ '.' :: field.text.toList)) = true :=
      List.isPrefixOf_iff_prefix.mpr (List.prefix_append ..)
    have hdrop : ("subshot".toList ++ (written.toList ++ '.' :: field.text.toList)).drop 7 =
        written.toList ++ '.' :: field.text.toList := rfl
    rw [subShotKey?, hchars, if_pos hprefix, hdrop]
    dsimp only
    rw [hspan.take, hspan.drop, String.ofList_toList]
    cases field <;> rfl

lemma subShotIndex_eq_ok {written : String} {i : Nat} :
    subShotIndex written = .ok i ↔ Index written i := by
  rw [subShotIndex]
  constructor
  · intro h
    split at h
    · rename_i hcond
      simp only [Bool.and_eq_true, List.all_eq_true, decide_eq_true_eq] at hcond
      obtain ⟨⟨hne, hdigits⟩, hlt⟩ := hcond
      cases h
      exact ⟨fun h => by simp [h] at hne, hdigits, rfl, hlt⟩
    · cases h
  · rintro ⟨hne, hdigits, rfl, hlt⟩
    have hne : written.toList ≠ [] := fun h => hne (String.toList_eq_nil_iff.mp h)
    simp [hne, hlt, List.all_eq_true.mpr hdigits]

lemma subShotIndex_eq_error {written : String} {f : Fault} :
    subShotIndex written = .error f ↔ f = .subShotIndex written ∧ ∀ i, ¬ Index written i := by
  simp only [← subShotIndex_eq_ok]
  rw [subShotIndex]
  split <;> simp [eq_comm]

/-- What a key is about, found out as the reading of an entry does it. -/
def topic? (key : String) : Except Fault (Option Topic) :=
  match key with
  | "animation" => .ok (some .animation)
  | "damage" => .ok (some .damage)
  | "radius" => .ok (some .radius)
  | "gimmick" => .ok (some .gimmick)
  | "offset" => .ok (some .offset)
  | _ =>
    match subShotKey? key with
    | none => .ok none
    | some (written, field) => (subShotIndex written).map fun i => some (field.topic i)

lemma topic?_subShot {key written : String} {field : SubShotField}
    (h : SubShotKey key written field) :
    topic? key = (subShotIndex written).map fun i => some (field.topic i) := by
  have hkey := subShotKey?_eq_some.mpr h
  have hne {s : String} (hs : subShotKey? s = none) : key ≠ s := by
    rintro rfl
    simp [hs] at hkey
  unfold topic?
  split
  case h_6 => simp only [hkey]
  all_goals exact absurd rfl (hne (by decide))

lemma topic?_eq_some {key : String} {t : Topic} : topic? key = .ok (some t) ↔ About key t := by
  constructor
  · intro h
    unfold topic? at h
    split at h
    case h_6 =>
      split at h
      · cases h
      · rename_i written field hkey
        rcases hi : subShotIndex written with f | i
        · simp [hi, Except.map] at h
        · rw [hi] at h
          cases h
          exact .subShot (subShotKey?_eq_some.mp hkey) (subShotIndex_eq_ok.mp hi)
    all_goals
      cases h
      constructor
  · intro h
    cases h with
    | subShot hkey hi => rw [topic?_subShot hkey, subShotIndex_eq_ok.mpr hi]; rfl
    | _ => rfl

lemma topic?_eq_error {key : String} {f : Fault} :
    topic? key = .error f ↔ ∃ written, Stray key written ∧ f = .subShotIndex written := by
  constructor
  · intro h
    unfold topic? at h
    split at h
    case h_6 =>
      split at h
      · cases h
      · rename_i written field hkey
        rcases hi : subShotIndex written with f' | i
        · rw [hi] at h
          cases h
          obtain ⟨rfl, hnone⟩ := subShotIndex_eq_error.mp hi
          exact ⟨written, ⟨⟨field, subShotKey?_eq_some.mp hkey⟩, hnone⟩, rfl⟩
        · simp [hi, Except.map] at h
    all_goals cases h
  · rintro ⟨written, ⟨⟨field, hkey⟩, hnone⟩, rfl⟩
    rw [topic?_subShot hkey, subShotIndex_eq_error.mpr ⟨rfl, hnone⟩]
    rfl

/-- **A key is about one thing at most.** -/
theorem About.unique {key : String} {t u : Topic} (h : About key t) (h' : About key u) :
    t = u := by
  have := (topic?_eq_some.mpr h).symm.trans (topic?_eq_some.mpr h')
  cases this
  rfl

/-- Sub-shots that entries are about have numbers below the highest number of them. -/
lemma About.index_lt {key : String} {t : Topic} (h : About key t) (i : Nat)
    (ht : t = .name i ∨ t = .place i) : i < maxSubShots := by
  cases h with
  | @subShot _ written field j hkey hi =>
    have hj : j = i := by
      cases field <;> simpa [SubShotField.topic] using ht
    exact hj ▸ hi.lt
  | _ => simp at ht

/-- A key that is about something is not stray. -/
lemma About.not_stray {key written : String} {t : Topic} (h : About key t) :
    ¬ Stray key written := by
  intro hs
  have herror := topic?_eq_error.mpr ⟨written, hs, rfl⟩
  rw [topic?_eq_some.mpr h] at herror
  cases herror

/-! ### Values -/

/-- What a value may have to be. -/
inductive Form where
  | word
  | number
  | text
  | point

def Topic.form : Topic → Form
  | .animation | .damage => .word
  | .radius => .number
  | .gimmick | .name _ => .text
  | .offset | .place _ => .point

variable {K : Type} [Scalar K]

/-- What a value says. -/
inductive Content (K : Type) where
  | word (n : Int32)
  | number (x : K)
  | text (s : String)
  | point (p : Vec K)

/-- The values of a form and what they say. -/
inductive Form.Reads : Form → Value → Content K → Prop where
  | word {i : Int} (hlow : -0x80000000 ≤ i) (hhigh : i < 0x80000000) :
      Reads .word (.integer i) (.word (.ofInt i))
  | integer (i : Int) : Reads .number (.integer i) (.number (Scalar.ofInt i))
  | float (x : Float) : Reads .number (.float x) (.number (Scalar.ofFloat x))
  | text (s : String) : Reads .text (.string s) (.text s)
  | flat (x y : Float) :
      Reads .point (.vector [x, y]) (.point ⟨Scalar.ofFloat x, Scalar.ofFloat y⟩)
  | space (x y z : Float) :
      Reads .point (.vector [x, y, z]) (.point ⟨Scalar.ofFloat x, Scalar.ofFloat y⟩)

/-- The values that are not of a form and what is said of them. -/
inductive Form.Refuses : Form → Value → Fault → Prop where
  | word {v : Value} (h : ∀ i, v ≠ .integer i) : Refuses .word v (.wrongType v.found "i32")
  | range {i : Int} (h : i < -0x80000000 ∨ 0x80000000 ≤ i) :
      Refuses .word (.integer i) (.wrongValue (.integer i) "i32")
  | number {v : Value} (h : ∀ i, v ≠ .integer i) (h' : ∀ x, v ≠ .float x) :
      Refuses .number v (.wrongType v.found "f32")
  | text {v : Value} (h : ∀ s, v ≠ .string s) : Refuses .text v (.wrongType v.found "a string")
  | list {v : Value} (h : ∀ xs, v ≠ .vector xs) :
      Refuses .point v (.wrongType v.found "a sequence")
  | length {xs : List Float} (h : xs.length ≠ 2) (h' : xs.length ≠ 3) :
      Refuses .point (.vector xs) (.wrongLength xs.length "a vector of 2 or 3 components")

def Form.read : Form → Value → Except Fault (Content K)
  | .word, v => (Reader.i32 v).map .word
  | .number, v => (Reader.scalar v).map .number
  | .text, v => (Reader.string v).map .text
  | .point, v => (readOffset v).map .point

lemma list_scalar (xs : List Float) :
    Reader.list (Reader.scalar (K := K)) (.vector xs) = .ok (xs.map Scalar.ofFloat) := by
  rw [Reader.list]
  induction xs with
  | nil => rfl
  | cons x xs ih =>
    rw [List.mapM_cons, ih]
    rfl

lemma readOffset_vector (xs : List Float) :
    readOffset (K := K) (.vector xs) =
      match xs with
      | [x, y] | [x, y, _] => .ok ⟨Scalar.ofFloat x, Scalar.ofFloat y⟩
      | xs => .error (.wrongLength xs.length "a vector of 2 or 3 components") := by
  rw [readOffset, list_scalar]
  rcases xs with _ | ⟨x, _ | ⟨y, _ | ⟨z, _ | ⟨_, xs⟩⟩⟩⟩ <;> simp [bind, Except.bind]

lemma Form.Reads.unique {form : Form} {v : Value} {a b : Content K} (h : form.Reads v a)
    (h' : form.Reads v b) : a = b := by
  cases h <;> cases h' <;> rfl

lemma Form.Reads.not_refuses {form : Form} {v : Value} {a : Content K} {f : Fault}
    (h : form.Reads v a) : ¬ form.Refuses v f := by
  intro hf
  cases h with
  | word hlow hhigh =>
    cases hf with
    | word h => exact h _ rfl
    | range h => omega
  | integer i => cases hf with | number h _ => exact h _ rfl
  | float x => cases hf with | number _ h => exact h _ rfl
  | text s => cases hf with | text h => exact h _ rfl
  | flat x y =>
    cases hf with
    | list h => exact h _ rfl
    | length h _ => exact h rfl
  | space x y z =>
    cases hf with
    | list h => exact h _ rfl
    | length _ h => exact h rfl

/-- A value is of a form and says something, or it is refused. -/
inductive Form.Verdict (form : Form) (v : Value) : Except Fault (Content K) → Prop where
  | reads {a : Content K} (h : form.Reads v a) : Verdict form v (.ok a)
  | refuses {f : Fault} (h : form.Refuses v f) : Verdict form v (.error f)

lemma Form.verdict (form : Form) (v : Value) : form.Verdict (K := K) v (form.read v) := by
  cases form with
  | word =>
    cases v with
    | integer i =>
      by_cases h : -0x80000000 ≤ i ∧ i < 0x80000000
      · have hread : Form.read (K := K) .word (.integer i) = .ok (.word (.ofInt i)) := by
          simp [Form.read, Reader.i32, Reader.ranged, h, Except.map]
        rw [hread]
        exact .reads (.word h.1 h.2)
      · have hread : Form.read (K := K) .word (.integer i) =
            .error (.wrongValue (.integer i) "i32") := by
          simp [Form.read, Reader.i32, Reader.ranged, h, Except.map]
        rw [hread]
        exact .refuses (.range (by omega))
    | _ => exact .refuses (.word nofun)
  | number =>
    cases v with
    | integer i => exact .reads (.integer i)
    | float x => exact .reads (.float x)
    | _ => exact .refuses (.number nofun nofun)
  | text =>
    cases v with
    | string s => exact .reads (.text s)
    | _ => exact .refuses (.text nofun)
  | point =>
    cases v with
    | vector xs =>
      rw [Form.read, readOffset_vector]
      split
      · exact .reads (.flat _ _)
      · exact .reads (.space _ _ _)
      · rename_i htwo hthree
        refine .refuses (.length (fun h => ?_) fun h => ?_)
        · obtain ⟨x, y, rfl⟩ := List.length_eq_two.mp h
          exact htwo x y rfl
        · obtain ⟨x, y, z, rfl⟩ := List.length_eq_three.mp h
          exact hthree x y z rfl
    | _ => exact .refuses (.list nofun)

end Barrage.ShotDefinition
