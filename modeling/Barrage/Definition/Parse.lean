import Barrage.Definition.Line
import Barrage.Text.Place

/-!
From the text of a definition to its groups. The lines are read in order; the first one that says
nothing ends the reading, and the place reported is its reach.
-/

namespace Barrage

open Line (Content)

/-- What the lines say, or the number of characters in front of the place where one says nothing.
An entry is expected only once a header has come; `start` characters stand in front. -/
def Line.contents (inGroup : Bool) (start : Nat) : List Line → Except Nat (List Content)
  | [] => .ok []
  | l :: ls =>
    match l.content? inGroup with
    | none => .error (start + l.reach inGroup)
    | some c =>
      let isHeader := match c with
        | .header _ => true
        | _ => false
      (Line.contents (inGroup || isHeader) (start + l.chars.length + 1) ls).map (c :: ·)

/-- The entries up to the next header. -/
def Line.Content.entries : List Content → List (String × Value)
  | [] => []
  | .header _ :: _ => []
  | .entry key v :: cs => (key, v) :: entries cs
  | .blank :: cs => entries cs

/-- Every header opens a group. -/
def Line.Content.groups : List Content → List Group
  | [] => []
  | .header name :: cs => ⟨name, entries cs⟩ :: groups cs
  | _ :: cs => groups cs

/-- The definition that a text spells, or the place where the reading of it stops. -/
def Definition.parse (text : String) : Except Text.Place Definition :=
  match Line.contents false 0 (Line.ofText text.toList) with
  | .ok contents => .ok ⟨Content.groups contents⟩
  | .error n => .error (Text.Place.after (text.toList.take n))

end Barrage
