import Barrage.Definition.Basic
import Mathlib.Tactic.Common

/-!
What the header of a group has to look like for the group to have a label.
-/

namespace Barrage.Group

/-- A header that reads `kind label`: a word that is the kind but for the case of its letters, a
space, and what is not white space at its ends. -/
def Header (kind name label : String) : Prop :=
  ∃ first space rest, name.toList = first ++ space :: rest ∧
    (∀ ch ∈ first, Text.isSpace ch = false) ∧ Text.isSpace space = true ∧
    Text.sameIgnoringCase (String.ofList first) kind = true ∧
    Text.trim rest ≠ [] ∧ label = String.ofList (Text.trim rest)

/-- **The label of a header is what follows the kind.** -/
theorem label?_eq_some {g : Group} {kind label : String} :
    g.label? kind = some label ↔ Header kind g.name label := by
  have hsplit := List.takeWhile_append_dropWhile (p := (!Text.isSpace ·)) (l := g.name.toList)
  rw [label?]
  constructor
  · intro h
    split at h
    · cases h
    · rename_i space rest hdrop
      rw [hdrop] at hsplit
      dsimp only at h
      split at h
      · rename_i hkind
        rw [Bool.and_eq_true] at hkind
        cases h
        refine ⟨_, space, rest, hsplit.symm, fun ch hch => ?_, ?_, hkind.1, ?_, rfl⟩
        · simpa using List.all_eq_true.mp List.all_takeWhile ch hch
        · have hne : g.name.toList.dropWhile (!Text.isSpace ·) ≠ [] := by simp [hdrop]
          simpa [hdrop] using List.head_dropWhile_not (!Text.isSpace ·) hne
        · simpa using hkind.2
      · cases h
  · rintro ⟨first, space, rest, hname, hfirst, hspace, hkind, hlabel, rfl⟩
    have hword : ∀ ch ∈ first, (!Text.isSpace ch) = true := by simpa using hfirst
    have htake : g.name.toList.takeWhile (!Text.isSpace ·) = first := by
      rw [hname, List.takeWhile_append_of_pos hword]
      simp [hspace]
    have hdrop : g.name.toList.dropWhile (!Text.isSpace ·) = space :: rest := by
      rw [hname, List.dropWhile_append_of_pos hword]
      simp [hspace]
    simp [htake, hdrop, hkind, hlabel]

end Barrage.Group
