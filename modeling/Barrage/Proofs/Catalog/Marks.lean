import Barrage.Proofs.Catalog.Cycles
import Barrage.Scalar.Single
import Mathlib.Logic.Function.Basic

/-!
The search for cycles, told by marks.

A template is unvisited, active while the templates below it are searched, and finished after that;
an active template that is met again ends the search. Told like this, nothing bounds how deep the
search goes, and it has to be shown that it ends. It does, with the answer of the check: what is
active is what is on the path, what is finished is what was visited, and where sub-shots name
templates that are there no path is too long for the depth that the check allows for.
-/

namespace Barrage.Catalog

open Relation (TransGen)

variable {K : Type} {c : Catalog K}

inductive Mark where
  | unvisited
  /-- The templates below it are being searched. -/
  | active
  | finished
  deriving Repr, DecidableEq

abbrev Marks := Nat → Mark

/-- A search through templates, one after the other, and what comes of it: the marks that it leaves,
or the active template that it met. -/
inductive Searches (c : Catalog K) : Marks → List Nat → Except Nat Marks → Prop where
  | through (m : Marks) : Searches c m [] (.ok m)
  | skip {m : Marks} {i : Nat} {is : List Nat} {r : Except Nat Marks} (hi : m i = .finished)
      (next : Searches c m is r) : Searches c m (i :: is) r
  | meet {m : Marks} {i : Nat} {is : List Nat} (hi : m i = .active) :
      Searches c m (i :: is) (.error i)
  | fail {m : Marks} {i k : Nat} {is : List Nat} (hi : m i = .unvisited)
      (below : Searches c (Function.update m i .active) (c.children i) (.error k)) :
      Searches c m (i :: is) (.error k)
  | leave {m m' : Marks} {i : Nat} {is : List Nat} {r : Except Nat Marks} (hi : m i = .unvisited)
      (below : Searches c (Function.update m i .active) (c.children i) (.ok m'))
      (next : Searches c (Function.update m' i .finished) is r) : Searches c m (i :: is) r

/-- A search comes to one end only. -/
lemma Searches.unique {m : Marks} {is : List Nat} {r r' : Except Nat Marks}
    (h : c.Searches m is r) (h' : c.Searches m is r') : r' = r := by
  induction h generalizing r' with
  | through m =>
    cases h'
    rfl
  | skip hi _ ih =>
    cases h' with
    | skip _ next => exact ih next
    | meet hi' | fail hi' _ | leave hi' _ _ => rw [hi] at hi'; cases hi'
  | meet hi =>
    cases h' with
    | meet _ => rfl
    | skip hi' _ | fail hi' _ | leave hi' _ _ => rw [hi] at hi'; cases hi'
  | fail hi _ ih =>
    cases h' with
    | fail _ below => exact ih below
    | leave _ below _ => cases ih below
    | skip hi' _ | meet hi' => rw [hi] at hi'; cases hi'
  | leave hi _ _ ihBelow ihNext =>
    cases h' with
    | leave _ below next =>
      cases ihBelow below
      exact ihNext next
    | fail _ below => cases ihBelow below
    | skip hi' _ | meet hi' => rw [hi] at hi'; cases hi'

/-! ### Marks of a path -/

/-- What is on the path is active, and what was visited is finished. -/
def marks (path done : List Nat) : Marks := fun i =>
  if i ∈ done then .finished else if i ∈ path then .active else .unvisited

lemma marks_eq_finished {path done : List Nat} {i : Nat} (h : i ∈ done) :
    marks path done i = .finished := if_pos h

lemma marks_eq_active {path done : List Nat} {i : Nat} (h : i ∉ done) (hp : i ∈ path) :
    marks path done i = .active := by
  rw [marks, if_neg h, if_pos hp]

lemma marks_eq_unvisited {path done : List Nat} {i : Nat} (h : i ∉ done) (hp : i ∉ path) :
    marks path done i = .unvisited := by
  rw [marks, if_neg h, if_neg hp]

lemma update_active {path done : List Nat} {i : Nat} (h : i ∉ done) :
    Function.update (marks path done) i .active = marks (i :: path) done := by
  funext j
  by_cases hj : j = i
  · subst hj
    rw [Function.update_self, marks_eq_active h (List.mem_cons_self ..)]
  · simp [marks, hj]

lemma update_finished {path done : List Nat} {i : Nat} (h : i ∉ path) :
    Function.update (marks (i :: path) done) i .finished = marks path (i :: done) := by
  funext j
  by_cases hj : j = i
  · subst hj
    rw [Function.update_self, marks_eq_finished (List.mem_cons_self ..)]
  · simp [marks, hj]

/-! ### The search by marks and the visits -/

/-- The search by marks goes on as the visit of a template says. -/
def Continues (c : Catalog K) (path done : List Nat) (i : Nat) : Except Nat (List Nat) → Prop
  | .error k => ∀ is, c.Searches (marks path done) (i :: is) (.error k)
  | .ok done' => ∀ is r, c.Searches (marks path done') is r →
    c.Searches (marks path done) (i :: is) r

lemma searches_foldlM {path is : List Nat} {search : List Nat → Nat → Except Nat (List Nat)}
    (hsearch : ∀ i ∈ is, ∀ done, c.Settled done → (∀ p ∈ path, p ∉ done) →
      c.Finds path done [i] (search done i) ∧ c.Continues path done i (search done i))
    {done : List Nat} (hdone : c.Settled done) (hapart : ∀ p ∈ path, p ∉ done) :
    c.Searches (marks path done) is ((is.foldlM search done).map (marks path)) := by
  induction is generalizing done with
  | nil => exact .through _
  | cons i is ih =>
    obtain ⟨hfinds, hnext⟩ := hsearch i (by simp) done hdone hapart
    rw [List.foldlM_cons]
    rcases hr : search done i with k | done₁
    · rw [hr] at hnext
      exact hnext is
    · rw [hr] at hfinds hnext
      obtain ⟨-, -, hsettled, hout⟩ := hfinds
      exact hnext is _ (ih (fun j hj => hsearch j (by simp [hj])) hsettled hout)

/-- **A visit is a search by marks.** -/
theorem continues_visit (hrange : c.InRange) {fuel : Nat} {path done : List Nat} {i : Nat}
    (hlead : c.Leads path i) (hfuel : c.size ≤ path.length + fuel)
    (hdone : c.Settled done) (hapart : ∀ p ∈ path, p ∉ done) :
    c.Continues path done i (c.visit fuel path done i) := by
  induction fuel generalizing path done i with
  | zero =>
    rw [visit]
    split
    · rename_i hin
      exact fun is r next => .skip (marks_eq_finished (by simpa using hin)) next
    · rename_i hnew
      split
      · rename_i hin
        exact fun is => .meet (marks_eq_active (by simpa using hnew) (by simpa using hin))
      · rename_i hout
        have := hlead.length_lt (by simpa using hout)
        omega
  | succ fuel ih =>
    rw [visit]
    split
    · rename_i hin
      exact fun is r next => .skip (marks_eq_finished (by simpa using hin)) next
    · rename_i hnew
      have hnew : i ∉ done := by simpa using hnew
      split
      · rename_i hin
        exact fun is => .meet (marks_eq_active hnew (by simpa using hin))
      · rename_i hout
        have hout : i ∉ path := by simpa using hout
        have hi := marks_eq_unvisited hnew hout
        have hbelow : c.Searches (marks (i :: path) done) (c.children i)
            (((c.children i).foldlM (fun done j => c.visit fuel (i :: path) done j) done).map
              (marks (i :: path))) := by
          refine searches_foldlM (fun j hj done hdone hapart => ?_) hdone
            (by simpa using ⟨hnew, hapart⟩)
          have hlead' := hlead.cons hout hj (hrange i j hj)
          have hfuel' : c.size ≤ (i :: path).length + fuel := by
            rw [List.length_cons]
            omega
          exact ⟨finds_visit hrange hlead' hfuel' hdone hapart, ih hlead' hfuel' hdone hapart⟩
        rw [← update_active hnew] at hbelow
        rcases hr : (c.children i).foldlM (fun done j => c.visit fuel (i :: path) done j) done
          with k | done'
        · rw [hr] at hbelow
          exact fun is => .fail hi hbelow
        · rw [hr] at hbelow
          refine fun is r next => .leave hi hbelow ?_
          rw [update_finished hout]
          exact next

lemma searches_all (hrange : c.InRange) :
    c.Searches (fun _ => .unvisited) (List.range c.size)
      (((List.range c.size).foldlM (fun done i => c.visit c.size [] done i) []).map
        (marks [])) := by
  have hstart : (fun _ => .unvisited : Marks) = marks [] [] := by
    funext i
    rw [marks_eq_unvisited (by simp) (by simp)]
  rw [hstart]
  refine searches_foldlM (fun i hi done hdone hapart => ?_) settled_nil (by simp)
  have hlead : c.Leads [] i := leads_nil (List.mem_range.mp hi)
  exact ⟨finds_visit hrange hlead (by simp) hdone hapart,
    continues_visit hrange hlead (by simp) hdone hapart⟩

/-- **The check for cycles is exact.** It passes if and only if no template reaches itself, and
otherwise it names one that does; and the search by marks comes to an end, with that answer. -/
theorem checkCycles_exact (hrange : c.InRange) :
    (c.checkCycles = .ok () ↔ ∀ i, ¬ TransGen c.Edge i i) ∧
      (∀ e, c.checkCycles = .error e →
        ∃ i t, c.templates[i]? = some t ∧ TransGen c.Edge i i ∧ e = .cycle t.name) ∧
      ∃ r, (∀ r', c.Searches (fun _ => .unvisited) (List.range c.size) r' ↔ r' = r) ∧
        match r with
        | .ok m => c.checkCycles = .ok () ∧ ∀ i < c.size, m i = .finished
        | .error i => ∃ t, c.templates[i]? = some t ∧ c.checkCycles = .error (.cycle t.name) := by
  refine ⟨?_, fun e he => ?_, _, fun r' => ⟨(searches_all hrange).unique, fun hr => hr ▸
    searches_all hrange⟩, ?_⟩
  · rcases checkCycles_cases hrange with ⟨hok, hacyclic⟩ | ⟨i, t, -, hcycle, herror⟩
    · exact ⟨fun _ => hacyclic, fun _ => hok⟩
    · rw [herror]
      refine ⟨fun h => ?_, fun h => absurd hcycle (h i)⟩
      cases h
  · rcases checkCycles_cases hrange with ⟨hok, -⟩ | ⟨i, t, ht, hcycle, herror⟩
    · rw [hok] at he
      cases he
    · rw [herror] at he
      cases he
      exact ⟨i, t, ht, hcycle, rfl⟩
  · have hfinds := finds_all hrange
    rw [checkCycles]
    rcases hr : (List.range c.size).foldlM (fun done i => c.visit c.size [] done i) []
      with k | done
    · rw [hr] at hfinds
      obtain ⟨j, hedge, -⟩ := TransGen.head'_iff.mp hfinds
      obtain ⟨t, ht⟩ : ∃ t, c.templates[k]? = some t := ⟨_, Array.getElem?_eq_getElem hedge.lt⟩
      exact ⟨t, ht, by simp [ht]⟩
    · rw [hr] at hfinds
      obtain ⟨-, hmem, -, -⟩ := hfinds
      exact ⟨rfl, fun i hi => marks_eq_finished (hmem (List.mem_range.mpr hi))⟩

/-- A shot with two sub-shots that share a third, and the same with a later one that contains
itself. -/
theorem checkCycles_exact_shared :
    let shot (name : String) (below : List Nat) : Template Float32 :=
      ⟨name, none, none, none, Vec.zero, below.map (⟨·, Vec.zero⟩)⟩
    let shared : Array (Template Float32) :=
      #[shot "top" [1, 2], shot "left" [3], shot "right" [3], shot "leaf" []]
    let c : Catalog Float32 := ⟨shared⟩
    let c' : Catalog Float32 := ⟨shared.push (shot "loop" [0, 4])⟩
    c.InRange ∧ c'.InRange ∧ (∀ i, ¬ TransGen c.Edge i i) ∧
      ∃ i t, c'.templates[i]? = some t ∧ t.name = "loop" ∧ TransGen c'.Edge i i := by
  intro shot shared c c'
  have hrange : c.InRange := inRange_iff.mpr (by decide +kernel)
  have hrange' : c'.InRange := inRange_iff.mpr (by decide +kernel)
  obtain ⟨hpass, -⟩ := checkCycles_exact hrange
  obtain ⟨-, hname, -⟩ := checkCycles_exact hrange'
  have hloop : c'.checkCycles = .error (.cycle "loop") := rfl
  obtain ⟨i, t, ht, hcycle, herror⟩ := hname _ hloop
  exact ⟨hrange, hrange', hpass.mp rfl, i, t, ht, (CatalogError.cycle.inj herror).symm, hcycle⟩

end Barrage.Catalog
