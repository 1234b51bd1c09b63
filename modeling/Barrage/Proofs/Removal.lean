import Barrage.Proofs.Persistence

/-!
Removal.

Whoever removes shots goes through the live ones and then through the queue, and each shot that is
meant is dropped along with its body before the next one is looked at. What comes of it depends on
no order: the shots that are meant go, and their bodies with them, and everything else is as it was.
Since a number is one shot, removing a shot by its number is removing all shots that have it.
-/

namespace Barrage.Engine

variable {K : Type}

/-! ### Shots gone through one by one -/

/-- The shots that are left, and the bodies: a shot that satisfies `p` is dropped, and its body
released, before the next one is looked at. -/
def sift (p : Shot K → Bool) : List (Shot K) → Bodies K → List (Shot K) × Bodies K
  | [], bodies => ([], bodies)
  | s :: ss, bodies =>
    if p s then sift p ss (release bodies [s])
    else
      let (left, bodies) := sift p ss bodies
      (s :: left, bodies)

/-- The live shots are gone through, and then the queue. As many are gone as are missing then. -/
def siftOut (e : Engine K) (p : Shot K → Bool) : Nat × Engine K :=
  let (live, bodies) := sift p e.registry.live e.bodies
  let (queued, bodies) := sift p e.registry.queue.pending.toList bodies
  let registry : Registry K := ⟨live, { e.registry.queue with pending := queued.toArray }⟩
  (e.registry.size - registry.size, { e with registry, bodies })

variable {e : Engine K} {p : Shot K → Bool}

lemma release_append (bodies : Bodies K) (ss ts : List (Shot K)) :
    release bodies (ss ++ ts) = release (release bodies ss) ts := List.foldl_append

lemma sift_eq (p : Shot K → Bool) (ss : List (Shot K)) (bodies : Bodies K) :
    sift p ss bodies = (ss.filter (!p ·), release bodies (ss.filter p)) := by
  induction ss generalizing bodies with
  | nil => rfl
  | cons s ss ih =>
    rw [sift]
    cases hp : p s with
    | true =>
      rw [if_pos rfl, ih, List.filter_cons_of_neg (by simp [hp]), List.filter_cons_of_pos hp]
      exact congrArg (_, ·) (release_append bodies [s] _).symm
    | false =>
      simp only [Bool.false_eq_true, if_false, ih]
      rw [List.filter_cons_of_pos (by simp [hp]), List.filter_cons_of_neg (by simp [hp])]

/-- **Removing is going through the shots**, one after the other. -/
theorem removeWhere_eq_siftOut (e : Engine K) (p : Shot K → Bool) :
    e.removeWhere p = e.siftOut p := by
  have hgone : e.registry.matching p =
      e.registry.live.filter p ++ e.registry.queue.pending.toList.filter p := by
    rw [Registry.matching, Registry.shots, List.filter_append]
  have hleft : e.registry.removeWhere p = ⟨e.registry.live.filter (!p ·),
      { e.registry.queue with
        pending := (e.registry.queue.pending.toList.filter (!p ·)).toArray }⟩ := by
    rw [Registry.removeWhere, ← Array.toList_filter]
  have hsize : e.registry.size - (e.registry.removeWhere p).size = (e.removeWhere p).1 := by
    have hsum : (e.removeWhere p).1 + (e.registry.removeWhere p).size = e.registry.size :=
      size_removeWhere e p
    omega
  simp only [siftOut, sift_eq, ← hleft, hsize, ← release_append, ← hgone]
  rfl

/-! ### What is left -/

/-- A body is gone with the shot that holds it, and all others are left alone. -/
lemma get?_release (bodies : Bodies K) (gone : List (Shot K)) (b : BodyId) :
    (release bodies gone).get? b =
      if b ∈ gone.filterMap (·.body) then none else bodies.get? b := by
  induction gone generalizing bodies with
  | nil => rfl
  | cons s ss ih =>
    rw [← List.singleton_append, release_append, ih]
    rcases hs : s.body with _ | b'
    · simp [release, hs]
    · by_cases hb : b = b'
      · simp [release, hs, hb, Arena.get?_erase]
      · simp [release, hs, hb, Arena.get?_erase]

/-- What comes of removing the shots that satisfy `p`, of which there were `n`. -/
structure Removal (e : Engine K) (p : Shot K → Bool) (n : Nat) (e' : Engine K) : Prop where
  /-- The others are left as they were, live and queued, and are gone through in the same order. -/
  live : e'.registry.live = e.registry.live.filter (!p ·)
  queued : e'.registry.queue.pending.toList = e.registry.queue.pending.toList.filter (!p ·)
  shots : e'.shots = e.shots.filter (!p ·)
  count : n = e.shots.countP p ∧ n + e'.size = e.size
  released : ∀ s ∈ e.shots, p s = true → ∀ b, s.body = some b → e'.bodies.get? b = none
  /-- What no shot held that is removed is found as it was, or not found as before. -/
  others : ∀ b, (∀ s ∈ e.shots, p s = true → s.body ≠ some b) →
    e'.bodies.get? b = e.bodies.get? b
  /-- Whoever is left has its body. -/
  embodied : e.bodies.Fits → ∀ s ∈ e'.shots, ∀ b, s.body = some b →
    ∃ body, e.bodies.get? b = some body ∧ e'.bodies.get? b = some body
  issued : e'.registry.queue.issued = e.registry.queue.issued
  rest : e'.random = e.random ∧ e'.config = e.config ∧ e'.catalog = e.catalog ∧
    e'.ticks = e.ticks
  /-- Once more there is nothing to remove. -/
  again : e'.removeWhere p = (0, e')

lemma matching_removeWhere (r : Registry K) (p : Shot K → Bool) :
    (r.removeWhere p).matching p = [] := by
  rw [Registry.matching, Registry.shots_removeWhere]
  refine List.filter_eq_nil_iff.mpr fun s hs hp => ?_
  have hkept := (List.mem_filter.mp hs).2
  rw [hp] at hkept
  cases hkept

lemma removeWhere_removeWhere (r : Registry K) (p : Shot K → Bool) :
    (r.removeWhere p).removeWhere p = r.removeWhere p := by
  simp [Registry.removeWhere, List.filter_filter, Array.filter_filter]

lemma removeWhere_again (e : Engine K) (p : Shot K → Bool) :
    (e.removeWhere p).2.removeWhere p = (0, (e.removeWhere p).2) := by
  simp only [removeWhere, matching_removeWhere, removeWhere_removeWhere]
  rfl

variable [Scalar K]

lemma removal_removeWhere (ho : e.registry.InOrder) (hb : Balanced e) (p : Shot K → Bool) :
    Removal e p (e.removeWhere p).1 (e.removeWhere p).2 := by
  have hshots : (e.removeWhere p).2.shots = e.shots.filter (!p ·) :=
    Registry.shots_removeWhere e.registry p
  have hbodies (b : BodyId) : (e.removeWhere p).2.bodies.get? b =
      if b ∈ (e.shots.filter p).filterMap (·.body) then none else e.bodies.get? b :=
    get?_release e.bodies (e.shots.filter p) b
  constructor
  case live => rfl
  case queued => exact Array.toList_filter
  case shots => exact hshots
  case count => exact ⟨List.countP_eq_length_filter.symm, size_removeWhere e p⟩
  case released =>
    intro s hs hp b hbody
    rw [hbodies, if_pos (List.mem_filterMap.mpr ⟨s, List.mem_filter.mpr ⟨hs, hp⟩, hbody⟩)]
  case others =>
    intro b hfree
    rw [hbodies, if_neg fun hmem => ?_]
    obtain ⟨s, hs, hbody⟩ := List.mem_filterMap.mp hmem
    obtain ⟨hs, hp⟩ := List.mem_filter.mp hs
    exact hfree s hs hp hbody
  case embodied => exact fun fits s hs b hbody => get?_removeWhere hb ho fits hs hbody
  case issued => rfl
  case rest => exact ⟨rfl, rfl, rfl, rfl⟩
  case again => exact removeWhere_again e p

omit [Scalar K] in
/-- A shot is removed by its number exactly if there is one. -/
lemma remove_eq_true {id : ShotId} : (e.remove id).1 = true ↔ ∃ s ∈ e.shots, s.id = id := by
  have hfound : (e.remove id).1 = (e.registry.find? id).isSome := by
    rw [remove]
    split <;> rename_i hf <;> simp [hf]
  rw [hfound, Registry.find?, List.find?_isSome]
  simp only [beq_iff_eq]
  rfl

/-- The ways to remove shots. -/
structure Removals (e : Engine K) : Prop where
  /-- The shots are gone through one after the other. -/
  sifted : ∀ p, e.removeWhere p = e.siftOut p
  exact : ∀ p, Removal e p (e.removeWhere p).1 (e.removeWhere p).2
  owned : ∀ list, Removal e (·.list == list) (e.removeAllOwnedBy list).1
    (e.removeAllOwnedBy list).2
  simple : ∀ list, Removal e (fun s => s.list == list && s.isSimple)
    (e.removeAllSimpleOwnedBy list).1 (e.removeAllSimpleOwnedBy list).2
  /-- By its number a shot is removed like all that satisfy a property. -/
  single : ∀ id, (e.remove id).2 = (e.removeWhere (·.id == id)).2 ∧
    ((e.remove id).1 = true ↔ ∃ s ∈ e.shots, s.id = id)
  struck : ∀ id, (e.onStruck id).2 = (e.removeWhere (·.id == id)).2 ∧
    ((e.onStruck id).1 = true ↔ ∃ s ∈ e.shots, s.id = id)

variable {c : Catalog K} {config : Config K} {A : Step K → Prop}

/-- **Whoever is meant is removed, and nothing else is changed**, in every engine that is reached
and whichever way it is asked for; and there are handles enough for the bodies as long as no more
than `2 ^ 32` shots were created. -/
theorem Reached.removals (h : Reached c config A e) :
    Removals e ∧ (e.registry.queue.issued ≤ UInt32.size → e.bodies.Fits) := by
  have ho := h.inOrder
  have hremoval := removal_removeWhere ho h.balanced
  refine ⟨?_, h.fits⟩
  constructor
  case sifted => exact removeWhere_eq_siftOut e
  case exact => exact hremoval
  case owned => exact fun list => hremoval _
  case simple => exact fun list => hremoval _
  case single => exact fun id => ⟨remove_eq ho id, remove_eq_true⟩
  case struck => exact fun id => ⟨remove_eq ho id, remove_eq_true⟩

/-- Two live dots and a queued one. The second of the live ones is removed for its number, and those
that were created off the origin for their places, one of them from the queue. -/
theorem removals_dots :
    let dot : Template Float32 := ⟨"dot", some ⟨7, 1, 2⟩, none, none, Vec.zero, []⟩
    let enemies : Side := ⟨.none, .enemyShot⟩
    let calls : List (Op Float32) :=
      [.addAngledShot enemies ⟨160, 120⟩ "dot" 0 1, .addShot enemies Vec.zero "dot", .tick .empty,
        .addShot enemies ⟨80, 60⟩ "dot"]
    let e := calls.foldl apply (.new ⟨#[dot]⟩ Config.default)
    let (n, e') := e.removeWhere fun s => s.origin != Vec.zero
    Removals e ∧ e.bodies.Fits ∧ n = 2 ∧ e'.shots.map (·.id.raw) = [2] ∧
      (e.remove ⟨2⟩).2.shots.map (·.id.raw) = [1, 3] ∧ (e'.remove ⟨1⟩).1 = false := by
  intro dot enemies calls e
  have hreached : Reached ⟨#[dot]⟩ Config.default (fun _ => True) e :=
    Reached.new.calls fun _ _ _ _ => trivial
  have hremovals := hreached.removals
  exact ⟨hremovals.1, hremovals.2 (by decide +kernel), by decide +kernel, by decide +kernel,
    by decide +kernel, by decide +kernel⟩

end Barrage.Engine
