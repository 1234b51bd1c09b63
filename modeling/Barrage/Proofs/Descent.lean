import Barrage.Proofs.Ageing
import Barrage.Scalar.Single

/-!
On whose side a shot is.

A call that creates shots names the side they are for: an owner and a list. What the steps of these
shots create in their turns is for the same side, whether it is a tree, a row of bullets, a carrier
or the branches of a shot that splits, and so it goes on from one generation to the next. So a shot
is on the side of the call that it descends from, and a list that was cleared stays clear until
somebody outside creates a shot for it.
-/

namespace Barrage

variable {K : Type} [Scalar K]

/-- The side that a call creates shots for. -/
def Op.side? : Op K → Option Side
  | .addShot side _ _ | .addAngledShot side _ _ _ _ | .addAimedShot side _ _ _ _
  | .spawnDynamic side _ _ _ | .spawnCarrier side _ _ => some side
  | _ => none

def Shot.side (s : Shot K) : Side := ⟨s.owner, s.list⟩

/-- A birth that brings a step along, or has look and step of a template. -/
def Birth.Founded (c : Catalog K) (b : Birth K) : Prop :=
  b.step.isSome = true ∨ ∃ t ∈ c.templates, b.visual = t.visual ∧ b.step = t.step

lemma Birth.founded_tree {c : Catalog K} {t : Template K} (ht : t ∈ c.templates) (place : Vec K) :
    ∀ b ∈ (c.tree t place).map Birth.ofNode, b.Founded c := by
  intro b hb
  obtain ⟨n, hn, rfl⟩ := List.mem_map.mp hb
  exact .inr ⟨n.1, Catalog.unfold_mem ht hn, rfl, rfl⟩

namespace Engine

variable {e : Engine K} {s t : Shot K} {op : Op K}

/-- A call that creates shots adds a row of births on its side, an empty one if it fails. -/
lemma apply_of_side {side : Side} (h : op.side? = some side) :
    ∃ bs, e.apply op = e.withStage (e.stage.addAll side bs) ∧ ∀ b ∈ bs, b.Founded e.catalog := by
  have hdynamic : ∀ (place : Vec K) (name : String) (step : Step K),
      ∃ bs, e.attempted (e.spawnDynamic side place name step) =
        e.withStage (e.stage.addAll side bs) ∧ ∀ b ∈ bs, b.Founded e.catalog := by
    intro place name step
    rcases hf : e.catalog.find? name with _ | t
    · refine ⟨[], ?_, by simp⟩
      simp only [spawnDynamic, Stage.spawnDynamic, hf, Except.map, attempted]
      rfl
    · refine ⟨[⟨place, t.visual, some step⟩], ?_, by simp [Birth.Founded]⟩
      simp only [spawnDynamic, Stage.spawnDynamic, hf, Except.map, attempted]
      rfl
  cases op with
  | addShot _ place name =>
    cases h
    rcases hf : e.catalog.find? name with _ | t
    · refine ⟨[], ?_, by simp⟩
      simp only [apply, addShot, Stage.spawnTree, hf, Except.map, attempted]
      rfl
    · refine ⟨(e.catalog.tree t place).map Birth.ofNode, ?_,
        Birth.founded_tree (Catalog.find?_mem hf) place⟩
      simp only [apply, addShot, Stage.spawnTree, hf, Except.map, attempted, Stage.createAll_eq]
  | addAngledShot _ place name heading speed =>
    cases h
    exact hdynamic place name (.angled _)
  | addAimedShot _ place name offset speed =>
    cases h
    exact hdynamic place name (.aimed _)
  | spawnDynamic _ place name step =>
    cases h
    exact hdynamic place name step
  | spawnCarrier _ place step =>
    cases h
    exact ⟨[⟨place, none, some step⟩], rfl, by simp [Birth.Founded]⟩
  | _ => cases h

/-- Any other call makes a beat, or takes shots away and adds none. -/
lemma apply_of_side_none (ho : e.registry.InOrder) (h : op.side? = none) :
    (∃ b : Beat K, op = b.op) ∨ (e.apply op).shots ⊆ e.shots := by
  have hremove : ∀ p, (e.removeWhere p).2.shots ⊆ e.shots := fun p s hs => by
    rw [shots, removeWhere, Registry.shots_removeWhere] at hs
    exact (List.mem_filter.mp hs).1
  cases op with
  | tick world => exact .inl ⟨.tick world, rfl⟩
  | advance world => exact .inl ⟨.advance world, rfl⟩
  | remove id | onStruck id =>
    right
    simp only [apply, onStruck, remove_eq ho]
    exact hremove _
  | removeWhere p => exact .inr (hremove p)
  | removeAllOwnedBy list => exact .inr (hremove _)
  | removeAllSimpleOwnedBy list => exact .inr (hremove _)
  | moveBody body m => exact .inr fun _ hs => hs
  | _ => cases h

/-! ### One call -/

omit [Scalar K] in
/-- A shot is visited on the side that it is on. -/
lemma exists_side_met (ho : e.registry.InOrder) (ht : t ∈ e.registry.advance.live) :
    ∃ s ∈ e.shots, s.id = t.id ∧ s.side = t.side := by
  rw [Registry.live_advance ho] at ht
  rcases List.mem_append.mp ht with ht | ht
  · obtain ⟨s, hs, rfl⟩ := List.mem_map.mp ht
    exact ⟨s, List.mem_append_left _ hs, rfl, rfl⟩
  · exact ⟨t, List.mem_append_right _ ht, rfl, rfl⟩

lemma exists_side_turns (ho : e.registry.InOrder) {b : Beat K} {v : Visit K}
    (hv : v ∈ e.turns b) : ∃ s ∈ e.shots, s.id = v.met.id ∧ s.side = v.met.side := by
  refine exists_side_met ho ?_
  rw [← registry_poised e b, ← met_tickVisits (e.poised b) b.world]
  exact List.mem_map_of_mem hv

/-- **What a step creates is on the side of the shot that it drives.** -/
theorem side_born {b : Beat K} {v : Visit K} (hv : v ∈ e.turns b) (hs : s ∈ v.born) :
    s.side = v.met.side := by
  obtain ⟨-, howner, hlist⟩ := (lawful_act (act_tickVisits hv)).fresh s hs
  rw [Shot.side, howner, hlist, Shot.side]

/-- Where a shot comes from that is there after a call. -/
inductive Comes (e : Engine K) (op : Op K) (s : Shot K) : Prop where
  /-- It was there before. -/
  | stays (t : Shot K) (ht : t ∈ e.shots) (hid : t.id = s.id) (hside : t.side = s.side)
  /-- It was created in the turn of a shot. -/
  | born (b : Beat K) (v : Visit K) (hop : op = b.op) (hv : v ∈ e.turns b) (hs : s ∈ v.born)
  /-- It was created by the call, on the side that the call names. -/
  | called (hside : op.side? = some s.side) (hs : Arrives e op s)

lemma comes (ho : e.registry.InOrder) (hs : s ∈ (e.apply op).shots) : Comes e op s := by
  rcases hside : op.side? with _ | side
  · rcases apply_of_side_none ho hside with ⟨b, rfl⟩ | hsub
    · rw [apply_op] at hs
      rcases List.mem_append.mp hs with hs | hs
      · obtain ⟨v, hv, -, rfl⟩ := mem_live_tick.mp hs
        obtain ⟨t, ht, hid, ht'⟩ := exists_side_turns ho (b := b) hv
        have hshot := shot_visit (act_tickVisits hv)
        exact .stays t ht (by rw [hshot, hid]) (by rw [hshot, ht', Shot.side, Shot.side])
      · obtain ⟨v, hv, hborn⟩ := List.mem_flatMap.mp (queue_tick (e.poised b) b.world ▸ hs)
        exact .born b v rfl hv hborn
    · exact .stays s (hsub hs) rfl rfl
  · obtain ⟨bs, heq, -⟩ := apply_of_side (e := e) hside
    have hthere := hs
    rw [heq, shots, shots_addAll] at hs
    rcases List.mem_append.mp hs with hs | hs
    · exact .stays s hs rfl rfl
    · obtain ⟨-, howner, hlist⟩ := Stage.of_mem_newborns hs
      refine .called ?_ ⟨hthere, fun t ht hid => ?_⟩
      · rw [hside, Shot.side, howner, hlist]
      · have hlt := issued_lt_newborns hs
        rw [← hid] at hlt
        exact Nat.not_lt.mpr (ho.issued t ht).2 hlt

/-! ### Descent -/

/-- The shot of a number descends from a call in a run: it was created by the call, or in the turn
of a shot that descends from the call. -/
inductive Descends (c : Catalog K) (config : Config K) (A : Step K → Prop) (op : Op K) :
    Engine K → ShotId → Prop where
  | called {e : Engine K} {s : Shot K} {side : Side} (h : Reached c config A e)
      (hstep : ∀ step, op.step? = some step → A step) (hside : op.side? = some side)
      (hs : Arrives e op s) : Descends c config A op (e.apply op) s.id
  | born {e : Engine K} {b : Beat K} {v : Visit K} {s : Shot K} (hv : v ∈ e.turns b)
      (h : Descends c config A op e v.met.id) (hs : s ∈ v.born) :
      Descends c config A op (e.beat b) s.id
  | later {e : Engine K} {id : ShotId} (call : Op K)
      (hstep : ∀ step, call.step? = some step → A step) (h : Descends c config A op e id) :
      Descends c config A op (e.apply call) id

variable {c : Catalog K} {config : Config K} {A : Step K → Prop} {id : ShotId}

lemma Descends.reached (h : Descends c config A op e id) : Reached c config A e := by
  induction h with
  | called h hstep _ _ => exact h.call _ hstep
  | born _ _ _ ih => exact ih.beat _
  | later call hstep _ ih => exact ih.call call hstep

/-- Every shot descends from a call. -/
lemma Reached.descends (h : Reached c config A e) (hs : s ∈ e.shots) :
    ∃ op, Descends c config A op e s.id := by
  induction h generalizing s with
  | new => cases hs
  | @call e op h hstep ih =>
    cases comes h.inOrder hs with
    | stays t ht hid hside =>
      obtain ⟨op', hop⟩ := ih ht
      exact ⟨op', hid ▸ hop.later op hstep⟩
    | born b v hop hv hborn =>
      obtain ⟨r, hr, hid, -⟩ := exists_side_turns h.inOrder hv
      obtain ⟨op', hop'⟩ := ih hr
      rw [hop, apply_op]
      exact ⟨op', .born hv (hid ▸ hop') hborn⟩
    | called hside hnew => exact ⟨op, .called h hstep hside hnew⟩

/-- A number that descends from a call was issued. -/
lemma Descends.issued (h : Descends c config A op e id) :
    id.raw ≤ e.registry.queue.issued := by
  induction h with
  | called h hstep _ hs => exact ((h.call _ hstep).inOrder.issued _ hs.there).2
  | @born e b v s hv h hs _ =>
    have hthere := (arrives_of_born h.reached.inOrder hv hs).there
    rw [apply_op] at hthere
    exact ((h.reached.beat b).inOrder.issued s hthere).2
  | later call hstep h ih =>
    have ho := h.reached.inOrder
    exact Nat.le_trans ih ((change_apply ho call hstep).onward ho).issued

/-- **A shot is on the side of the call that it descends from.** -/
theorem Descends.onSide (h : Descends c config A op e id) (hs : s ∈ e.shots) (hid : s.id = id) :
    op.side? = some s.side := by
  induction h generalizing s with
  | @called e t side h hstep hside ht =>
    have ho := h.inOrder
    obtain rfl := (inOrder_apply ho op).eq_of_id hs ht.there hid
    cases comes ho hs with
    | stays r hr hrid _ => exact absurd hrid (ht.new r hr)
    | born b v hop _ _ =>
      rw [hop] at hside
      cases b <;> cases hside
    | called hside' _ => exact hside'
  | @born e b v t hv h ht ih =>
    have ho := h.reached.inOrder
    have hthere := (arrives_of_born ho hv ht).there
    rw [apply_op] at hthere
    obtain rfl := (h.reached.beat b).inOrder.eq_of_id hs hthere hid
    obtain ⟨r, hr, hrid, hside⟩ := exists_side_turns ho hv
    rw [side_born hv ht, ← hside]
    exact ih hr hrid
  | @later e id call hstep h ih =>
    have ho := h.reached.inOrder
    rcases ((change_apply ho call hstep).onward ho).used s hs with ⟨r, hr, hrid⟩ | hnew
    · cases comes ho hs with
      | stays t ht htid hside =>
        rw [← hside]
        exact ih ht (htid.trans hid)
      | born b v hop hv hborn => exact absurd hrid ((arrives_of_born ho hv hborn).new r hr)
      | called _ hnew => exact absurd hrid (hnew.new r hr)
    · have hold := h.issued
      rw [hid] at hnew
      omega

/-! ### A list that was cleared -/

/-- Where a list has no shots, no call but one on its side brings one about. -/
lemma absent_apply (ho : e.registry.InOrder) {list : CollisionList}
    (hnone : ∀ s ∈ e.shots, s.list ≠ list)
    (hside : ∀ side, op.side? = some side → side.list ≠ list) :
    ∀ s ∈ (e.apply op).shots, s.list ≠ list := by
  intro s hs
  cases comes ho hs with
  | stays t ht _ hside =>
    have hlist : t.list = s.list := congrArg Side.list hside
    exact hlist ▸ hnone t ht
  | born b v _ hv hborn =>
    obtain ⟨r, hr, -, hside⟩ := exists_side_turns ho hv
    have hlist : r.list = s.list := congrArg Side.list (hside.trans (side_born hv hborn).symm)
    exact hlist ▸ hnone r hr
  | called hside' _ => exact hside _ hside'

lemma absent_calls (ho : e.registry.InOrder) {list : CollisionList}
    (hnone : ∀ s ∈ e.shots, s.list ≠ list) {ops : List (Op K)}
    (hside : ∀ op ∈ ops, ∀ side, op.side? = some side → side.list ≠ list) :
    ∀ s ∈ (ops.foldl apply e).shots, s.list ≠ list := by
  induction ops generalizing e with
  | nil => exact hnone
  | cons op ops ih =>
    exact ih (inOrder_apply ho op) (absent_apply ho hnone (hside op (by simp)))
      fun op' h' => hside op' (by simp [h'])

omit [Scalar K] in
lemma absent_removeAllOwnedBy (e : Engine K) (list : CollisionList) :
    ∀ s ∈ (e.removeAllOwnedBy list).2.shots, s.list ≠ list := by
  intro s hs
  rw [removeAllOwnedBy, removeWhere, shots, Registry.shots_removeWhere, List.mem_filter] at hs
  simpa using hs.2

/-- The sides that the shots of an engine are on. -/
structure Sided (c : Catalog K) (config : Config K) (A : Step K → Prop) (e : Engine K) : Prop where
  /-- What a step creates has the owner and the list of the shot that it drives. -/
  inherited : ∀ b : Beat K, ∀ v ∈ e.turns b, ∀ s ∈ v.born,
    s.owner = v.met.owner ∧ s.list = v.met.list
  /-- Every shot descends from a call that creates shots for its owner and its list, -/
  descent : ∀ s ∈ e.shots, ∃ op, Descends c config A op e s.id ∧ op.side? = some ⟨s.owner, s.list⟩
  /-- and from no other. -/
  origin : ∀ op, ∀ s ∈ e.shots, Descends c config A op e s.id → op.side? = some ⟨s.owner, s.list⟩
  /-- Once a list is cleared there are no shots in it, live or queued, whatever is called, as long
  as nobody creates a shot for it. -/
  clear : ∀ list, ∀ ops : List (Op K),
    (∀ op ∈ ops, ∀ side, op.side? = some side → side.list ≠ list) →
      ∀ s ∈ (ops.foldl apply (e.removeAllOwnedBy list).2).shots, s.list ≠ list

/-- **Shots stay on the side of the call that they descend from**, and a list that was cleared
stays clear. -/
theorem Reached.sided (h : Reached c config A e) : Sided c config A e := by
  have ho := h.inOrder
  constructor
  case inherited =>
    exact fun b v hv s hs => ((lawful_act (act_tickVisits hv)).fresh s hs).2
  case descent =>
    intro s hs
    obtain ⟨op, hop⟩ := h.descends hs
    exact ⟨op, hop, hop.onSide hs rfl⟩
  case origin => exact fun op s hs hop => hop.onSide hs rfl
  case clear =>
    intro list ops hside
    exact absent_calls (ho.removeWhere _) (absent_removeAllOwnedBy e list) hside

/-- A carrier of the enemies fires rings of two. They are on its side, and once that is cleared
nothing of it is left or comes back, while a bullet of the player flies on. -/
theorem sided_flower :
    let dot : Template Float32 := ⟨"dot", some ⟨7, 1, 2⟩, none, none, Vec.zero, []⟩
    let calls : List (Op Float32) :=
      [.spawnCarrier ⟨.none, .enemyShot⟩ ⟨160, 120⟩ (.flower (.of "dot" 1 2 1)),
        .addAngledShot ⟨.player, .playerShot⟩ ⟨160, 200⟩ "dot" 0 3, .tick .empty, .tick .empty]
    let e := calls.foldl apply (.new ⟨#[dot]⟩ Config.default)
    let e' := [.tick .empty, .tick .empty].foldl apply (e.removeAllOwnedBy .enemyShot).2
    Sided ⟨#[dot]⟩ Config.default (fun _ => True) e ∧
      e.shots.map (·.id.raw) = [1, 2, 3, 4, 5, 6] ∧
      (∀ s ∈ e'.shots, s.list ≠ .enemyShot) ∧ e'.shots.map (·.id.raw) = [2] := by
  intro dot calls e e'
  have hreached : Reached ⟨#[dot]⟩ Config.default (fun _ => True) e :=
    Reached.new.calls fun _ _ _ _ => trivial
  have hsided := hreached.sided
  refine ⟨hsided, by decide +kernel, hsided.clear .enemyShot _ fun op hop side hside => ?_,
    by decide +kernel⟩
  simp only [List.mem_cons, List.not_mem_nil, or_false] at hop
  rcases hop with rfl | rfl <;> cases hside

end Engine

end Barrage
