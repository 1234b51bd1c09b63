import Barrage.Proofs.Identity
import Barrage.Proofs.Likeness
import Barrage.Proofs.Scalar.Zero

/-!
The age of a shot.

A new shot waits in the queue for the next tick. There it has its first turn, at frame zero, and
every further tick finds it a frame older, whatever is called in between; nothing else about it
changes but its step. While it waits, its body rests where it was created: the flight of a body
without velocity adds zero to its place.
-/

namespace Barrage

variable {K : Type} [Scalar K]

omit [Scalar K] in
lemma Beat.ticks_op (b : Beat K) : b.op.ticks = 1 := by
  cases b <;> rfl

namespace Engine

/-! ### Calls by their kind -/

/-- A call makes a beat, moves a body, creates shots or removes some. -/
inductive Kind (e : Engine K) : Op K → Prop where
  | beat (b : Beat K) : Kind e b.op
  | move (body : BodyId) (m : Motion K) : Kind e (.moveBody body m)
  | create (op : Op K) (side : Side) (bs : List (Birth K)) (hticks : op.ticks = 0)
      (h : e.apply op = e.withStage (e.stage.addAll side bs)) : Kind e op
  | remove (op : Op K) (p : Shot K → Bool) (hticks : op.ticks = 0)
      (h : e.apply op = (e.removeWhere p).2) : Kind e op

variable {e e' : Engine K} {s t : Shot K} {n m : Nat}

lemma kind_of_created {op : Op K} (hticks : op.ticks = 0)
    (h : Created (fun _ => True) e (e.apply op)) : Kind e op := by
  obtain ⟨side, bs, -, h⟩ := h
  exact .create op side bs hticks h

lemma kind (ho : e.registry.InOrder) (op : Op K) : Kind e op := by
  cases op with
  | addShot side place name => exact kind_of_created rfl (created_addShot side place name)
  | addAngledShot side place name heading speed =>
    exact kind_of_created rfl (created_spawnDynamic side place name (.angled _))
  | addAimedShot side place name offset speed =>
    exact kind_of_created rfl (created_spawnDynamic side place name (.aimed _))
  | spawnDynamic side place name step =>
    exact kind_of_created rfl (created_spawnDynamic side place name (.brought trivial))
  | spawnCarrier side place step =>
    exact kind_of_created rfl (created_single side place none (.brought trivial))
  | tick world => exact .beat (.tick world)
  | advance world => exact .beat (.advance world)
  | remove id | onStruck id => exact .remove _ _ rfl (remove_eq ho id)
  | removeWhere p => exact .remove _ p rfl rfl
  | removeAllOwnedBy list => exact .remove _ _ rfl rfl
  | removeAllSimpleOwnedBy list => exact .remove _ _ rfl rfl
  | moveBody body m => exact .move body m

/-! ### The age -/

/-- A shot of the engine that was created as `s`, `n` ticks ago. -/
structure Aged (e : Engine K) (s : Shot K) (n : Nat) (t : Shot K) : Prop where
  same : t = { s with frame := t.frame, step := t.step }
  queued : n = 0 → t ∈ e.registry.queue.pending.toList ∧ t = s
  live : 0 < n → t ∈ e.registry.live ∧ t.frame = UInt32.ofNat (n - 1)

/-- The shot of the number of `s`, if there is one, was created as `s`, `n` ticks ago. -/
structure Ages (e : Engine K) (s : Shot K) (n : Nat) : Prop where
  issued : s.id.raw ≤ e.registry.queue.issued
  new : s.frame = 0
  aged : ∀ t ∈ e.shots, t.id = s.id → Aged e s n t

omit [Scalar K] in
/-- How a shot is met in a beat. -/
lemma Aged.met (h : Aged e s n t) (ho : e.registry.InOrder) (hnew : s.frame = 0) :
    { t with frame := UInt32.ofNat n } ∈ e.registry.advance.live := by
  rw [Registry.live_advance ho]
  rcases n with _ | n
  · obtain ⟨hmem, rfl⟩ := h.queued rfl
    have hsame : ({ t with frame := UInt32.ofNat 0 } : Shot K) = t :=
      congrArg (fun frame => { t with frame }) hnew.symm
    rw [hsame]
    exact List.mem_append_right _ hmem
  · obtain ⟨hmem, hframe⟩ := h.live (Nat.succ_pos n)
    refine List.mem_append_left _ (List.mem_map.mpr ⟨t, hmem, ?_⟩)
    rw [Shot.aged, hframe, Nat.add_sub_cancel, UInt32.ofNat_add]
    rfl

/-- In a beat a shot is visited once, and its frame is its age. -/
lemma Ages.turn (h : Ages e s n) (ho : e.registry.InOrder) (ht : t ∈ e.shots) (hid : t.id = s.id)
    (b : Beat K) : ∃ v ∈ e.turns b, v.met = { t with frame := UInt32.ofNat n } ∧
      v.Lawful e.catalog e.config b.world ∧ ∀ w ∈ e.turns b, w.met.id = s.id → w = v := by
  have hmet := (h.aged t ht hid).met ho h.new
  rw [← registry_poised e b, ← met_tickVisits (e.poised b) b.world] at hmet
  obtain ⟨v, hv, hvt⟩ := List.mem_map.mp hmet
  have hvid : v.met.id = s.id := by rw [hvt, ← hid]
  exact ⟨v, hv, hvt, lawful_act (act_turns hv), fun w hw hwid =>
    turn_unique ho hv hw (hwid.trans hvid.symm)⟩

lemma Ages.beat (h : Ages e s n) (ho : e.registry.InOrder) (b : Beat K) :
    Ages (e.beat b) s (n + 1) := by
  have hop : (e.poised b).registry.InOrder := by rwa [registry_poised]
  refine ⟨Nat.le_trans h.issued (issued_le_beat e b), h.new, fun t ht hid => ?_⟩
  rcases List.mem_append.mp ht with hlive | hqueue
  · obtain ⟨v, hv, hkept, hvt⟩ := mem_live_tick.mp hlive
    have hvid : v.met.id = s.id := by rw [← id_tickVisits hv, hvt, hid]
    obtain ⟨r, hr, hrid⟩ := exists_shot_turns ho (b := b) hv
    obtain ⟨w, hw, hwr, -, hunique⟩ := h.turn ho hr (hrid.trans hvid) b
    obtain rfl := hunique v hv hvid
    have hrs := (h.aged r hr (hrid.trans hvid)).same
    have htv : t = { v.met with step := t.step } := by
      rw [← hvt]
      exact shot_visit (act_tickVisits hv)
    rw [hwr] at htv
    have hframe : t.frame = UInt32.ofNat n := by rw [htv]
    refine ⟨?_, fun h0 => absurd h0 (Nat.succ_ne_zero n), fun _ => ⟨hlive, hframe⟩⟩
    calc t = { r with frame := UInt32.ofNat n, step := t.step } := htv
      _ = { s with frame := UInt32.ofNat n, step := t.step } := by rw [hrs]
      _ = { s with frame := t.frame, step := t.step } := by rw [hframe]
  · have hnew := queue_tick (e.poised b) b.world ▸ hqueue
    obtain ⟨v, hv, ht⟩ := List.mem_flatMap.mp hnew
    have hlt := issued_lt_born hv ht
    have hle := h.issued
    rw [registry_poised, hid] at hlt
    omega

lemma queue_create (e : Engine K) (side : Side) (bs : List (Birth K)) :
    (e.withStage (e.stage.addAll side bs)).registry.queue.pending.toList =
      e.registry.queue.pending.toList ++ e.stage.newborns side bs :=
  Stage.pending_addAll e.stage side bs

lemma issued_lt_newborns {side : Side} {bs : List (Birth K)} (h : t ∈ e.stage.newborns side bs) :
    e.registry.queue.issued < t.id.raw := by
  have hraw := List.mem_map_of_mem (f := fun t : Shot K => t.id.raw) h
  rw [Stage.ids_newborns, List.mem_range'_1] at hraw
  exact hraw.1

omit [Scalar K] in
/-- Whoever stays where it is does not age. -/
lemma Ages.still (h : Ages e s n) (hissued : e.registry.queue.issued ≤ e'.registry.queue.issued)
    (hlive : ∀ t ∈ e'.registry.live, t.id = s.id → t ∈ e.registry.live)
    (hqueue : ∀ t ∈ e'.registry.queue.pending.toList, t.id = s.id →
      t ∈ e.registry.queue.pending.toList) (ho : e.registry.InOrder) : Ages e' s n := by
  have hapart : ∀ t ∈ e.registry.live, t ∉ e.registry.queue.pending.toList := by
    have hnodup := ho.nodup.of_map
    rw [Registry.shots, List.nodup_append] at hnodup
    exact fun t ht ht' => hnodup.2.2 t ht t ht' rfl
  refine ⟨Nat.le_trans h.issued hissued, h.new, fun t ht hid => ?_⟩
  rcases List.mem_append.mp ht with ht | ht
  · have hold := hlive t ht hid
    obtain ⟨hsame, hq, hl⟩ := h.aged t (List.mem_append_left _ hold) hid
    exact ⟨hsame, fun hn => absurd (hq hn).1 (hapart t hold), fun hn => ⟨ht, (hl hn).2⟩⟩
  · have hold := hqueue t ht hid
    obtain ⟨hsame, hq, hl⟩ := h.aged t (List.mem_append_right _ hold) hid
    exact ⟨hsame, fun hn => ⟨ht, (hq hn).2⟩, fun hn => absurd hold (hapart t (hl hn).1)⟩

lemma Ages.apply (h : Ages e s n) (ho : e.registry.InOrder) (op : Op K) :
    Ages (e.apply op) s (n + op.ticks) := by
  cases kind ho op with
  | beat b =>
    rw [apply_op, b.ticks_op]
    exact h.beat ho b
  | move body m => exact h.still (Nat.le_refl _) (fun _ ht _ => ht) (fun _ ht _ => ht) ho
  | create _ side bs hticks heq =>
    rw [heq, hticks]
    have hissued : (e.withStage (e.stage.addAll side bs)).registry.queue.issued =
        e.registry.queue.issued + bs.length := Stage.issued_addAll e.stage side bs
    refine h.still (hissued ▸ Nat.le_add_right _ _) (fun _ ht _ => ht) (fun t ht hid => ?_) ho
    rw [queue_create] at ht
    refine (List.mem_append.mp ht).resolve_right fun hnew => ?_
    have hlt := issued_lt_newborns hnew
    have hle := h.issued
    rw [hid] at hlt
    omega
  | remove _ p hticks heq =>
    rw [heq, hticks]
    refine h.still (Nat.le_refl _) (fun t ht _ => ?_) (fun t ht _ => ?_) ho
    · exact (List.mem_filter.mp ht).1
    · simp only [removeWhere, Registry.removeWhere, Array.toList_filter] at ht
      exact (List.mem_filter.mp ht).1

/-- Between ticks a shot is removed by whoever asks for it, and by nothing else. -/
lemma stays_apply (ho : e.registry.InOrder) {op : Op K} (hticks : op.ticks = 0)
    (hs : s ∈ e.shots) : s ∈ (e.apply op).shots ∨
      ∃ p : Shot K → Bool, p s = true ∧ e.apply op = (e.removeWhere p).2 := by
  cases kind ho op with
  | beat b => cases b.ticks_op.symm.trans hticks
  | move body m => exact .inl hs
  | create _ side bs _ heq =>
    rw [heq, shots, shots_addAll]
    exact .inl (List.mem_append_left _ hs)
  | remove _ p _ heq =>
    cases hp : p s with
    | true => exact .inr ⟨p, hp, heq⟩
    | false =>
      left
      rw [heq, removeWhere, shots, Registry.shots_removeWhere]
      exact List.mem_filter.mpr ⟨hs, by rw [hp]; rfl⟩

/-- **Every tick finds a shot a tick older**, whatever is called in between. -/
theorem Later.ages (hl : Later e n e') (ho : e.registry.InOrder) (h : Ages e s 0) :
    Ages e' s n := by
  induction hl with
  | refl => exact h
  | call op hl ih => exact ih.apply (hl.inOrder ho) op
  | disturb bodies hl ih =>
    exact ih.still (Nat.le_refl _) (fun _ ht _ => ht) (fun _ ht _ => ht) (hl.inOrder ho)

omit [Scalar K] in
/-- So it deals the damage that it was created with. -/
lemma Ages.contactDamage (h : Ages e s n) (ho : e.registry.InOrder) (ht : t ∈ e.shots)
    (hid : t.id = s.id) : e.contactDamage s.id = s.contactDamage := by
  have hfind := (find?_eq_some ho).mpr ⟨ht, hid⟩
  rw [Engine.contactDamage, hfind, Option.bind_some, (h.aged t ht hid).same]
  rfl

/-! ### Birth -/

/-- The shot is not there before the call, and it is there afterwards. -/
structure Arrives (e : Engine K) (op : Op K) (s : Shot K) : Prop where
  there : s ∈ (e.apply op).shots
  new : ∀ t ∈ e.shots, t.id ≠ s.id

lemma inOrder_apply (ho : e.registry.InOrder) (op : Op K) : (e.apply op).registry.InOrder :=
  (change_apply (A := fun _ => True) ho op fun _ _ => trivial).inOrder ho

/-- A new shot is created in a visit or by a row of births. -/
lemma born_of_arrives (ho : e.registry.InOrder) {op : Op K} (h : Arrives e op s) :
    (∃ b v, op = b.op ∧ v ∈ e.turns b ∧ s ∈ v.born) ∨
      ∃ side bs, e.apply op = e.withStage (e.stage.addAll side bs) ∧
        s ∈ e.stage.newborns side bs := by
  obtain ⟨hs, hnew⟩ := h
  have hout (hmem : s ∈ e.shots) : False := hnew s hmem rfl
  cases kind ho op with
  | beat b =>
    rw [apply_op] at hs
    rcases List.mem_append.mp hs with hs | hs
    · obtain ⟨v, hv, -, hvs⟩ := mem_live_tick.mp hs
      obtain ⟨r, hr, hid⟩ := exists_shot_turns ho (b := b) hv
      exact absurd (by rw [hid, ← id_tickVisits hv, hvs]) (hnew r hr)
    · obtain ⟨v, hv, hborn⟩ := List.mem_flatMap.mp (queue_tick (e.poised b) b.world ▸ hs)
      exact .inl ⟨b, v, rfl, hv, hborn⟩
  | move body m => exact (hout hs).elim
  | create _ side bs hticks heq =>
    rw [heq] at hs
    have hmem : s ∈ e.registry.shots ++ e.stage.newborns side bs := by
      rw [← shots_addAll]
      exact hs
    exact .inr ⟨side, bs, heq, (List.mem_append.mp hmem).resolve_left hout⟩
  | remove _ p hticks heq =>
    rw [heq] at hs
    have hmem : s ∈ e.registry.shots.filter (!p ·) := by
      rw [← Registry.shots_removeWhere]
      exact hs
    exact (hout (List.mem_filter.mp hmem).1).elim

/-- A new shot waits in the queue, at frame zero. -/
lemma waits_of_arrives (ho : e.registry.InOrder) {op : Op K} (h : Arrives e op s) :
    s ∈ (e.apply op).registry.queue.pending.toList ∧ s.frame = 0 := by
  rcases born_of_arrives ho h with ⟨b, v, rfl, hv, hborn⟩ | ⟨side, bs, heq, hborn⟩
  · refine ⟨?_, ((lawful_act (act_tickVisits hv)).fresh s hborn).1⟩
    rw [apply_op, Engine.beat, queue_tick]
    exact List.mem_flatMap.mpr ⟨v, hv, hborn⟩
  · rw [heq, queue_create]
    exact ⟨List.mem_append_right _ hborn, (Stage.of_mem_newborns hborn).1⟩

lemma ages_of_arrives (ho : e.registry.InOrder) {op : Op K} (h : Arrives e op s) :
    Ages (e.apply op) s 0 := by
  have ho' := inOrder_apply ho op
  obtain ⟨hwaits, hframe⟩ := waits_of_arrives ho h
  refine ⟨(ho'.issued s h.there).2, hframe, fun t ht hid => ?_⟩
  obtain rfl := ho'.eq_of_id ht h.there hid
  exact ⟨rfl, fun _ => ⟨hwaits, rfl⟩, fun h0 => absurd h0 (Nat.lt_irrefl 0)⟩

/-- A shot is not visited in the beat that creates it. -/
lemma Arrives.unvisited {b : Beat K} (h : Arrives e b.op s) (ho : e.registry.InOrder) :
    ∀ v ∈ e.turns b, v.met.id ≠ s.id := by
  intro v hv hid
  obtain ⟨r, hr, hrid⟩ := exists_shot_turns ho hv
  exact h.new r hr (hrid.trans hid)

/-- What a visit creates is there after the beat, whatever else happens in it. -/
lemma arrives_of_born (ho : e.registry.InOrder) {b : Beat K} {v : Visit K} (hv : v ∈ e.turns b)
    (hs : s ∈ v.born) : Arrives e b.op s := by
  constructor
  case there =>
    rw [apply_op]
    refine List.mem_append_right _ ?_
    rw [Engine.beat, queue_tick]
    exact List.mem_flatMap.mpr ⟨v, hv, hs⟩
  case new =>
    intro t ht hid
    have hlt := issued_lt_born hv hs
    rw [registry_poised, ← hid] at hlt
    exact Nat.not_lt.mpr (ho.issued t ht).2 hlt

end Engine

/-! ### Rest -/

/-- The body of a shot, if it has one, is where the shot was created and does not fly. -/
def Likeness.Rests (l : Likeness K) : Prop := ∀ f, l.body = some f → f = some (.rest l.origin)

lemma Likeness.rests_ofBirth (side : Side) (b : Birth K) : (ofBirth side b).Rests := by
  intro f hf
  obtain ⟨v, -, rfl⟩ := Option.map_eq_some_iff.mp hf
  rfl

/-- Whatever a turn creates rests. -/
lemma Likeness.rests_children {c : Catalog K} {config : Config K} {world : World K}
    {l : Likeness K} {r r' : Random} {fate : Fate K} (h : l.act c config world r = (fate, r')) :
    ∀ l' ∈ fate.children, l'.Rests := by
  obtain rfl : (l.act c config world r).1 = fate := by rw [h]
  intro l' hl'
  rw [act] at hl'
  split at hl'
  · cases hl'
  · obtain ⟨b, -, rfl⟩ := List.mem_map.mp hl'
    exact rests_ofBirth _ b

namespace Engine

variable {e e' : Engine K} {s t : Shot K} {n : Nat} {op : Op K}

/-- What holds bodies and shots together. -/
structure Settled (e : Engine K) : Prop where
  inOrder : e.registry.InOrder
  balanced : Balanced e

lemma Settled.apply (h : Settled e) (op : Op K) : Settled (e.apply op) := by
  have hc := change_apply (A := fun _ => True) h.inOrder op fun _ _ => trivial
  exact ⟨hc.inOrder h.inOrder, hc.balanced h.inOrder h.balanced⟩

lemma Settled.poised (h : Settled e) (b : Beat K) : Settled (e.poised b) :=
  ⟨by rw [registry_poised]; exact h.inOrder, balanced_poised h.balanced b⟩

/-- A new shot rests. -/
lemma rests_of_arrives (h : Settled e) (fits : (e.apply op).bodies.Fits) (hs : Arrives e op s) :
    ((e.apply op).likeness s).Rests := by
  have hthere := hs.there
  rcases born_of_arrives h.inOrder hs with ⟨b, v, rfl, hv, hborn⟩ | ⟨side, bs, heq, hborn⟩
  · rw [apply_op] at hthere fits ⊢
    obtain ⟨ho, hb⟩ := h.poised b
    have hchildren := Likeness.rests_children (tick_likeness hb ho fits v hv)
    rw [Engine.beat, ← likeness_tick hb ho fits hthere]
    exact hchildren _ (List.mem_map_of_mem hborn)
  · rw [heq] at fits ⊢
    have hlook := Stage.likeness_newborns h.balanced.sound fits
    have hmem := List.mem_map_of_mem (f := (·.likeness (e.stage.addAll side bs).bodies)) hborn
    rw [hlook] at hmem
    obtain ⟨b, -, hb⟩ := List.mem_map.mp hmem
    show (s.likeness (e.stage.addAll side bs).bodies).Rests
    rw [← hb]
    exact Likeness.rests_ofBirth side b

/-! ### Calls that leave a body alone -/

/-- The engines that come after one without a tick and without a motion of a body. -/
inductive Calm (body : BodyId) (e : Engine K) : Engine K → Prop where
  | refl : Calm body e e
  | call {e' : Engine K} (op : Op K) (h : Calm body e e') (hticks : op.ticks = 0)
      (hmove : ∀ m, op ≠ .moveBody body m) : Calm body e (e'.apply op)

lemma Calm.later {body : BodyId} (h : Calm body e e') : Later e 0 e' := by
  induction h with
  | refl => exact .refl
  | call op h hticks hmove ih =>
    have hcall := ih.call op
    rwa [hticks] at hcall

lemma Calm.settled {body : BodyId} (h : Calm body e e') (hs : Settled e) : Settled e' := by
  induction h with
  | refl => exact hs
  | call op h hticks hmove ih => exact ih.apply op

lemma fits_of_apply (h : Settled e) (fits : (e.apply op).bodies.Fits) : e.bodies.Fits := by
  cases kind h.inOrder op with
  | beat b =>
    rw [apply_op] at fits
    exact fits_of_beat fits
  | move body m => exact (Bodies.fits_move _ body m).mp fits
  | create _ side bs hticks heq =>
    rw [heq] at fits
    exact Stage.fits_of_addAll fits
  | remove _ p hticks heq =>
    rw [heq] at fits
    exact (fits_release _ _).mp fits

lemma Calm.fits {body : BodyId} (h : Calm body e e') (he : Settled e) (fits : e'.bodies.Fits) :
    e.bodies.Fits := by
  induction h with
  | refl => exact fits
  | call op h hticks hmove ih => exact ih (fits_of_apply (h.settled he) fits)

/-- A call that neither ticks nor moves its body leaves a shot as it is. -/
lemma likeness_apply (h : Settled e) (fits : (e.apply op).bodies.Fits) (hticks : op.ticks = 0)
    (hs : s ∈ e.shots) (hs' : s ∈ (e.apply op).shots)
    (hmove : ∀ body m, s.body = some body → op ≠ .moveBody body m) :
    (e.apply op).likeness s = e.likeness s := by
  have hone := h.balanced.oneToOne_of_fits h.inOrder (fits_of_apply h fits)
  have hone' := (h.apply op).balanced.oneToOne_of_fits (h.apply op).inOrder fits
  refine Shot.likeness_congr fun b hb => ?_
  obtain ⟨body, hbody, -⟩ := hone.resolves s hs b hb
  obtain ⟨body', hbody', -⟩ := hone'.resolves s hs' b hb
  cases kind h.inOrder op with
  | beat beat => cases beat.ticks_op.symm.trans hticks
  | move other m =>
    have hne : b ≠ other := fun he => hmove b m hb (he ▸ rfl)
    exact (Arena.get?_modify _ _ _ _).trans (if_neg hne)
  | create _ side bs hticks heq =>
    rw [heq] at fits ⊢
    rw [hbody]
    exact Stage.get?_addAll h.balanced.sound hbody
  | remove _ p hticks heq =>
    rw [heq] at hbody' ⊢
    rw [hbody', get?_of_release hbody']

/-- A body that rests is there, since somewhere is where it is. -/
lemma flight_of_rests {body : BodyId} (h : (e.likeness s).Rests) (hbody : s.body = some body) :
    ∃ x, e.bodies.get? body = some x ∧ x.flight = .rest s.origin := by
  have hflight : e.bodies.flight? body = some (.rest s.origin) :=
    h _ (by rw [likeness, Shot.likeness, hbody, Option.map_some])
  exact Option.map_eq_some_iff.mp hflight

/-- Calls without a tick and without a motion of its body leave a shot that waits as it is. -/
lemma Calm.likeness {body : BodyId} (h : Calm body e e') (he : Settled e) (hage : Ages e s 0)
    (hbody : s.body = some body) (hs : s ∈ e'.shots) (fits : e'.bodies.Fits) :
    e'.likeness s = e.likeness s := by
  induction h with
  | refl => rfl
  | @call e₁ op h hticks hmove ih =>
    have h₁ := h.settled he
    have hage₁ := h.later.ages he.inOrder hage
    have hs₁ : s ∈ e₁.shots := by
      have hchange := change_apply (A := fun _ => True) h₁.inOrder op fun _ _ => trivial
      rcases (hchange.onward h₁.inOrder).used s hs with ⟨t, ht, hid⟩ | hnew
      · obtain ⟨-, rfl⟩ := (hage₁.aged t ht hid).queued rfl
        exact ht
      · exact absurd hnew (Nat.not_lt.mpr hage₁.issued)
    have hkept : (e₁.apply op).likeness s = e₁.likeness s := by
      refine likeness_apply h₁ fits hticks hs₁ hs fun b m hb => ?_
      obtain rfl : body = b := Option.some.inj (hbody.symm.trans hb)
      exact hmove m
    rw [hkept, ih hs₁ (fits_of_apply h₁ fits)]

end Engine

/-- A body is where its shot was created, as a number, and does not fly. -/
structure Body.AtRest (b : Body Float32) (s : Shot Float32) : Prop where
  across : Single.Same b.position.x s.origin.x
  down : Single.Same b.position.y s.origin.y
  velocity : b.velocity = Vec.zero

/-- The flight of a body at rest takes it nowhere. -/
lemma Body.atRest_of_flight {b : Body Float32} {s : Shot Float32}
    (h : b.flight = .rest s.origin) : b.AtRest s ∧ b.step.AtRest s := by
  have hposition : b.position = s.origin := congrArg Flight.position h
  have hvelocity : b.velocity = Vec.zero := congrArg Flight.velocity h
  have hstep : b.step.position = s.origin + Vec.zero := by
    rw [Body.step, hposition, hvelocity]
  constructor
  · exact ⟨hposition ▸ .refl _, hposition ▸ .refl _, hvelocity⟩
  · refine ⟨?_, ?_, hvelocity⟩
    · rw [hstep]
      exact Single.same_add_zero _
    · rw [hstep]
      exact Single.same_add_zero _

namespace Engine

/-- The life of a shot `s` that a call `op` has brought about. -/
structure Life (e : Engine Float32) (op : Op Float32) (s : Shot Float32) : Prop where
  /-- It waits for the next tick. -/
  waits : s ∈ (e.apply op).registry.queue.pending.toList ∧ s.frame = 0
  unvisited : ∀ b : Beat Float32, op = b.op → ∀ v ∈ e.turns b, v.met.id ≠ s.id
  /-- As long as there is no tick, it goes on waiting and is not touched. -/
  queued : ∀ e', Later (e.apply op) 0 e' → ∀ t ∈ e'.shots, t.id = s.id →
    t ∈ e'.registry.queue.pending.toList ∧ t = s
  /-- Nobody but a call that removes it takes it away. -/
  stays : ∀ e', Later (e.apply op) 0 e' → s ∈ e'.shots → ∀ call : Op Float32, call.ticks = 0 →
    s ∈ (e'.apply call).shots ∨
      ∃ p : Shot Float32 → Bool, p s = true ∧ e'.apply call = (e'.removeWhere p).2
  /-- It waits with its body at rest, up to the moment at which the turns of a tick begin. -/
  rests : ∀ body e', s.body = some body → Calm body (e.apply op) e' → s ∈ e'.shots →
    e'.bodies.Fits → ∃ x, e'.bodies.get? body = some x ∧ x.AtRest s ∧
      ∀ b : Beat Float32, ∃ y, (e'.poised b).bodies.get? body = some y ∧ y.AtRest s
  /-- In the tick after `n` others it has one turn, and its frame is `n` then. -/
  turn : ∀ n e', Later (e.apply op) n e' → n < UInt32.size → ∀ t ∈ e'.shots, t.id = s.id →
    ∀ b : Beat Float32, ∃ v ∈ e'.turns b, v.met = { t with frame := v.met.frame } ∧
      v.met.frame.toNat = n ∧ v.Lawful e'.catalog e'.config b.world ∧
      ∀ w ∈ e'.turns b, w.met.id = s.id → w = v
  /-- The frame of that turn is to be read until the next one. -/
  counted : ∀ n e', Later (e.apply op) n e' → 0 < n → n ≤ UInt32.size → ∀ t ∈ e'.shots,
    t.id = s.id → t ∈ e'.registry.live ∧ t.frame.toNat + 1 = n
  /-- Nothing changes about it but its frame and its step. -/
  constant : ∀ n e', Later (e.apply op) n e' → ∀ t ∈ e'.shots, t.id = s.id →
    t = { s with frame := t.frame, step := t.step } ∧
      e'.contactDamage s.id = s.contactDamage

/-- **A shot first runs in the tick after the call that created it, at frame zero, and is a frame
older in every further tick**, whatever is called in between, up to the range of the counter. What
a step creates in a tick is there after it and lives in the same way. -/
theorem Reached.life {c : Catalog Float32} {config : Config Float32} {A : Step Float32 → Prop}
    {e : Engine Float32} (h : Reached c config A e) (op : Op Float32) :
    (∀ b : Beat Float32, op = b.op → ∀ v ∈ e.turns b, ∀ s ∈ v.born, Arrives e op s) ∧
      ∀ s, Arrives e op s → Life e op s := by
  have he : Settled e := ⟨h.inOrder, h.balanced⟩
  have he' : Settled (e.apply op) := he.apply op
  refine ⟨fun b hop v hv s hs => hop ▸ arrives_of_born he.inOrder hv hs, fun s hs => ?_⟩
  have hage := ages_of_arrives he.inOrder hs
  have hages {n : Nat} {e' : Engine Float32} (h' : Later (e.apply op) n e') : Ages e' s n :=
    h'.ages he'.inOrder hage
  constructor
  case waits => exact waits_of_arrives he.inOrder hs
  case unvisited =>
    rintro b rfl
    exact hs.unvisited he.inOrder
  case queued => exact fun e' h' t ht hid => ((hages h').aged t ht hid).queued rfl
  case stays =>
    exact fun e' h' hs' call hticks => stays_apply (h'.inOrder he'.inOrder) hticks hs'
  case rests =>
    intro body e' hbody hcalm hs' fits
    have hrests := rests_of_arrives he (hcalm.fits he' fits) hs
    rw [← hcalm.likeness he' hage hbody hs' fits] at hrests
    obtain ⟨x, hx, hflight⟩ := flight_of_rests hrests hbody
    obtain ⟨hat, hstep⟩ := Body.atRest_of_flight hflight
    refine ⟨x, hx, hat, fun b => ?_⟩
    cases b with
    | tick world => exact ⟨x, hx, hat⟩
    | advance world =>
      refine ⟨x.step, ?_, hstep⟩
      rw [poised, Bodies.integrate, Arena.get?_map, hx, Option.map_some]
  case turn =>
    intro n e' h' hn t ht hid b
    obtain ⟨v, hv, hmet, hlawful, hunique⟩ :=
      (hages h').turn (h'.inOrder he'.inOrder) ht hid b
    refine ⟨v, hv, by rw [hmet], ?_, hlawful, hunique⟩
    rw [hmet]
    exact UInt32.toNat_ofNat_of_lt hn
  case counted =>
    intro n e' h' hpos hn t ht hid
    obtain ⟨hlive, hframe⟩ := ((hages h').aged t ht hid).live hpos
    have hto : t.frame.toNat = n - 1 := by
      rw [hframe]
      exact UInt32.toNat_ofNat_of_lt (by omega)
    exact ⟨hlive, by omega⟩
  case constant =>
    intro n e' h' t ht hid
    exact ⟨((hages h').aged t ht hid).same,
      (hages h').contactDamage (h'.inOrder he'.inOrder) ht hid⟩

/-- A carrier that fires a ring of two in its first tick, and the life of the first of them: it is
met at frame zero in the tick after that. -/
theorem life_ring :
    let dot : Template Float32 := ⟨"dot", some ⟨7, 1, 2⟩, none, none, Vec.zero, []⟩
    let calls : List (Op Float32) :=
      [.spawnCarrier ⟨.none, .enemyShot⟩ ⟨160, 120⟩ (.burst ⟨"dot", 2, 0, 1⟩)]
    let e := calls.foldl apply (.new ⟨#[dot]⟩ Config.default)
    let first : Op Float32 := .tick .empty
    let second : Beat Float32 := .advance .empty
    ∃ s, s.id = ⟨2⟩ ∧ Life e first s ∧
      ∃ v ∈ (e.apply first).turns second, v.met.id = ⟨2⟩ ∧ v.met.frame.toNat = 0 := by
  intro dot calls e first second
  have hreached : Reached ⟨#[dot]⟩ Config.default (fun _ => True) e :=
    Reached.new.calls fun _ _ _ _ => trivial
  have hthere : (⟨2⟩ : ShotId) ∈ (e.apply first).shots.map (·.id) := by decide +kernel
  obtain ⟨s, hs, hid⟩ := List.mem_map.mp hthere
  have hnew : ∀ t ∈ e.shots, t.id ≠ ⟨2⟩ := by decide +kernel
  have hlife := (hreached.life first).2 s ⟨hs, hid ▸ hnew⟩
  obtain ⟨v, hv, hmet, hframe, -⟩ := hlife.turn 0 _ .refl (by decide) s hs rfl second
  have hvid : v.met.id = s.id := by rw [hmet]
  exact ⟨s, hid, hlife, v, hv, hvid.trans hid, hframe⟩

end Engine

end Barrage
