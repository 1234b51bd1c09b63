import Barrage.Proofs.Overflow
import Barrage.Proofs.Runs
import Barrage.Scalar.Single

/-!
Bodies and shots correspond.

A shot that has a body holds its handle, and a body says which shot it was made for and in which
list. The two accounts are *matched* when they list the same handles, each once. A new body comes
with a shot that holds it, a body leaves with its shot, and whatever moves a body leaves what it
says alone, so accounts that match go on matching, through all the visits of a tick as well, where
bodies are created while others wait for their release.

Handles number the slots of the arena with 32 bits. The accounts match exactly as long as that is
enough: from then on there is a body that no handle finds, and that no shot can hold.
-/

namespace Barrage

open Bodies (Single)
open Engine (Change Reached release)

variable {K : Type}

/-- A handle with the shot and the list that go with it. -/
abbrev Holding := BodyId × ShotId × CollisionList

def Shot.holding (s : Shot K) : Option Holding := s.body.map (·, s.id, s.list)

/-- What shots say that they hold. -/
def holdings (shots : List (Shot K)) : List Holding := shots.filterMap Shot.holding

/-- What the bodies say about who holds them. -/
def Bodies.Says (bs : Bodies K) (x : Holding) : Prop :=
  ∃ body, bs.get? x.1 = some body ∧ body.desc.shot = x.2.1 ∧ body.desc.list = x.2.2

structure Matched (bs : Bodies K) (held : List Holding) : Prop where
  distinct : (held.map (·.1)).Nodup
  agree : ∀ x, x ∈ held ↔ bs.Says x

lemma mem_holdings {shots : List (Shot K)} {x : Holding} :
    x ∈ holdings shots ↔ ∃ s ∈ shots, s.body = some x.1 ∧ s.id = x.2.1 ∧ s.list = x.2.2 := by
  obtain ⟨b, i, l⟩ := x
  simp [holdings, Shot.holding]

lemma holdings_append (ss ts : List (Shot K)) :
    holdings (ss ++ ts) = holdings ss ++ holdings ts := List.filterMap_append

lemma holdings_single (s : Shot K) : holdings [s] = s.holding.toList := by
  rw [holdings, List.filterMap_cons]
  rcases s.holding with _ | x <;> rfl

lemma handles_holdings (shots : List (Shot K)) :
    (holdings shots).map (·.1) = shots.filterMap (·.body) := by
  rw [holdings, List.map_filterMap]
  congr
  funext s
  simp [Shot.holding, Function.comp_def]

/-! ### Changes to the arena -/

variable {bs : Bodies K} {held : List Holding}

lemma matched_empty : Matched (K := K) Arena.empty [] :=
  ⟨by simp, fun x => by simp [Bodies.Says, Arena.get?, Arena.empty]⟩

lemma Matched.perm {held' : List Holding} (h : Matched bs held) (hp : held.Perm held') :
    Matched bs held' :=
  ⟨(hp.map _).nodup_iff.mp h.distinct, fun x => by rw [← hp.mem_iff, h.agree]⟩

lemma Matched.erase {x : Holding} (h : Matched bs (x :: held)) : Matched (bs.erase x.1) held := by
  have hnd := h.distinct
  rw [List.map_cons, List.nodup_cons] at hnd
  refine ⟨hnd.2, fun y => ?_⟩
  simp only [Bodies.Says, Arena.get?_erase]
  by_cases hy : y.1 = x.1
  · have hout : y ∉ held := fun hm => hnd.1 (hy ▸ List.mem_map_of_mem hm)
    simp [hy, hout]
  · have hne : y ≠ x := fun he => hy (by rw [he])
    have := h.agree y
    rw [List.mem_cons, or_iff_right hne] at this
    rw [if_neg hy]
    exact this

/-- Bodies leave with the shots that hold them. -/
lemma Matched.release {gone : List (Shot K)} (h : Matched bs (holdings gone ++ held)) :
    Matched (release bs gone) held := by
  induction gone generalizing bs with
  | nil => exact h
  | cons s ss ih =>
    rw [Engine.release, List.foldl_cons]
    refine ih ?_
    rcases hb : s.body with _ | b
    · simpa [holdings, Shot.holding, hb] using h
    · refine Matched.erase (x := (b, s.id, s.list)) ?_
      simpa [holdings, Shot.holding, hb] using h

/-- What stays so when one body leaves stays so when many do. -/
lemma release_induct {P : Bodies K → Prop} (erase : ∀ bs b, P bs → P (bs.erase b)) (h : P bs)
    (gone : List (Shot K)) : P (release bs gone) := by
  induction gone generalizing bs with
  | nil => exact h
  | cons s ss ih =>
    rw [release, List.foldl_cons]
    refine ih ?_
    rcases s.body with _ | b
    · exact h
    · exact erase bs b h

lemma sound_release (h : bs.Sound) (gone : List (Shot K)) : (release bs gone).Sound :=
  release_induct (P := Arena.Sound) (fun _ b h => Arena.sound_erase h b) h gone

lemma single_release {n : Nat} (h : bs.Single n) (gone : List (Shot K)) :
    Single (release bs gone) n :=
  release_induct (P := fun bs => Single bs n) (fun _ b h => Single.erase h b) h gone

@[simp] lemma fits_release (bs : Bodies K) (gone : List (Shot K)) :
    Arena.Fits (release bs gone) ↔ bs.Fits :=
  release_induct (P := fun bs' => bs'.Fits ↔ bs.Fits)
    (fun bs' b h => by rwa [Arena.Fits, Arena.size_slots_erase]) Iff.rfl gone

variable [Scalar K]

/-- What is done to a body where it lies does not change what it says. -/
lemma Matched.move (h : Matched bs held) (b : BodyId) (m : Motion K) :
    Matched (bs.move b m) held := by
  refine ⟨h.distinct, fun x => (h.agree x).trans ?_⟩
  simp only [Bodies.Says, Bodies.move, Arena.get?_modify]
  split
  · rename_i hx
    simp [hx]
  · rfl

lemma Matched.integrate (h : Matched bs held) : Matched bs.integrate held :=
  ⟨h.distinct, fun x => (h.agree x).trans (by
    simp [Bodies.Says, Bodies.integrate, Arena.get?_map, Body.step])⟩

lemma Matched.add (h : Matched bs held) (hs : bs.Sound) (d : BodyDesc K)
    (fits : (bs.add d).2.Fits) :
    Matched (bs.add d).2 (held ++ [((bs.add d).1, d.shot, d.list)]) := by
  have hfresh : bs.get? (bs.add d).1 = none := Arena.get?_issued hs _ fits.room
  have hnew : ∀ x ∈ held, x.1 ≠ (bs.add d).1 := fun x hx he => by
    obtain ⟨body, hb, -⟩ := (h.agree x).mp hx
    rw [he, hfresh] at hb
    cases hb
  refine ⟨?_, fun x => ?_⟩
  · rw [List.map_append, List.nodup_append]
    refine ⟨h.distinct, by simp, fun b hb b' hb' => ?_⟩
    obtain ⟨x, hx, rfl⟩ := List.mem_map.mp hb
    simp only [List.map_cons, List.map_nil, List.mem_singleton] at hb'
    exact hb' ▸ hnew x hx
  · have hget : (bs.add d).2.get? x.1 =
        if x.1 = (bs.add d).1 then some (Body.ofDesc d) else bs.get? x.1 :=
      Arena.get?_insert hs _ fits.room x.1
    simp only [List.mem_append, List.mem_singleton, Bodies.Says, hget]
    by_cases hx : x.1 = (bs.add d).1
    · have hout : x ∉ held := fun h => hnew x h hx
      obtain ⟨b, i, l⟩ := x
      obtain rfl : b = (bs.add d).1 := hx
      simp [hout, Body.ofDesc, eq_comm]
    · have hne : x ≠ ((bs.add d).1, d.shot, d.list) := fun he => hx (by rw [he])
      rw [if_neg hx, or_iff_left hne]
      exact h.agree x

/-! ### Creating -/

/-- The accounts of a stage, where `held` is held by shots that are not in the queue. -/
structure Kept (held : List Holding) (st : Stage K) : Prop where
  sound : st.bodies.Sound
  single : st.bodies.Single st.queue.issued
  accounts : st.bodies.Fits → Matched st.bodies (held ++ holdings st.queue.pending.toList)

lemma Kept.add {st : Stage K} (h : Kept held st) (side : Side) (b : Birth K) :
    Kept held (st.add side b) := by
  rw [Stage.add_eq]
  rcases hv : b.visual with _ | v
  · have hbody : st.embody side b = (none, st.bodies) := by simp [Stage.embody, hv]
    simp only [hbody]
    refine ⟨h.sound, h.single.mono (Nat.le_succ _), fun fits => ?_⟩
    simpa [holdings_append, holdings_single, Shot.holding, Stage.newborn, hbody] using
      h.accounts fits
  · let d : BodyDesc K := ⟨⟨st.queue.issued + 1⟩, b.place, v.animation, v.radius, side.list⟩
    have hbody : st.embody side b = (some (st.bodies.add d).1, (st.bodies.add d).2) := by
      simp [Stage.embody, hv, d]
    simp only [hbody]
    refine ⟨Arena.sound_insert h.sound _, h.single.add h.sound rfl, fun fits => ?_⟩
    have := (h.accounts fits.of_insert).add h.sound d fits
    simpa [holdings_append, holdings_single, Shot.holding, Stage.newborn, hbody, d] using this

lemma Kept.addAll {st : Stage K} (h : Kept held st) (side : Side) (births : List (Birth K)) :
    Kept held (st.addAll side births) := by
  induction births generalizing st with
  | nil => exact h
  | cons b births ih => exact ih (h.add side b)

lemma Kept.moveAll {st : Stage K} (h : Kept held st) (body : Option BodyId)
    (motions : List (Motion K)) :
    Kept held ⟨st.queue, Engine.moveAll st.bodies body motions⟩ := by
  rcases body with _ | b
  · exact h
  · rw [Engine.moveAll]
    induction motions generalizing st with
    | nil => exact h
    | cons m motions ih =>
      have hnext : Kept held ⟨st.queue, st.bodies.move b m⟩ :=
        ⟨Arena.sound_modify h.sound _ _, h.single.move b m, fun fits =>
          (h.accounts ((Bodies.fits_move _ b m).mp fits)).move b m⟩
      exact ih hnext

/-! ### Engines -/

/-- The accounts of an engine. -/
structure Balanced (e : Engine K) : Prop where
  sound : e.bodies.Sound
  single : e.bodies.Single e.registry.queue.issued
  accounts : e.bodies.Fits → Matched e.bodies (holdings e.shots)

omit [Scalar K] in
lemma Balanced.kept {e : Engine K} (h : Balanced e) : Kept (holdings e.registry.live) e.stage :=
  ⟨h.sound, h.single, fun fits => by
    have := h.accounts fits
    rw [Engine.shots, Registry.shots, holdings_append] at this
    exact this⟩

variable {e : Engine K}

/-- The shots that a pass visits hold what they held. -/
lemma holdings_pass (h : e.registry.InOrder) (world : World K) :
    holdings ((e.pass world).1.map (·.shot)) = holdings e.shots := by
  have hpass : (e.pass world).1.map (·.shot.holding) = e.registry.advance.live.map Shot.holding :=
    e.map_shot_pass Shot.holding (fun _ _ => rfl) world
  have hlive : e.registry.advance.live.map Shot.holding = e.shots.map Shot.holding := by
    rw [Registry.live_advance h]
    simp [Engine.shots, Registry.shots, Function.comp_def, Shot.holding, Shot.aged]
  calc holdings ((e.pass world).1.map (·.shot))
      = ((e.pass world).1.map (·.shot.holding)).filterMap id := by
        simp [holdings, List.filterMap_map]
    _ = (e.shots.map Shot.holding).filterMap id := by rw [hpass, hlive]
    _ = holdings e.shots := by simp [holdings, List.filterMap_map]

/-- While a pass goes on, all shots that it visits hold what they held. -/
lemma Balanced.pass (h : Balanced e) (world : World K) :
    Kept (holdings e.shots) (e.pass world).2.stage := by
  have hstart : Kept (holdings e.shots) ⟨e.registry.advance.queue, e.bodies⟩ :=
    ⟨h.sound, h.single, fun fits => by simpa [Registry.advance, holdings] using h.accounts fits⟩
  exact Engine.actAll_induct (fun _ body motions hk => hk.moveAll body motions)
    (fun _ side b hk => hk.add side b) _ _ hstart

lemma Balanced.tick (h : Balanced e) (ho : e.registry.InOrder) (world : World K) :
    Balanced (e.tick world).2 := by
  have hend := h.pass world
  refine ⟨?_, ?_, fun fits => ?_⟩
  · rw [Engine.bodies_tick]
    exact sound_release hend.sound _
  · rw [Engine.tick_eq]
    exact single_release hend.single _
  rw [Engine.bodies_tick, fits_release] at fits
  have hm := hend.accounts fits
  rw [← holdings_pass ho world] at hm
  rw [Engine.bodies_tick, Engine.shots_tick, holdings_append]
  refine Matched.release (hm.perm ?_)
  rw [← List.append_assoc, ← holdings_append (e.gone world)]
  exact ((e.perm_gone_kept world).filterMap _).append_right _

lemma Engine.Change.balanced {A : Step K → Prop} {e' : Engine K} (hc : Change A e e')
    (ho : e.registry.InOrder) (h : Balanced e) : Balanced e' := by
  cases hc with
  | create side bs =>
    have := h.kept.addAll side bs
    refine ⟨this.sound, this.single, fun fits => ?_⟩
    rw [Engine.shots, Registry.shots, holdings_append]
    exact this.accounts fits
  | tick world => exact h.tick ho world
  | advance world =>
    refine Balanced.tick (e := { e with bodies := e.bodies.integrate })
      ⟨Arena.sound_map h.sound _, h.single.integrate, fun fits => ?_⟩ ho world
    exact (h.accounts ((Bodies.fits_integrate _).mp fits)).integrate
  | remove p =>
    refine ⟨sound_release h.sound _, single_release h.single _, fun fits => ?_⟩
    have hm := h.accounts ((fits_release _ _).mp fits)
    refine Matched.release (hm.perm ?_)
    have hshots : (e.removeWhere p).2.shots = e.shots.filter (!p ·) :=
      Registry.shots_removeWhere e.registry p
    rw [hshots, ← holdings_append]
    exact ((List.filter_append_perm p e.shots).filterMap _).symm
  | move body m =>
    refine ⟨Arena.sound_modify h.sound _ _, h.single.move body m, fun fits => ?_⟩
    exact (h.accounts ((Bodies.fits_move _ body m).mp fits)).move body m

variable {c : Catalog K} {config : Config K} {A : Step K → Prop}

/-- The accounts of every engine that is reached match. -/
theorem Engine.Reached.balanced (h : Reached c config A e) : Balanced e :=
  h.induct ⟨Arena.sound_empty, Bodies.single_empty, fun _ => matched_empty⟩
    fun _ _ hr hc hb => hc.balanced hr.inOrder hb

/-! ### One to one -/

omit [Scalar K] in
lemma length_holdings (shots : List (Shot K)) :
    (holdings shots).length = shots.countP (·.body.isSome) := by
  rw [holdings, List.length_filterMap_eq_countP]
  congr
  funext s
  simp [Shot.holding]

omit [Scalar K] in
/-- There are as many bodies as are held. -/
lemma Matched.size (h : Matched bs held) (hs : bs.Sound) (fits : bs.Fits) :
    bs.size = held.length := by
  have hperm : (bs.entries.map (·.1)).Perm (held.map (·.1)) := by
    refine (List.perm_ext_iff_of_nodup (Arena.nodup_entries fits) h.distinct).mpr fun b => ?_
    simp only [List.mem_map, Prod.exists, exists_and_right, exists_eq_right,
      Arena.mem_entries fits]
    constructor
    · rintro ⟨body, hb⟩
      exact ⟨body.desc.shot, body.desc.list, (h.agree _).mpr ⟨body, hb, rfl, rfl⟩⟩
    · rintro ⟨i, l, hx⟩
      obtain ⟨body, hb, -⟩ := (h.agree _).mp hx
      exact ⟨body, hb⟩
  rw [← Arena.length_entries hs]
  simpa using hperm.length_eq

omit [Scalar K] in
lemma Balanced.size (h : Balanced e) (fits : e.bodies.Fits) :
    e.bodies.size = e.shots.countP (·.body.isSome) := by
  rw [(h.accounts fits).size h.sound fits, length_holdings]

/-- The bodies of the shots that a tick removes are all that is missing after it. -/
lemma Balanced.size_tick (h : Balanced e) (ho : e.registry.InOrder) (world : World K)
    (fits : (e.tick world).2.bodies.Fits) :
    (e.tick world).2.bodies.size + (e.gone world).countP (·.body.isSome) =
      (e.pass world).2.stage.bodies.size := by
  have hend := h.pass world
  have hfits : (e.pass world).2.stage.bodies.Fits := by
    rwa [Engine.bodies_tick, fits_release] at fits
  have hvisited : e.shots.countP (·.body.isSome) =
      (e.gone world).countP (·.body.isSome) + (e.kept world).countP (·.body.isSome) := by
    rw [← length_holdings, ← holdings_pass ho world, length_holdings,
      (e.perm_gone_kept world).countP_eq, List.countP_append]
  rw [(h.tick ho world).size fits, (hend.accounts hfits).size hend.sound hfits, Engine.shots_tick,
    List.countP_append, List.length_append, length_holdings, length_holdings, hvisited]
  omega

/-- Bodies and shots correspond one to one. -/
structure OneToOne (e : Engine K) : Prop where
  /-- A handle that a shot holds finds a body, and the body says that it is of this shot. -/
  resolves : ∀ s ∈ e.shots, ∀ b, s.body = some b →
    ∃ body, e.bodies.get? b = some body ∧ body.desc.shot = s.id ∧ body.desc.list = s.list
  unshared : (e.shots.filterMap (·.body)).Nodup
  /-- A body is held by the shot that it says, and by no other. -/
  owned : ∀ x ∈ e.bodies.entries, ∃ s ∈ e.shots,
    s.body = some x.1 ∧ s.id = x.2.desc.shot ∧ ∀ t ∈ e.shots, t.body = some x.1 → t = s
  count : e.bodies.size = e.shots.countP (·.body.isSome)
  /-- Shots that are removed take their bodies along, each once. -/
  removed : ∀ p, (e.removeWhere p).2.bodies.size +
    (e.registry.matching p).countP (·.body.isSome) = e.bodies.size
  /-- So do those that a tick removes. -/
  ticked : ∀ world, (e.tick world).2.bodies.Fits → (e.tick world).2.bodies.size +
    (e.gone world).countP (·.body.isSome) = (e.pass world).2.stage.bodies.size
  contacts : ∀ list center radius, ∀ id ∈ e.bodies.contacts list center radius,
    (e.find? id).isSome

lemma Balanced.oneToOne_of_fits (h : Balanced e) (ho : e.registry.InOrder) (fits : e.bodies.Fits) :
    OneToOne e := by
  have hm := h.accounts fits
  have howned : ∀ x ∈ e.bodies.entries, ∃ s ∈ e.shots,
      s.body = some x.1 ∧ s.id = x.2.desc.shot ∧ s.list = x.2.desc.list := fun x hx =>
    mem_holdings.mp ((hm.agree (x.1, x.2.desc.shot, x.2.desc.list)).mpr
      ⟨x.2, (Arena.mem_entries fits).mp hx, rfl, rfl⟩)
  refine ⟨fun s hs b hb => ?_, ?_, fun x hx => ?_, h.size fits, fun p => ?_,
    fun world hfits => h.size_tick ho world hfits, fun list center radius id hid => ?_⟩
  · exact (hm.agree (b, s.id, s.list)).mp (mem_holdings.mpr ⟨s, hs, hb, rfl, rfl⟩)
  · rw [← handles_holdings]
    exact hm.distinct
  · obtain ⟨s, hs, hb, hid, -⟩ := howned x hx
    refine ⟨s, hs, hb, hid, fun t ht htb => ?_⟩
    have hsays := (hm.agree (x.1, t.id, t.list)).mp (mem_holdings.mpr ⟨t, ht, htb, rfl, rfl⟩)
    obtain ⟨body, hbody, htid, -⟩ := hsays
    have hx' := (Arena.mem_entries fits).mp hx
    rw [hbody] at hx'
    cases hx'
    exact ho.eq_of_id ht hs (htid.symm.trans hid.symm)
  · have hnext : Balanced (e.removeWhere p).2 :=
      (Change.remove (A := fun _ => True) p).balanced ho h
    have hshots : (e.removeWhere p).2.shots = e.shots.filter (!p ·) :=
      Registry.shots_removeWhere e.registry p
    rw [hnext.size ((fits_release _ _).mpr fits), hshots, h.size fits,
      ← (List.filter_append_perm p e.shots).countP_eq, List.countP_append, Nat.add_comm]
    rfl
  · obtain ⟨body, hbody, rfl⟩ := List.mem_map.mp hid
    obtain ⟨x, hx, rfl⟩ := List.mem_map.mp (List.mem_filter.mp hbody).1
    obtain ⟨s, hs, -, hs', -⟩ := howned x hx
    exact List.find?_isSome.mpr ⟨s, hs, by simpa using hs'⟩

/-- Handles tell the bodies apart where bodies and shots correspond. -/
lemma Balanced.fits_of_oneToOne (h : Balanced e) (h1 : OneToOne e) : e.bodies.Fits := by
  by_contra hfits
  obtain ⟨x, hx, hlost⟩ := h.single.lost hfits
  obtain ⟨s, hs, hb, hid, -⟩ := h1.owned x hx
  obtain ⟨body, hbody, hshot, -⟩ := h1.resolves s hs x.1 hb
  exact hlost body hbody (hshot.trans hid)

/-- **Bodies and shots correspond one to one** in every engine that is reached, whatever is called
and in whatever order, exactly as long as handles can tell the slots of the bodies apart; and there
are not more slots than shots have been created. -/
theorem Engine.Reached.oneToOne (h : Reached c config A e) :
    (OneToOne e ↔ e.bodies.Fits) ∧ (e.registry.queue.issued ≤ UInt32.size → OneToOne e) := by
  have hfits : e.bodies.Fits → OneToOne e := h.balanced.oneToOne_of_fits h.inOrder
  exact ⟨⟨h.balanced.fits_of_oneToOne, hfits⟩, fun hissued =>
    hfits (Nat.le_trans h.balanced.single.slots hissued)⟩

/-- A shot of each of two templates, one with a body and one without, of which the first is struck
after another of its kind was created. -/
theorem oneToOne_struck :
    let look : Template Float32 := ⟨"pellet", some ⟨7, 1, 2⟩, none, none, Vec.zero, []⟩
    let e := Engine.new ⟨#[look]⟩ Config.default
    let calls : List (Op Float32) :=
      [.addAngledShot ⟨.player, .playerShot⟩ Vec.zero "Pellet" 0 3,
        .spawnCarrier ⟨.none, .enemyShot⟩ Vec.zero (.angled ⟨90, 1⟩),
        .addShot ⟨.player, .playerShot⟩ Vec.zero "pellet", .onStruck ⟨1⟩]
    let e' := calls.foldl Engine.apply e
    OneToOne e' ∧ e'.bodies.size = 1 ∧ e'.size = 2 := by
  intro look e calls e'
  have hreached : Reached ⟨#[look]⟩ Config.default (fun _ => True) e' :=
    Reached.new.calls fun _ _ _ _ => trivial
  exact ⟨hreached.oneToOne.2 (by decide +kernel), by decide +kernel, by decide +kernel⟩

end Barrage
