import Barrage.Catalog.Load
import Barrage.Proofs.Emitters
import Barrage.Proofs.Fans
import Barrage.Proofs.Steering

/-!
Rainfall.

The drops of a rain appear above the playfield, outside of it by a share of its height or of the
margin, whichever is less. Over exact numbers no drop therefore appears where it would be culled,
however tall the playfield and however narrow the margin, down to none at all. A drop waits there
for the next tick, and with its first turn it falls. A drop without a body has nothing to fall with,
and that turn is its last.
-/

namespace Barrage

open Scalar (nat)

variable {config : Config ℝ} {r : Rain ℝ}

/-- No side of the playfield is negative, and no margin. -/
structure Config.Regular (c : Config ℝ) : Prop where
  width : 0 ≤ c.width
  height : 0 ≤ c.height
  cullMargin : 0 ≤ c.cullMargin

namespace Rain

/-- A place over the playfield, on its upper edge or above, where nobody is culled. -/
structure Over (c : Config ℝ) (p : Vec ℝ) : Prop where
  inside : c.isCulled p = false
  above : p.y ≤ c.top
  left : c.left ≤ p.x
  right : p.x ≤ c.left + c.width

lemma lead_exact (c : Config ℝ) : lead c = min (c.height * 0.05) (c.cullMargin * 0.5) := by
  have hlead : lead c =
      min (c.height * ((5 : ℕ) / 10 ^ 2)) (c.cullMargin * ((5 : ℕ) / 10 ^ 1)) := rfl
  rw [hlead]
  norm_num

lemma dropPoint_exact (c : Config ℝ) (share : ℝ) :
    dropPoint c share = ⟨c.left + c.width * share, c.top - lead c⟩ := rfl

/-- The lead is within the margin. -/
lemma lead_mem (h : config.Regular) : lead config ∈ Set.Icc 0 config.cullMargin := by
  have hheight := h.height
  have hmargin := h.cullMargin
  rw [lead_exact]
  constructor
  · exact le_min (by positivity) (by positivity)
  · exact (min_le_right _ _).trans (by linarith)

/-- **No drop appears where it would be culled.** -/
theorem over_dropPoint (h : config.Regular) {share : ℝ} (hshare : share ∈ Set.Icc 0 1) :
    Over config (dropPoint config share) := by
  obtain ⟨hlead, hmargin⟩ := lead_mem h
  have hwidth : 0 ≤ config.width * share := mul_nonneg h.width hshare.1
  have hwidth' : config.width * share ≤ config.width := mul_le_of_le_one_right h.width hshare.2
  have hheight := h.height
  rw [dropPoint_exact]
  refine ⟨?_, by simpa using hlead, by simpa using hwidth, by simpa using hwidth'⟩
  simp only [Config.isCulled, Bool.or_eq_false_iff, decide_eq_false_iff_not, not_lt]
  refine ⟨⟨⟨?_, ?_⟩, ?_⟩, ?_⟩ <;> linarith

end Rain

/-- What is drawn lies between the bounds. -/
lemma Exact.pick_mem {low high : ℝ} (h : low ≤ high) (word : UInt32) :
    pick low high word ∈ Set.Icc low high := by
  have hword : (word >>> 9).toNat ≤ 8388607 := by
    have hlt := word.toNat_lt
    have hnine : (9 : UInt32).toNat % 32 = 9 := rfl
    rw [UInt32.toNat_shiftRight, Nat.shiftRight_eq_div_pow, hnine]
    omega
  have hcast : ((word >>> 9).toNat : ℝ) ≤ 8388607 := by exact_mod_cast hword
  have hparts : (2 : ℝ) ^ 23 - 1 = 8388607 := by norm_num
  have hle : ((word >>> 9).toNat : ℝ) / (2 ^ 23 - 1) ≤ 1 := by
    rw [hparts, div_le_one (by norm_num)]
    exact hcast
  have hge : (0 : ℝ) ≤ (word >>> 9).toNat / (2 ^ 23 - 1) := by
    rw [hparts]
    positivity
  have hspan : 0 ≤ high - low := sub_nonneg.mpr h
  have hmore := mul_nonneg hspan hge
  have hless := mul_le_of_le_one_right hspan hle
  rw [pick]
  exact ⟨by linarith, by linarith⟩

lemma Random.between_mem {low high : ℝ} (h : low ≤ high) (random : Random) :
    (random.between low high).1 ∈ Set.Icc low high := by
  rw [between]
  split_ifs
  · exact Exact.pick_mem h _
  · exact ⟨le_rfl, h⟩

namespace Heading

lemma down_exact : (down : ℝ) = 180 := Exact.nat_eq 180

/-- Down the screen. -/
lemma velocity_down (speed : ℝ) : velocity down speed = ⟨0, speed⟩ := by
  have hangle : (180 : ℝ) * (Real.pi / 180) = Real.pi := by ring
  rw [velocity, toVec_exact, down_exact, hangle, Real.sin_pi, Real.cos_pi]
  simp [Vec.scale]

end Heading

/-! ### What a rain creates -/

section Births

variable {K : Type} [Scalar K] {c : Catalog K}

/-- A shot that is created in a turn is born of an order of the turn. -/
lemma Engine.exists_order {config : Config K} {world : World K} {v : Engine.Visit K}
    (h : Engine.act c config world v.before v.met = (v.outcome, v.after)) {step : Step K}
    (hstep : v.met.step = some step) {s : Shot K} (hs : s ∈ v.born) :
    ∃ o ∈ (Engine.turn config world v.before v.met step).1.orders, ∃ b, o.Bears c b ∧
      s.origin = b.place ∧ s.step = b.step := by
  obtain ⟨t, r, births, failure, answer, hrun, hbirths, -, hstage, -, -⟩ := turned h hstep
  rw [born_of_stage hstage] at hs
  obtain ⟨b, hb, hplace, hstep', -⟩ := Stage.exists_birth hs
  obtain ⟨o, ho, hbears⟩ : ∃ o ∈ t.orders, o.Bears c b :=
    Order.exists_bears (by rw [hbirths]; exact hb)
  rw [Engine.turn, hrun]
  exact ⟨o, ho, b, hbears, hplace, hstep'⟩

end Births

namespace Rain

/-- A shot that is created over the playfield, to fall from there. -/
structure Drop (r : Rain ℝ) (config : Config ℝ) (s : Shot ℝ) : Prop where
  step : s.step = some (.angled ⟨Heading.down, r.speed⟩)
  place : ∃ share ∈ Set.Icc (0 : ℝ) 1, s.origin = dropPoint config share

/-- A rain creates its drops and the shots of its volleys. -/
lemma drop_or_aimed {c : Catalog ℝ} {world : World ℝ} {v : Engine.Visit ℝ}
    (h : Engine.act c config world v.before v.met = (v.outcome, v.after))
    (hstep : v.met.step = some (.rain r)) {s : Shot ℝ} (hs : s ∈ v.born) :
    Drop r config s ∨ ∃ w a, r.volley = some w ∧ s.step = some (.aimed a) := by
  obtain ⟨o, ho, b, hbears, hplace, hsame⟩ := Engine.exists_order h hstep hs
  rw [Engine.turn, Step.run] at ho
  rcases hsource : (Engine.view config world v.before.stage.bodies v.met).source with _ | place
  · simp only [run, hsource] at ho
    cases ho
  rw [r.run_of_source hsource] at ho
  rcases List.mem_append.mp ho with ho | ho
  · left
    rw [onPeriod] at ho
    split_ifs at ho
    · obtain rfl := List.mem_singleton.mp ho
      cases hbears
      have hnone : (nat 0 : ℝ) = 0 := by simp
      have hall : (nat 1 : ℝ) = 1 := by simp
      have hbounds : (nat 0 : ℝ) ≤ nat 1 := by rw [hnone, hall]; exact zero_le_one
      obtain ⟨hlow, hhigh⟩ := Random.between_mem hbounds v.before.random
      exact ⟨hsame, _, ⟨hnone.ge.trans hlow, hhigh.trans hall.le⟩, hplace⟩
    · cases ho
  · right
    obtain ⟨w, hw, ho⟩ := List.mem_flatMap.mp ho
    rw [onPeriod] at ho
    split_ifs at ho
    · obtain rfl := List.mem_singleton.mp ho
      cases hbears
      exact ⟨w, _, Option.mem_toList.mp hw, hsame⟩
    · cases ho

end Rain

namespace Engine

open Catalog (ofDefinitions)

variable {e : Engine ℝ} {s : Shot ℝ} {body : BodyId} {speed : ℝ} {b : Beat ℝ} {n : ℕ}

/-! ### What becomes of a drop -/

/-- A shot with a body that waits is found where it was created when the turns of a tick begin. -/
lemma flight_poised (h : e.bodies.flight? body = some (.rest s.origin)) (b : Beat ℝ) :
    (e.poised b).bodies.flight? body = some (.rest s.origin) := by
  have hsum : s.origin + Vec.zero = s.origin :=
    congrArg₂ Vec.mk (by simp [Vec.zero]) (by simp [Vec.zero])
  have hstill : (Flight.rest s.origin).step = .rest s.origin :=
    congrArg (Flight.mk · _ _) hsum
  cases b with
  | tick world => exact h
  | advance world => rw [flight_advance h, hstill]

/-- The flight of a drop that has begun to fall. -/
noncomputable def falling (p : Vec ℝ) (speed : ℝ) : Flight ℝ :=
  ⟨p, ⟨0, speed⟩, Scalar.toRadians Heading.down⟩

/-- In its first turn a drop with a body is kept, and it falls from then on. -/
structure Starts (speed : ℝ) (s : Shot ℝ) (body : BodyId) (e : Engine ℝ) (b : Beat ℝ) : Prop where
  turn : ∃ v ∈ e.turns b, v.met.id = s.id ∧ v.outcome.answer = some (.ok .detach) ∧
    v.outcome.culled = false ∧ v.outcome.retired = false ∧
    ∀ w ∈ e.turns b, w.met.id = s.id → w = v
  there : ∃ t, t.id = s.id ∧ Bullet (e.beat b) t body (falling s.origin speed)
  falls : ∀ n e', Course s.id (e.beat b) n e' → e'.bodies.Fits →
    (∀ k, 1 ≤ k → k ≤ n → e.config.isCulled ⟨s.origin.x, s.origin.y + k * speed⟩ = false) →
    ∃ t, t.id = s.id ∧
      Bullet e' t body (falling ⟨s.origin.x, s.origin.y + n * speed⟩ speed)

/-- In its first turn a drop without a body goes, and nobody has culled it. -/
structure Vanishes (s : Shot ℝ) (e : Engine ℝ) (b : Beat ℝ) : Prop where
  turn : ∃ v ∈ e.turns b, v.met.id = s.id ∧ v.outcome.culled = false ∧ v.outcome.retired = true ∧
    ∀ w ∈ e.turns b, w.met.id = s.id → w = v
  gone : (e.beat b).Gone s.id

/-- Falling is a matter of the ticks that have passed. -/
lemma flown_down (p : Vec ℝ) (speed : ℝ) (n : ℕ) :
    p.flown ⟨0, speed⟩ n = ⟨p.x, p.y + n * speed⟩ := by
  induction n with
  | zero => simp [Vec.flown]
  | succ n ih =>
    have hsum : p.flown ⟨0, speed⟩ (n + 1) = ⟨p.x + 0, p.y + n * speed + speed⟩ := by
      rw [Vec.flown, ih]
      rfl
    rw [hsum, Nat.cast_succ]
    congr 1 <;> ring

lemma Runs.starts {v : Visit ℝ} (h : Runs e b s 0 (.angled ⟨Heading.down, speed⟩) v)
    (he : Settled e) (fits : (e.beat b).bodies.Fits) (hbody : s.body = some body)
    (hrest : e.bodies.flight? body = some (.rest s.origin))
    (hinside : e.config.isCulled s.origin = false) : Starts speed s body e b := by
  obtain ⟨f, u, r, hflight, hsees, -, -, hsteered⟩ := h.steered he fits hbody
    fun u r _ => ⟨Signal.noConfusion, rfl⟩
  obtain rfl : f = .rest s.origin := Option.some.inj (hflight.symm.trans (flight_poised hrest b))
  have hframe : u.frame = 0 := hsees.frame
  have hmotions : ((Step.angled ⟨Heading.down, speed⟩).run u r).1.motions.foldl Flight.apply
      (.rest s.origin) = falling s.origin speed := by
    have hlaunch : ((Step.angled ⟨Heading.down, speed⟩).run u r).1.motions =
        launchAlong Heading.down speed := if_pos hframe
    rw [hlaunch, launchAlong, Heading.velocity_down]
    rfl
  have hculled : v.outcome.culled = false := by
    rw [hsteered.culled, hmotions]
    exact hinside
  have hretired : v.outcome.retired = false := hsteered.retired.trans hculled
  obtain ⟨hthere, hfalls⟩ := hsteered.kept hretired
  rw [hmotions] at hfalls
  have hshot := shot_visit (act_tickVisits h.mem)
  have hleft : v.outcome.shot.body = some body := by rw [hshot, h.met, hbody]
  have hid : v.outcome.shot.id = s.id := by rw [hshot, h.met]
  have hbullet : Bullet (e.beat b) v.outcome.shot body (falling s.origin speed) :=
    ⟨hthere, hleft, hsteered.step, hfalls⟩
  refine ⟨⟨v, h.mem, h.met_id, hsteered.answer, hculled, hretired, h.unique⟩,
    ⟨_, hid, hbullet⟩, fun n e' hcourse fits' hin => ?_⟩
  have he' : Settled (e.beat b) := by
    rw [← apply_op]
    exact he.apply b.op
  rw [← hid] at hcourse
  have hsame : (e.beat b).config = e.config := by cases b <;> rfl
  obtain ⟨t, ht, hflies⟩ := hcourse.flies he' hbullet fits' fun k hpos hk => by
    rw [hsame, falling, flown_down]
    exact hin k hpos hk
  refine ⟨t, by rw [ht, hid], ?_⟩
  rwa [flightAfter, falling, flown_down] at hflies

lemma Runs.vanishes {v : Visit ℝ} (h : Runs e b s n (.angled ⟨Heading.down, speed⟩) v)
    (ho : e.registry.InOrder) (hbody : s.body = none) : Vanishes s e b := by
  obtain ⟨hculled, hgoes⟩ := h.unembodied hbody
  have hretired : v.outcome.retired = true := hgoes.mpr (.inr h.left)
  have hfind := find?_of_retired ho h.mem hretired
  rw [h.met_id] at hfind
  exact ⟨⟨v, h.mem, h.met_id, hculled, hretired, h.unique⟩, gone_of_find? hfind⟩

/-- A drop, and what becomes of it in the engine in which it was created. -/
structure Falls (r : Rain ℝ) (config : Config ℝ) (e : Engine ℝ) (s : Shot ℝ) : Prop
    extends Rain.Drop r config s where
  appears : Rain.Over config s.origin
  /-- With a body it is there after its first tick, and falls; and there are handles enough as long
  as no more than `2 ^ 32` shots were created. -/
  starts : ∀ body e₁, s.body = some body → Calm body e e₁ → s ∈ e₁.shots → ∀ b : Beat ℝ,
    ((e₁.beat b).bodies.Fits → Starts r.speed s body e₁ b) ∧
      ((e₁.beat b).registry.queue.issued ≤ UInt32.size → (e₁.beat b).bodies.Fits)
  vanishes : s.body = none → ∀ e₁, Later e 0 e₁ → s ∈ e₁.shots → ∀ b, Vanishes s e₁ b

/-- **Rain is never culled at birth.** Whatever is drawn, a drop appears over the playfield, where
nobody is culled. If it has a body, it survives its first tick and falls from then on, straight
down. -/
theorem Reached.rains {c : Catalog ℝ} {A : Step ℝ → Prop} (h : Reached c config A e)
    (hconfig : config.Regular) :
    (∀ share ∈ Set.Icc (0 : ℝ) 1, Rain.Over config (Rain.dropPoint config share)) ∧
      ∀ b, ∀ v ∈ e.turns b, ∀ r, v.met.step = some (.rain r) → ∀ s ∈ v.born,
        Falls r config (e.beat b) s ∨ ∃ w a, r.volley = some w ∧ s.step = some (.aimed a) := by
  refine ⟨fun share hshare => Rain.over_dropPoint hconfig hshare, fun b v hv r hstep s hs => ?_⟩
  have hact := act_turns hv
  obtain ⟨-, hsame⟩ := h.setting
  rw [hsame] at hact
  refine (Rain.drop_or_aimed hact hstep hs).imp_left fun hdrop => ?_
  obtain ⟨share, hshare, hplace⟩ := hdrop.place
  have happears : Rain.Over config s.origin := hplace ▸ Rain.over_dropPoint hconfig hshare
  have he : Settled e := ⟨h.inOrder, h.balanced⟩
  have harrives := arrives_of_born he.inOrder hv hs
  have he₁ : Settled (e.apply b.op) := he.apply b.op
  have hage := ages_of_arrives he.inOrder harrives
  rw [apply_op] at he₁ hage
  refine ⟨hdrop, happears, fun body e₂ hbody hcalm hs₂ b₂ => ⟨fun fits => ?_, fun hissued => ?_⟩,
    fun hbody e₂ hlater hs₂ b₂ => ?_⟩
  · have he₂ := hcalm.settled he₁
    have hage₂ := hcalm.later.ages he₁.inOrder hage
    obtain ⟨v₂, hv₂⟩ := hage₂.runs he₂.inOrder hs₂ rfl hdrop.step b₂
    have fits₂ : e₂.bodies.Fits := fits_of_beat fits
    have hrests := rests_of_arrives he (by rw [apply_op]; exact hcalm.fits he₁ fits₂) harrives
    rw [apply_op, ← hcalm.likeness he₁ hage hbody hs₂ fits₂] at hrests
    obtain ⟨x, hx, hflight⟩ := flight_of_rests hrests hbody
    refine hv₂.starts he₂ fits hbody (by rw [Bodies.flight?, hx, Option.map_some, hflight]) ?_
    rw [(hcalm.later.setting he₁.inOrder).2, (h.beat b).setting.2]
    exact happears.inside
  · have he₂ := (hcalm.settled he₁).apply b₂.op
    rw [apply_op] at he₂
    exact Nat.le_trans he₂.balanced.single.slots hissued
  · have ho₂ := hlater.inOrder he₁.inOrder
    obtain ⟨v₂, hv₂⟩ := (hlater.ages he₁.inOrder hage).runs ho₂ hs₂ rfl hdrop.step b₂
    exact hv₂.vanishes ho₂ hbody

/-- In the first tick after a carrier was created, only the carrier has a turn. -/
lemma met_of_carrier {c : Catalog ℝ} {side : Side} {place : Vec ℝ} {step : Step ℝ} {v : Visit ℝ}
    (hv : v ∈ ((new c config).apply (.spawnCarrier side place step)).turns (.tick .empty)) :
    v.met = ⟨⟨1⟩, 0, side.owner, place, some step, side.list, none, 0⟩ := by
  have hmet := List.mem_map_of_mem (f := (·.met)) hv
  rw [turns, met_tickVisits] at hmet
  exact List.mem_singleton.mp hmet

/-- A drop on the default playfield, under a tick and under a flight of the bodies. -/
theorem rains_dot :
    let dot : Template ℝ := ⟨"dot", some ⟨7, 1, 2⟩, none, none, Vec.zero, []⟩
    let r : Rain ℝ := ⟨"dot", 2, 1, none⟩
    let e := (new ⟨#[dot]⟩ Config.default).apply
      (.spawnCarrier ⟨.none, .enemyShot⟩ Vec.zero (.rain r))
    let e₁ := e.beat (.tick .empty)
    ∃ s, s.id = ⟨2⟩ ∧ Falls r Config.default e₁ s ∧ ∃ body, s.body = some body ∧
      Starts 1 s body e₁ (.tick .empty) ∧ Starts 1 s body e₁ (.advance .empty) := by
  intro dot r e e₁
  have hqueue : (e₁.registry.queue.pending.toList.map fun s => (s.id, s.body)) =
      [(⟨2⟩, some ⟨0, 0⟩)] := by decide +kernel
  have hdrop : ((⟨2⟩, some ⟨0, 0⟩) : ShotId × Option BodyId) ∈
      e₁.registry.queue.pending.toList.map fun s => (s.id, s.body) := by
    rw [hqueue]
    exact List.mem_singleton_self _
  obtain ⟨s, hs, heq⟩ := List.mem_map.mp hdrop
  obtain ⟨hid, hbody⟩ := Prod.mk.inj heq
  obtain ⟨v, hv, hborn⟩ :=
    List.mem_flatMap.mp (queue_tick (e.poised (.tick .empty)) .empty ▸ hs)
  have hreached : Reached ⟨#[dot]⟩ Config.default (fun _ => True) e :=
    Reached.new.call _ fun _ _ => trivial
  have hregular : (Config.default : Config ℝ).Regular := by
    constructor <;> norm_num [Config.default]
  have hstep : v.met.step = some (.rain r) := by rw [met_of_carrier hv]
  have hfalls : Falls r Config.default e₁ s :=
    ((hreached.rains hregular).2 _ v hv r hstep s hborn).resolve_right
      fun ⟨w, a, hw, _⟩ => by cases hw
  have hthere : s ∈ e₁.shots := List.mem_append_right _ hs
  have hissued : (e₁.beat (.tick .empty)).registry.queue.issued ≤ UInt32.size ∧
      (e₁.beat (.advance .empty)).registry.queue.issued ≤ UInt32.size := by decide +kernel
  obtain ⟨htick, hfits⟩ := hfalls.starts _ _ hbody .refl hthere (.tick .empty)
  obtain ⟨hflown, hfits'⟩ := hfalls.starts _ _ hbody .refl hthere (.advance .empty)
  exact ⟨s, hid, hfalls, _, hbody, htick (hfits hissued.1), hflown (hfits' hissued.2)⟩

/-- Not every drop survives its first tick: one that is created from a template without an animation
does not. -/
theorem not_every_drop_survives :
    ¬ ∀ (ds : List Definition) (steps : StepLibrary ℝ) (c : Catalog ℝ) (config : Config ℝ)
      (e : Engine ℝ) (b b' : Beat ℝ) (v : Visit ℝ) (r : Rain ℝ) (s : Shot ℝ),
      ofDefinitions ds steps = .ok c → config.Regular → Reached c config (fun _ => True) e →
      v ∈ e.turns b → v.met.step = some (.rain r) → s ∈ v.born → Rain.Drop r config s →
      ∃ t ∈ ((e.beat b).beat b').shots, t.id = s.id := by
  intro hall
  let ds : List Definition := [⟨[⟨"Shot pellet", [("gimmick", .string "hold")]⟩]⟩]
  let steps : StepLibrary ℝ := .ofList [("hold", .launch ⟨Vec.zero⟩)]
  let r : Rain ℝ := ⟨"pellet", 2, 1, none⟩
  let op : Op ℝ := .spawnCarrier ⟨.none, .enemyShot⟩ Vec.zero (.rain r)
  let e (c : Catalog ℝ) : Engine ℝ := (new c Config.default).apply op
  let b : Beat ℝ := .tick .empty
  -- the numbers that wait after the first tick, and those that are there after the second
  have hruns : (ofDefinitions ds steps).toOption.any (fun c =>
      (((e c).beat b).registry.queue.pending.toList.map (·.id),
        (((e c).beat b).beat b).shots.map (·.id)) = ([⟨2⟩], [⟨1⟩])) = true := by
    decide +kernel
  rcases hload : ofDefinitions ds steps with err | c
  · rw [hload] at hruns
    cases hruns
  rw [hload] at hruns
  obtain ⟨hqueue, hafter⟩ := Prod.mk.inj (of_decide_eq_true hruns)
  have hdrop : (⟨2⟩ : ShotId) ∈ ((e c).beat b).registry.queue.pending.toList.map (·.id) := by
    rw [hqueue]
    exact List.mem_singleton_self _
  obtain ⟨s, hs, hid⟩ := List.mem_map.mp hdrop
  obtain ⟨v, hv, hborn⟩ := List.mem_flatMap.mp (queue_tick ((e c).poised b) b.world ▸ hs)
  have hreached : Reached c Config.default (fun _ => True) (e c) :=
    Reached.new.call op fun _ _ => trivial
  have hregular : (Config.default : Config ℝ).Regular := by
    constructor <;> norm_num [Config.default]
  have hstep : v.met.step = some (.rain r) := by rw [met_of_carrier hv]
  have hact := act_turns hv
  rw [hreached.setting.2] at hact
  have hfalls : Rain.Drop r Config.default s :=
    (Rain.drop_or_aimed hact hstep hborn).resolve_right fun ⟨w, a, hw, _⟩ => by cases hw
  obtain ⟨t, ht, htid⟩ :=
    hall ds steps c _ (e c) b b v r s hload hregular hreached hv hstep hborn hfalls
  have hthere := List.mem_map_of_mem (f := (·.id)) ht
  rw [hafter, htid, hid] at hthere
  cases hthere with
  | tail _ hnone => cases hnone

end Engine

end Barrage
