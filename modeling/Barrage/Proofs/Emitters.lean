import Barrage.Proofs.References
import Barrage.Proofs.Scripts
import Barrage.Scalar.Single
import Mathlib.Algebra.Order.Floor.Div

/-!
How emitters keep time.

An emitter looks for its owner in every tick. As long as it finds it, or has none, it fires whenever
a period comes round, at frame zero and at every multiple of the period; streams and rains have a
second period, which is counted on its own. So the number of shots after `n` ticks is a matter of
how often each period comes round in them. In the first tick in which its owner is not there, an
emitter fires nothing and is retired, and it does not come back with its owner.
-/

namespace Barrage

open Engine (Reached Watch Performs Arrives)

variable {K : Type} [Scalar K]

/-! ### What a firing comes to -/

/-- So many shots that look like the template of a name. -/
structure Rounds (c : Catalog K) (name : String) (count : Nat)
    (births : List (Birth K)) : Prop where
  length : births.length = count
  alike : ∃ t, c.find? name = some t ∧ ∀ b ∈ births, b.visual = t.visual

/-- The template of a name along with all its sub-shots. -/
def WholeTree (c : Catalog K) (name : String) (place : Vec K) (births : List (Birth K)) : Prop :=
  ∃ t, c.find? name = some t ∧ births = (c.tree t place).map Birth.ofNode

omit [Scalar K] in
lemma Rounds.append {c : Catalog K} {name : String} {m n : Nat} {bs bs' : List (Birth K)}
    (h : Rounds c name m bs) (h' : Rounds c name n bs') : Rounds c name (m + n) (bs ++ bs') := by
  obtain ⟨hlength, t, ht, halike⟩ := h
  obtain ⟨hlength', t', ht', halike'⟩ := h'
  obtain rfl := Option.some.inj (ht.symm.trans ht')
  refine ⟨by rw [List.length_append, hlength, hlength'], t, ht, fun b hb => ?_⟩
  exact (List.mem_append.mp hb).elim (halike b) (halike' b)

/-- Births of the frames on which a period comes round. -/
structure Due (frame : Nat) (every : UInt32) (P : List (Birth K) → Prop)
    (births : List (Birth K)) : Prop where
  now : period every ∣ frame → P births
  between : ¬ period every ∣ frame → births = []

/-- All that an emitter fires on a frame. -/
inductive Salvo (c : Catalog K) (place : Vec K) (frame : Nat) :
    Step K → List (Birth K) → Prop where
  | flower (s : Flower K) {ring : List (Birth K)}
      (h : Due frame s.every (Rounds c s.template s.count.toNat) ring) :
      Salvo c place frame (.flower s) ring
  | spiral (s : Spiral K) {ring : List (Birth K)}
      (h : Due frame s.every (Rounds c s.template s.count.toNat) ring) :
      Salvo c place frame (.spiral s) ring
  | cascade (s : Cascade K) {ring : List (Birth K)}
      (h : Due frame s.every (Rounds c s.template s.branches.toNat) ring) :
      Salvo c place frame (.cascade s) ring
  | stream (s : Stream K) {pair tree : List (Birth K)}
      (h : Due frame s.every
        (fun births => Rounds c s.template 1 births ∨ Rounds c s.template 2 births) pair)
      (hextra : s.extra.elim (tree = []) fun e => Due frame e.2 (WholeTree c e.1 place) tree) :
      Salvo c place frame (.stream s) (pair ++ tree)
  | rain (s : Rain K) {drop volley : List (Birth K)}
      (h : Due frame s.every (Rounds c s.template 1) drop)
      (hvolley : s.volley.elim (volley = []) fun w =>
        Due frame w.every (Rounds c w.template w.count.toNat) volley) :
      Salvo c place frame (.rain s) (drop ++ volley)

/-- The kinds that fire whenever a period comes round. -/
inductive Step.Periodic : Step K → Prop where
  | flower (s : Flower K) : Periodic (.flower s)
  | spiral (s : Spiral K) : Periodic (.spiral s)
  | cascade (s : Cascade K) : Periodic (.cascade s)
  | stream (s : Stream K) : Periodic (.stream s)
  | rain (s : Rain K) : Periodic (.rain s)

variable {c : Catalog K} {name : String} {P : List (Birth K) → Prop} {v : View K}

/-- Orders come to births of a kind, and none of them fails. -/
def Order.Yield (c : Catalog K) (os : List (Order K)) (P : List (Birth K) → Prop) : Prop :=
  ∃ births, P births ∧ birthsAll c os = (births, none)

lemma Order.Yield.imp {os : List (Order K)} {Q : List (Birth K) → Prop} (h : Yield c os P)
    (hPQ : ∀ births, P births → Q births) : Yield c os Q := by
  obtain ⟨births, hP, hbirths⟩ := h
  exact ⟨births, hPQ births hP, hbirths⟩

lemma Order.Yield.append {os os' : List (Order K)} {Q R : List (Birth K) → Prop}
    (h : Yield c os P) (h' : Yield c os' Q) (hPQ : ∀ b b', P b → Q b' → R (b ++ b')) :
    Yield c (os ++ os') R := by
  obtain ⟨births, hP, hbirths⟩ := h
  obtain ⟨births', hQ, hbirths'⟩ := h'
  exact ⟨_, hPQ births births' hP hQ, birthsAll_append hbirths hbirths'⟩

lemma Order.yield_shots (hname : (c.id? name).isSome = true) (count : Nat)
    (each : Nat → Vec K × Step K) : Yield c [.shots name count each] (Rounds c name count) := by
  obtain ⟨t, ht⟩ := Catalog.find?_of_isSome hname
  refine ⟨_, ⟨Birth.length_row _ _ _, t, ht, fun b hb => ?_⟩, birthsAll_shots ht count each⟩
  obtain ⟨i, -, rfl⟩ := List.mem_map.mp hb
  rfl

lemma Order.yield_tree (hname : (c.id? name).isSome = true) (place : Vec K) :
    Yield c [.tree name place] (WholeTree c name place) := by
  obtain ⟨t, ht⟩ := Catalog.find?_of_isSome hname
  refine ⟨_, ⟨t, ht, rfl⟩, ?_⟩
  simp [birthsAll, births, ht]

lemma Order.Yield.onPeriod {os : List (Order K)} (h : Yield c os P) (v : View K)
    (every : UInt32) : Yield c (onPeriod v every os) (Due v.frame.toNat every P) := by
  obtain ⟨births, hP, hbirths⟩ := h
  have hfires : fires v.frame every = true ↔ period every ∣ v.frame.toNat := by
    rw [fires, beq_iff_eq, Nat.dvd_iff_mod_eq_zero]
  rw [Barrage.onPeriod]
  split_ifs with hround
  · exact ⟨births, ⟨fun _ => hP, fun hnot => absurd (hfires.mp hround) hnot⟩, hbirths⟩
  · exact ⟨[], ⟨fun h => absurd (hfires.mpr h) hround, fun _ => rfl⟩, rfl⟩

/-- Orders for something that there may be or not be. -/
lemma Order.yield_optional {α : Type} (o : Option α) {os : α → List (Order K)}
    {P : α → List (Birth K) → Prop} (h : ∀ a, o = some a → Yield c (os a) (P a)) :
    Yield c (o.toList.flatMap os) fun births => o.elim (births = []) fun a => P a births := by
  rcases o with _ | a
  · exact ⟨[], rfl, rfl⟩
  · rw [Option.toList_some, List.flatMap_singleton]
    exact h a rfl

/-- The turn of an emitter. -/
structure Emission (c : Catalog K) (step : Step K) (v : View K) (t : Turn K) : Prop where
  same : t.step = step
  fires : ∀ place, v.source = some place →
    t.signal = .keep ∧ Order.Yield c t.orders (Salvo c place v.frame.toNat step)
  stops : v.source = none → t.signal = .finish ∧ t.orders = []

lemma emission_emit {step : Step K} {orders : Vec K → List (Order K)}
    (h : ∀ place, Order.Yield c (orders place) (Salvo c place v.frame.toNat step)) :
    Emission c step v (emit v step orders) := by
  refine ⟨step_emit v step orders, fun place hplace => ?_, fun hnone => ?_⟩
  · rw [emit, hplace]
    exact ⟨rfl, h place⟩
  · rw [emit, hnone]
    exact ⟨rfl, rfl⟩

lemma Flower.emission (s : Flower K) (hg : (Step.flower s).Grounded c) (v : View K) :
    Emission c (.flower s) v (s.run v) :=
  emission_emit fun _ =>
    ((Order.yield_shots (hg s.template (.head _)) _ _).onPeriod v s.every).imp fun _ => .flower s

lemma Spiral.emission (s : Spiral K) (hg : (Step.spiral s).Grounded c) (v : View K) :
    Emission c (.spiral s) v (s.run v) :=
  emission_emit fun _ =>
    ((Order.yield_shots (hg s.template (.head _)) _ _).onPeriod v s.every).imp fun _ => .spiral s

lemma Cascade.emission (s : Cascade K) (hg : (Step.cascade s).Grounded c) (v : View K) :
    Emission c (.cascade s) v (s.run v) :=
  emission_emit fun _ =>
    ((Order.yield_shots (hg s.template (.head _)) _ _).onPeriod v s.every).imp fun _ => .cascade s

/-- One shot or a pair of them. -/
lemma Stream.yield_pair (s : Stream K) (hname : (c.id? s.template).isSome = true)
    (frame : UInt32) (place : Vec K) :
    Order.Yield c
      ((s.headings frame).map fun heading =>
        .shots s.template 1 fun _ => (place, .angled ⟨heading, s.speed⟩))
      (fun births => Rounds c s.template 1 births ∨ Rounds c s.template 2 births) := by
  have hone (heading : K) := Order.yield_shots hname 1 fun _ => (place, .angled ⟨heading, s.speed⟩)
  rw [headings]
  split_ifs
  · exact (hone _).append (hone _) fun _ _ h h' => .inr (h.append h')
  · exact (hone _).imp fun _ => .inl

lemma Stream.emission (s : Stream K) (hg : (Step.stream s).Grounded c) (v : View K) :
    Emission c (.stream s) v (s.run v) := by
  refine emission_emit fun place => ?_
  have hpair := (s.yield_pair (hg s.template (.head _)) v.frame place).onPeriod v s.every
  have htree := Order.yield_optional s.extra fun e he =>
    (Order.yield_tree (hg e.1 (List.mem_cons_of_mem _ (by simp [he]))) place).onPeriod v e.2
  exact hpair.append htree fun _ _ => .stream s

/-- The turn of a rain that has a source. -/
lemma Rain.run_of_source (s : Rain K) {v : View K} {place : Vec K} (h : v.source = some place)
    (r : Random) : (s.run v r).1 =
      { step := .rain s
        signal := .keep
        orders :=
          onPeriod v s.every [.shots s.template 1 fun _ =>
            (dropPoint v.config (r.between (Scalar.nat 0) (Scalar.nat 1)).1,
              .angled ⟨Heading.down, s.speed⟩)] ++
          s.volley.toList.flatMap fun w => onPeriod v w.every [volleyOrder w place] } := by
  simp only [run, h, onPeriod]
  split_ifs <;> rfl

lemma Rain.emission (s : Rain K) (hg : (Step.rain s).Grounded c) (v : View K) (r : Random) :
    Emission c (.rain s) v (s.run v r).1 := by
  refine ⟨s.step_run v r, fun place hplace => ?_, fun hnone => ?_⟩
  · rw [s.run_of_source hplace]
    have hdrop := (Order.yield_shots (hg s.template (.head _)) 1 fun _ =>
      (dropPoint v.config (r.between (Scalar.nat 0) (Scalar.nat 1)).1,
        .angled ⟨Heading.down, s.speed⟩)).onPeriod v s.every
    have hvolley := Order.yield_optional s.volley fun w hw =>
      (Order.yield_shots (hg w.template (List.mem_cons_of_mem _ (by simp [hw]))) w.count.toNat
        fun i => (place, .aimed (.exactly (w.first + w.turn * Scalar.nat i)
          (w.speed + Scalar.nat 0 * Scalar.nat i)))).onPeriod v w.every
    exact ⟨rfl, hdrop.append hvolley fun _ _ => .rain s⟩
  · simp only [run, hnone]
    exact ⟨trivial, trivial⟩

theorem Step.Periodic.emission {step : Step K} (h : step.Periodic) (hg : step.Grounded c)
    (v : View K) (r : Random) : Emission c step v (step.run v r).1 := by
  cases h with
  | flower s => exact s.emission hg v
  | spiral s => exact s.emission hg v
  | cascade s => exact s.emission hg v
  | stream s => exact s.emission hg v
  | rain s => exact s.emission hg v r

/-! ### How many shots -/

/-- How many shots the tree of a template comes to. -/
def Catalog.treeSize (c : Catalog K) (name : String) : Nat :=
  ((c.find? name).map fun t => (c.tree t Vec.zero).length).getD 0

/-- A tree is as large wherever it stands. -/
lemma Catalog.length_unfold (c : Catalog K) (depth : Nat) (t : Template K) (p q : Vec K) :
    (c.unfold depth t p).length = (c.unfold depth t q).length := by
  induction depth generalizing t p q with
  | zero => rfl
  | succ depth ih =>
    rw [unfold, unfold, List.length_cons, List.length_cons, List.length_flatMap,
      List.length_flatMap]
    congr 3
    funext sub
    rcases c.templates[sub.template]? with _ | u
    · rfl
    · exact ih u _ _

lemma WholeTree.length {place : Vec K} {births : List (Birth K)}
    (h : WholeTree c name place births) : births.length = c.treeSize name := by
  obtain ⟨t, ht, rfl⟩ := h
  rw [List.length_map, Catalog.treeSize, ht]
  exact c.length_unfold _ t _ _

/-- How many shots an emitter fires that fires so many times for each period. -/
inductive Volume (c : Catalog K) (times : UInt32 → Nat) : Step K → Nat → Prop where
  | flower (s : Flower K) : Volume c times (.flower s) (s.count.toNat * times s.every)
  | spiral (s : Spiral K) : Volume c times (.spiral s) (s.count.toNat * times s.every)
  | cascade (s : Cascade K) : Volume c times (.cascade s) (s.branches.toNat * times s.every)
  /-- One or two for each firing, and the trees besides. -/
  | stream (s : Stream K) {shots : Nat} (hone : times s.every ≤ shots)
      (htwo : shots ≤ 2 * times s.every) :
      Volume c times (.stream s)
        (shots + s.extra.elim 0 fun e => c.treeSize e.1 * times e.2)
  | rain (s : Rain K) :
      Volume c times (.rain s)
        (times s.every + s.volley.elim 0 fun w => w.count.toNat * times w.every)

/-- How many times a period comes round on a frame. -/
def onFrame (frame : Nat) (every : UInt32) : Nat := if period every ∣ frame then 1 else 0

/-- How many times it comes round on the first `n` frames. -/
def firings (n : Nat) (every : UInt32) : Nat := n ⌈/⌉ period every

lemma firings_succ (n : Nat) (every : UInt32) :
    firings (n + 1) every = firings n every + onFrame n every := by
  have hpos : 0 < period every := by rw [period]; omega
  have hround : period every ∣ n + period every - 1 + 1 ↔ period every ∣ n := by
    rw [Nat.sub_add_cancel (by omega), Nat.dvd_add_self_right]
  have hnext : n + 1 + period every - 1 = n + period every - 1 + 1 := by omega
  rw [firings, firings, Nat.ceilDiv_eq_add_pred_div, Nat.ceilDiv_eq_add_pred_div, hnext,
    Nat.succ_div, onFrame]
  simp only [hround]

/-- So many of the first `n` frames are its rounds. -/
lemma countP_firings (n : Nat) (every : UInt32) :
    (List.range n).countP (fun k => decide (period every ∣ k)) = firings n every := by
  induction n with
  | zero => exact (zero_ceilDiv _).symm
  | succ n ih =>
    rw [List.range_succ, List.countP_append, ih, firings_succ, List.countP_singleton, onFrame]
    simp only [decide_eq_true_eq]

section Counting

omit [Scalar K]

variable {frame : Nat} {every : UInt32} {births : List (Birth K)} {m : Nat}

lemma Due.length (h : Due frame every P births) (hP : ∀ births, P births → births.length = m) :
    births.length = m * onFrame frame every := by
  rw [onFrame]
  split_ifs with hround
  · rw [hP _ (h.now hround), Nat.mul_one]
  · rw [h.between hround]
    rfl

lemma Due.length_optional {α : Type} {o : Option α} {every : α → UInt32}
    {P : α → List (Birth K) → Prop} {m : α → Nat}
    (h : o.elim (births = []) fun a => Due frame (every a) (P a) births)
    (hP : ∀ a births, P a births → births.length = m a) :
    births.length = o.elim 0 fun a => m a * onFrame frame (every a) := by
  rcases o with _ | a
  · rw [show births = [] from h]
    rfl
  · exact Due.length h (hP a)

/-- One shot or two in a firing, and none between. -/
lemma Due.length_pair {c : Catalog K} {name : String}
    (h : Due frame every (fun births => Rounds c name 1 births ∨ Rounds c name 2 births) births) :
    onFrame frame every ≤ births.length ∧ births.length ≤ 2 * onFrame frame every := by
  rw [onFrame]
  split_ifs with hround
  · rcases h.now hround with hone | htwo
    · rw [hone.length]
      decide
    · rw [htwo.length]
      decide
  · rw [h.between hround]
    exact ⟨Nat.le_refl 0, Nat.le_refl 0⟩

end Counting

lemma Salvo.volume {place : Vec K} {frame : Nat} {step : Step K} {births : List (Birth K)}
    (h : Salvo c place frame step births) : Volume c (onFrame frame) step births.length := by
  cases h with
  | flower s h =>
    rw [h.length fun _ h => h.length]
    exact .flower s
  | spiral s h =>
    rw [h.length fun _ h => h.length]
    exact .spiral s
  | cascade s h =>
    rw [h.length fun _ h => h.length]
    exact .cascade s
  | stream s h hextra =>
    obtain ⟨hone, htwo⟩ := h.length_pair
    rw [List.length_append, Due.length_optional hextra fun e _ h => h.length]
    exact .stream s hone htwo
  | rain s h hvolley =>
    rw [List.length_append, h.length fun _ h => h.length,
      Due.length_optional hvolley fun w _ h => h.length, Nat.one_mul]
    exact .rain s

lemma Volume.zero {step : Step K} (h : step.Periodic) : Volume c (firings 0) step 0 := by
  have hzero : firings 0 = fun _ => 0 := funext fun every => zero_ceilDiv _
  rw [hzero]
  cases h with
  | flower s => exact .flower s
  | spiral s => exact .spiral s
  | cascade s => exact .cascade s
  | stream s =>
    have hzero : (s.extra.elim 0 fun e => c.treeSize e.1 * 0) = 0 := by
      rcases s.extra with _ | e <;> rfl
    have hnone : Volume c (fun _ => 0) (.stream s) _ := .stream s (Nat.le_refl 0) (Nat.le_refl 0)
    rwa [hzero] at hnone
  | rain s =>
    have hzero : (s.volley.elim 0 fun w => w.count.toNat * 0) = 0 := by
      rcases s.volley with _ | w <;> rfl
    have hnone : Volume c (fun _ => 0) (.rain s) _ := .rain s
    rwa [hzero] at hnone

lemma Volume.of_cascade {times : UInt32 → Nat} {s : Cascade K} {m : Nat}
    (h : Volume c times (.cascade s) m) : m = s.branches.toNat * times s.every := by
  cases h
  rfl

/-- What an optional part fires adds up. -/
lemma elim_add {α : Type} (o : Option α) (m f g : α → Nat) :
    (o.elim 0 fun a => m a * f a) + (o.elim 0 fun a => m a * g a) =
      o.elim 0 fun a => m a * (f a + g a) := by
  rcases o with _ | a
  · rfl
  · exact (Nat.mul_add _ _ _).symm

lemma Volume.add {f g : UInt32 → Nat} {step : Step K} {a b : Nat} (h : Volume c f step a)
    (h' : Volume c g step b) : Volume c (fun every => f every + g every) step (a + b) := by
  cases h with
  | flower s =>
    cases h' with
    | flower =>
      rw [← Nat.mul_add]
      exact .flower s
  | spiral s =>
    cases h' with
    | spiral =>
      rw [← Nat.mul_add]
      exact .spiral s
  | cascade s =>
    cases h' with
    | cascade =>
      rw [← Nat.mul_add]
      exact .cascade s
  | stream s hone htwo =>
    cases h' with
    | stream _ hone' htwo' =>
      rw [Nat.add_add_add_comm, elim_add]
      exact .stream s (by omega) (by omega)
  | rain s =>
    cases h' with
    | rain =>
      rw [Nat.add_add_add_comm, elim_add]
      exact .rain s

/-! ### A whole run -/

/-- The owner of an emitter can be found, or it has none. -/
def Shot.Sourced (s : Shot K) (w : World K) : Prop :=
  s.owner = .none ∨ (w.locate s.owner).isSome = true

/-- Where an emitter fires from as long as its owner can be found. -/
def Shot.source (s : Shot K) (w : World K) : Vec K := (w.locate s.owner).getD s.origin

variable {s : Shot K} {config : Config K} {world : Nat → World K}

omit [Scalar K] in
lemma Shot.source_outlook (s : Shot K) (config : Config K) (world : Nat → World K) (k : Nat) :
    (s.Sourced (world k) → (s.outlook config world k).source = some (s.source (world k))) ∧
      (¬ s.Sourced (world k) → (s.outlook config world k).source = none) := by
  have howner : (s.outlook config world k).owner = s.owner := rfl
  have hplace : (s.outlook config world k).ownerPosition = (world k).locate s.owner := rfl
  have hposition : (s.outlook config world k).position = s.origin := rfl
  rw [View.source, howner, hplace, hposition, Sourced, Shot.source]
  rcases s.owner with _ | _ | handle | handle
  · simp [World.locate]
  · rcases (world k).locate .player with _ | p <;> simp
  · rcases (world k).locate (.enemy handle) with _ | p <;> simp
  · rcases (world k).locate (.boss handle) with _ | p <;> simp

/-- What an emitter does, tick by tick. -/
def Step.emitter (step : Step K) (c : Catalog K) (s : Shot K) (world : Nat → World K) :
    Script K where
  step _ := step
  Fires k births :=
    (s.Sourced (world k) → Salvo c (s.source (world k)) (k % UInt32.size) step births) ∧
      (¬ s.Sourced (world k) → births = [])
  Last k := ¬ s.Sourced (world k)

lemma Step.Periodic.fits_emitter {step : Step K} (h : step.Periodic) (hg : step.Grounded c)
    (hbody : s.body = none) : (step.emitter c s world).Fits c config s world := by
  intro k v r hv
  obtain rfl := hv.eq_outlook hbody
  obtain ⟨hsame, hfires, hstops⟩ := h.emission hg (s.outlook config world k) r
  obtain ⟨hsome, hnone⟩ := s.source_outlook config world k
  have hrun : (((step.emitter c s world).step k).run (s.outlook config world k) r).1 =
      (step.run (s.outlook config world k) r).1 := rfl
  rw [hrun]
  by_cases hs : s.Sourced (world k)
  · obtain ⟨hsignal, births, hsalvo, hbirths⟩ := hfires _ (hsome hs)
    have hframe : (s.outlook config world k).frame.toNat = k % UInt32.size := UInt32.toNat_ofNat'
    rw [hframe] at hsalvo
    exact ⟨⟨births, ⟨fun _ => hsalvo, fun hgone => absurd hs hgone⟩, hbirths⟩,
      fun hlast => absurd hs hlast, fun _ => ⟨hsignal, hsame⟩⟩
  · obtain ⟨hsignal, horders⟩ := hstops (hnone hs)
    exact ⟨⟨[], ⟨fun h => absurd h hs, fun _ => rfl⟩, by rw [horders]; rfl⟩, fun _ => hsignal,
      fun hlast => absurd hs hlast⟩

variable {e e' : Engine K} {step : Step K} {n : Nat} {born : Nat → List (Shot K)}

lemma Step.lasts_emitter {m : Nat} :
    (step.emitter c s world).Lasts m ↔ ∀ k < m, s.Sourced (world k) :=
  forall₂_congr fun _ _ => not_not

section Emitting

variable (h : Performs (step.emitter c s world) s world born n e)

include h

lemma Engine.Performs.salvo : ∀ k < n, (∀ j ≤ k, s.Sourced (world j)) → ∃ births st,
    Salvo c (s.source (world k)) (k % UInt32.size) step births ∧
      born k = Stage.newborns st ⟨s.owner, s.list⟩ births := by
  intro k hk hfound
  obtain ⟨births, st, ⟨hsalvo, -⟩, hborn⟩ :=
    h.fires k hk (Step.lasts_emitter.mpr fun j hj => hfound j (Nat.le_of_lt hj))
  exact ⟨births, st, hsalvo (hfound k (Nat.le_refl k)), hborn⟩

/-- The total, by induction on the ticks. -/
lemma Engine.Performs.volume (hperiodic : step.Periodic) (hn : n ≤ UInt32.size)
    (hfound : ∀ k < n, s.Sourced (world k)) :
    Volume c (firings n) step ((List.range n).flatMap born).length := by
  have hfirst (m : Nat) (hm : m ≤ n) :
      Volume c (firings m) step ((List.range m).flatMap born).length := by
    induction m with
    | zero => exact .zero hperiodic
    | succ m ih =>
      obtain ⟨births, st, hsalvo, hborn⟩ :=
        h.salvo m hm fun j hj => hfound j (Nat.lt_of_le_of_lt hj hm)
      have hnext : firings (m + 1) = fun every => firings m every + onFrame m every :=
        funext (firings_succ m)
      rw [Nat.mod_eq_of_lt (Nat.lt_of_lt_of_le hm hn)] at hsalvo
      rw [List.range_succ, List.flatMap_append, List.flatMap_singleton, List.length_append,
        hborn, Stage.length_newborns, hnext]
      exact (ih (Nat.le_of_succ_le hm)).add hsalvo.volume
  exact hfirst n (Nat.le_refl n)

/-- Nothing is fired in the tick in which the owner is lost, nor afterwards. -/
lemma Engine.Performs.quiet {k j : Nat} (hlost : ¬ s.Sourced (world k)) (hj : k ≤ j)
    (hjn : j < n) : born j = [] := by
  by_cases hlasts : (step.emitter c s world).Lasts j
  · have hfound := Step.lasts_emitter.mp hlasts
    obtain rfl : k = j := by
      by_contra hne
      exact hlost (hfound k (by omega))
    obtain ⟨births, st, ⟨-, hnone⟩, hborn⟩ := h.fires k hjn hlasts
    rw [hborn, hnone hlost]
    rfl
  · exact h.silent j hjn hlasts

end Emitting

/-- What has come of an emitter in its first `n` ticks. -/
structure Emits (c : Catalog K) (step : Step K) (s : Shot K) (world : Nat → World K)
    (born : Nat → List (Shot K)) (n : Nat) (e : Engine K) : Prop where
  performs : Performs (step.emitter c s world) s world born n e
  /-- It is kept, with the same step, as long as its owner is found. -/
  kept : (∀ k < n, s.Sourced (world k)) → ∃ t ∈ e.shots, t.id = s.id ∧ t.step = some step
  /-- In each of these ticks it fires what is due on the frame, from where its owner is. -/
  salvo : ∀ k < n, (∀ j ≤ k, s.Sourced (world j)) → ∃ births st,
    Salvo c (s.source (world k)) (k % UInt32.size) step births ∧
      born k = Stage.newborns st ⟨s.owner, s.list⟩ births
  /-- A period comes round at its multiples, and that is so many times. -/
  rounds : ∀ every, (List.range n).countP (fun k => decide (period every ∣ k)) = firings n every
  total : n ≤ UInt32.size → (∀ k < n, s.Sourced (world k)) →
    Volume c (firings n) step ((List.range n).flatMap born).length
  /-- The rings of a cascade that is built as usual have three shots. -/
  threefold : n ≤ UInt32.size → (∀ k < n, s.Sourced (world k)) →
    ∀ template every turn depth speed, step = .cascade (.of template every turn depth speed) →
      ((List.range n).flatMap born).length = 3 * firings n every
  /-- From the first tick on in which its owner is not found it fires nothing, and it is gone after
  that tick for good. -/
  stopped : ∀ k < n, ¬ s.Sourced (world k) → (∀ j, k ≤ j → j < n → born j = []) ∧ e.Gone s.id

variable {A : Step K → Prop} {op : Op K}

/-- **Emitters keep their schedule and stop with their owner**, from the call that brings them about
and whatever is called as long as nobody takes them away. -/
theorem Engine.Reached.emits {config : Config K} (h : Reached c config A e) (hs : Arrives e op s)
    (hbody : s.body = none) (hstep : s.step = some step) (hperiodic : step.Periodic)
    (hg : ∀ name ∈ step.references, (c.id? name).isSome = true)
    (hw : Watch s.id world born (e.apply op) n e') : Emits c step s world born n e' := by
  have hperforms : Performs (step.emitter c s world) s world born n e' := by
    refine hw.performs h.inOrder hs hbody hstep ?_
    obtain ⟨hcatalog, hconfig⟩ := h.setting_apply op
    rw [hcatalog, hconfig]
    exact hperiodic.fits_emitter hg hbody
  constructor
  case performs => exact hperforms
  case kept => exact fun hfound => hperforms.there (Step.lasts_emitter.mpr hfound)
  case salvo => exact hperforms.salvo
  case rounds => exact countP_firings n
  case total => exact hperforms.volume hperiodic
  case threefold =>
    rintro hn hfound template every turn depth speed rfl
    exact (hperforms.volume hperiodic hn hfound).of_cascade
  case stopped =>
    intro k hk hlost
    refine ⟨fun j hj hjn => hperforms.quiet hlost hj hjn, hperforms.gone fun hlasts => ?_⟩
    exact hlost (Step.lasts_emitter.mp hlasts k hk)

/-- A flower that fires three dots on every second tick. Its owner is gone in the fourth tick, and
back in the fifth. -/
theorem Engine.emits_flower :
    let dot : Template Float32 := ⟨"dot", some ⟨7, 1, 2⟩, none, none, Vec.zero, []⟩
    let step : Step Float32 := .flower (.of "dot" 2 3 1)
    let e : Engine Float32 := .new ⟨#[dot]⟩ Config.default
    let op : Op Float32 := .spawnCarrier ⟨.enemy ⟨0, 0⟩, .enemyShot⟩ ⟨160, 120⟩ step
    let s : Shot Float32 :=
      ⟨⟨1⟩, 0, .enemy ⟨0, 0⟩, ⟨160, 120⟩, some step, .enemyShot, none, 0⟩
    let world (k : Nat) : World Float32 :=
      { World.empty with enemyAt := fun _ => if k = 3 then none else some ⟨160, 40⟩ }
    let after (n : Nat) := (e.apply op).run ((List.range n).map fun k => .tick (world k))
    let born (k : Nat) := (after k).fired ⟨1⟩ (.tick (world k))
    Emits ⟨#[dot]⟩ step s world born 3 (after 3) ∧
      ((List.range 3).flatMap born).length = 6 ∧
      Emits ⟨#[dot]⟩ step s world born 5 (after 5) ∧ (after 5).Gone ⟨1⟩ ∧ born 4 = [] := by
  intro dot step e op s world after born
  have hreached : Reached ⟨#[dot]⟩ Config.default (fun _ => True) e := .new
  have hshots : (e.apply op).shots = [s] := by with_unfolding_all rfl
  have harrives : Arrives e op s := ⟨hshots ▸ List.mem_singleton_self s, fun t ht => by cases ht⟩
  have hgrounded : ∀ name ∈ step.references,
      ((⟨#[dot]⟩ : Catalog Float32).id? name).isSome = true := by decide +kernel
  have hemits (n : Nat) : Emits ⟨#[dot]⟩ step s world born n (after n) :=
    hreached.emits harrives rfl rfl (.flower _) hgrounded
      (watch_run (e.apply op) ⟨1⟩ (fun k => .tick (world k)) n)
  have hfound : ∀ k < 3, s.Sourced (world k) := by
    intro k hk
    have hne : k ≠ 3 := by omega
    refine .inr ?_
    simp [world, s, World.locate, hne]
  have hlost : ¬ s.Sourced (world 3) := by simp [Shot.Sourced, world, s, World.locate]
  obtain ⟨hquiet, hgone⟩ := (hemits 5).stopped 3 (by decide) hlost
  have hvolume : Volume ⟨#[dot]⟩ (firings 3) (.flower (.of "dot" 2 3 1)) _ :=
    (hemits 3).total (by decide) hfound
  refine ⟨hemits 3, ?_, hemits 5, hgone, hquiet 4 (by decide) (by decide)⟩
  generalize ((List.range 3).flatMap born).length = m at hvolume ⊢
  cases hvolume
  decide +kernel

end Barrage
