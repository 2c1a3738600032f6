import CrudScaffold.Proofs.Run.Passes
import CrudScaffold.Run.Basic

/-!
# Claiming and emitting in turn

A run claims the name of an artifact, emits the artifact, and goes on to the next one. Since no claim
depends on what came of an emission, the names might as well all be claimed beforehand: a run does what
its plan says, with the artifacts of the plan emitted in their order.
-/

namespace CrudScaffold

open PlannedModel

variable {m : Type → Type} [Monad m]

namespace Generator

/-- Emit the first share of every model of a plan. -/
def emitFirstShares (g : Generator) (store : Store m) : List PlannedModel → OptionT m (List Emissions)
  | [] => return []
  | p :: rest => do
    let first ← store.emitAll g.renderer p.first.specs
    return { planned := p, first } :: (← emitFirstShares g store rest)

/-- Emit the second share of every model of a plan, after its first share. -/
def emitSecondShares (g : Generator) (store : Store m) : List Emissions → OptionT m (List Emissions)
  | [] => return []
  | e :: rest => do
    let second ← store.emitAll g.renderer e.planned.second.specs
    return { e with second } :: (← emitSecondShares g store rest)

/-- Emit what was planned: every model's first share, then every model's second share. -/
def emitPlan (g : Generator) (store : Store m) (plan : List PlannedModel) :
    OptionT m (List Emissions) := do
  g.emitSecondShares store (← g.emitFirstShares store plan)

/-- The artifacts of a plan in the order in which they are emitted. -/
def emissionOrder (plan : List PlannedModel) : List Spec :=
  (plan.flatMap fun p => p.first.specs) ++ plan.flatMap fun p => p.second.specs

/-- The results of both passes in the order of the emissions. -/
def results (emissions : List Emissions) : List (Spec × Emission) :=
  emissions.flatMap Emissions.first ++ emissions.flatMap Emissions.second

end Generator

variable [LawfulMonad m] {α : Type} (store : Store m)

/-- What was emitted are the given artifacts. -/
theorem Store.emitAll_bind_map_fst (r : Renderer) (specs : List Spec)
    (k : List (Spec × Emission) → List Spec → OptionT m α) :
    (store.emitAll r specs >>= fun emitted => k emitted (emitted.map Prod.fst)) =
      store.emitAll r specs >>= fun emitted => k emitted specs := by
  induction specs generalizing k with
  | nil => simp [emitAll]
  | cons s specs ih =>
    simp only [emitAll, bind_assoc, pure_bind, List.map_cons]
    exact bind_congr fun e => ih fun rest names => k ((s, e) :: rest) (s :: names)

/-- First some artifacts and then others are emitted in this order. -/
theorem Store.emitAll_append (r : Renderer) (specs specs' : List Spec) :
    store.emitAll r (specs ++ specs') = do
      let first ← store.emitAll r specs
      let second ← store.emitAll r specs'
      return first ++ second := by
  induction specs with
  | nil => simp [Store.emitAll]
  | cons s specs ih => simp [Store.emitAll, ih]

namespace Generator

variable (g : Generator)

/-! ## One model -/

/-- Names that are claimed as artifacts are emitted are those that are claimed beforehand. -/
theorem claimAndEmit_eq (names : NameRegistry) (due : List Spec) :
    g.claimAndEmit store names due = do
      let emitted ← store.emitAll g.renderer (Share.claimInOrder names due).1
      return (emitted, (Share.claimInOrder names due).2) := by
  induction due generalizing names with
  | nil => simp [claimAndEmit, Share.claimInOrder, Store.emitAll]
  | cons s rest ih =>
    unfold claimAndEmit Share.claimInOrder
    cases names.claim? s.name with
    | none => simp [Store.emitAll]
    | some names => simp [Store.emitAll, ih]

/-- A share that is claimed as it is emitted is the one that is claimed beforehand. -/
theorem emitDue_eq (remarks : List String) (names : NameRegistry) (due : List Spec) :
    g.emitDue store remarks names due = do
      let emitted ← store.emitAll g.renderer (Share.claim remarks names due).1.specs
      return (((Share.claim remarks names due).1, emitted), (Share.claim remarks names due).2) := by
  unfold emitDue
  rw [claimAndEmit_eq, bind_assoc]
  simp only [pure_bind]
  exact store.emitAll_bind_map_fst g.renderer (Share.claimInOrder names due).1
    fun emitted specs => pure ((Share.mk remarks specs (Share.claimInOrder names due).2.1, emitted),
      (Share.claimInOrder names due).2.2)

/-- Nothing is emitted where nothing is due. -/
theorem emitDue_nil (remarks : List String) (names : NameRegistry) :
    g.emitDue store remarks names [] = return (({ remarks }, []), names) := by
  simp [emitDue, claimAndEmit]

/-- The first pass of a model emits what is planned for it. -/
theorem emitFirst_eq {p : PlannedModel} (hp : p.first = {}) (names : NameRegistry) :
    g.emitFirst store names p = do
      let first ← store.emitAll g.renderer (passFirst names p).1.first.specs
      return ({ planned := (passFirst names p).1, first }, (passFirst names p).2) := by
  unfold emitFirst passFirst Share.first
  cases p.assembly? with
  | none => simp [hp, Store.emitAll]
  | some a =>
    by_cases hentity : a.model.traits.entity = true
    · simp [hentity, emitDue_eq]
    · simp [hentity, emitDue_nil, Store.emitAll]

/-- The second pass of a model emits what is planned for it. -/
theorem emitSecond_eq {e : Emissions} (hplanned : e.planned.second = {}) (he : e.second = [])
    (names : NameRegistry) :
    g.emitSecond store names e = do
      let second ← store.emitAll g.renderer (passSecond names e.planned).1.second.specs
      return ({ planned := (passSecond names e.planned).1, first := e.first, second },
        (passSecond names e.planned).2) := by
  unfold emitSecond passSecond Share.second emitPipeline
  cases ha : e.planned.assembly? with
  | none => simp only [hplanned, Store.emitAll, pure_bind, ← he]
  | some a =>
    cases herror : e.planned.error with
    | some fault => simp only [hplanned, Store.emitAll, pure_bind, ← he]
    | none =>
      by_cases hbean : a.model.traits.scrudBean = true
      · cases hpipeline : a.pipeline with
        | ok due => simp [ha, hbean, hpipeline, emitDue_eq]
        | error fault => simp [ha, hbean, hpipeline, Store.emitAll]
      · simp [ha, hbean, Store.emitAll]

/-! ## All models -/

/-- The models of a run as the second pass finds and leaves them. -/
def replan (names : NameRegistry) : List Emissions → List Emissions × NameRegistry
  | [] => ([], names)
  | e :: rest =>
    let (planned, names) := passSecond names e.planned
    let (rest, names) := replan names rest
    ({ e with planned } :: rest, names)

/-- The first pass emits what is planned in it. -/
theorem inTurn_emitFirst {models : List PlannedModel} (h : ∀ p ∈ models, p.first = {})
    (names : NameRegistry) :
    inTurn (g.emitFirst store) names models = do
      let emissions ← g.emitFirstShares store (passAll passFirst names models).1
      return (emissions, (passAll passFirst names models).2) := by
  induction models generalizing names with
  | nil => simp [inTurn, passAll, emitFirstShares]
  | cons p models ih =>
    rw [List.forall_mem_cons] at h
    simp only [inTurn, g.emitFirst_eq store h.1, ih h.2, passAll, emitFirstShares, bind_assoc,
      pure_bind]

/-- The second pass emits what is planned in it. -/
theorem inTurn_emitSecond {emissions : List Emissions}
    (h : ∀ e ∈ emissions, e.planned.second = {} ∧ e.second = []) (names : NameRegistry) :
    inTurn (g.emitSecond store) names emissions = do
      let emitted ← g.emitSecondShares store (replan names emissions).1
      return (emitted, (replan names emissions).2) := by
  induction emissions generalizing names with
  | nil => simp [inTurn, replan, emitSecondShares]
  | cons e emissions ih =>
    rw [List.forall_mem_cons] at h
    simp only [inTurn, g.emitSecond_eq store h.1.1 h.1.2, ih h.2, replan, emitSecondShares,
      bind_assoc, pure_bind]

/-- Whatever follows the first pass finds its models as they were planned, with nothing emitted in the
second pass. -/
theorem emitFirstShares_bind_congr {models : List PlannedModel}
    {k k' : List Emissions → OptionT m α}
    (h : ∀ emissions, emissions.map Emissions.planned = models →
      (∀ e ∈ emissions, e.second = []) → k emissions = k' emissions) :
    g.emitFirstShares store models >>= k = g.emitFirstShares store models >>= k' := by
  induction models generalizing k k' with
  | nil =>
    simp only [emitFirstShares, pure_bind]
    exact h [] rfl fun _ he => absurd he List.not_mem_nil
  | cons p models ih =>
    simp only [emitFirstShares, bind_assoc, pure_bind]
    refine bind_congr fun first => ih fun emissions hplanned hsecond => ?_
    refine h _ (congrArg (p :: ·) hplanned) ?_
    rw [List.forall_mem_cons]
    exact ⟨rfl, hsecond⟩

/-- The first pass does the same when the second one is planned already. -/
theorem emitFirstShares_passSecond (models : List PlannedModel) (names : NameRegistry)
    (k : List Emissions → OptionT m α) :
    g.emitFirstShares store (passAll passSecond names models).1 >>= k =
      g.emitFirstShares store models >>= fun emissions => k (replan names emissions).1 := by
  induction models generalizing names k with
  | nil => simp [emitFirstShares, passAll, replan]
  | cons p models ih =>
    simp only [passAll, emitFirstShares, bind_assoc, pure_bind, first_passSecond, ih, replan]

/-- The names are claimed in the second pass as they were planned. -/
theorem snd_replan (names : NameRegistry) (emissions : List Emissions) :
    (replan names emissions).2 =
      (passAll passSecond names (emissions.map Emissions.planned)).2 := by
  induction emissions generalizing names with
  | nil => rfl
  | cons e emissions ih => exact ih _

/-- A run does what was planned, in the order of the plan, and claims the same names. -/
theorem emitModels_eq (c : Catalog) (hnames : g.names = {}) :
    g.emitModels store c = do
      let emissions ← g.emitPlan store c.plan
      return (emissions, c.claimed) := by
  have hfirst := g.inTurn_emitFirst store (fun p hp => (c.shares_of_mem_fresh hp).1) {}
  have hplan : (passAll passSecond c.halfway.2 c.halfway.1).1 = c.plan := rfl
  unfold emitModels emitPlan
  dsimp only
  rw [hnames]
  change (inTurn (g.emitFirst store) {} c.fresh >>= _) = _
  rw [hfirst, ← hplan, bind_assoc, bind_assoc, emitFirstShares_passSecond]
  simp only [pure_bind]
  refine g.emitFirstShares_bind_congr store fun emissions hemissions hsecond => ?_
  have hfresh : ∀ e ∈ emissions, e.planned.second = {} ∧ e.second = [] := by
    intro e he
    refine ⟨c.second_of_mem_halfway (hemissions ▸ List.mem_map_of_mem he), hsecond e he⟩
  rw [g.inTurn_emitSecond store hfresh, snd_replan, hemissions]
  rfl

/-! ## The order of emissions -/

/-- The first pass emits every model's first share. -/
theorem map_emitFirstShares (plan : List PlannedModel) :
    List.flatMap Emissions.first <$> g.emitFirstShares store plan =
      store.emitAll g.renderer (plan.flatMap fun p => p.first.specs) := by
  induction plan with
  | nil => simp [emitFirstShares, Store.emitAll]
  | cons p plan ih => simp [emitFirstShares, Store.emitAll_append, ← ih]

/-- The second pass emits every model's second share, and keeps what came of the first. -/
theorem map_emitSecondShares (emissions : List Emissions) :
    (fun es => (es.flatMap Emissions.first, es.flatMap Emissions.second)) <$>
        g.emitSecondShares store emissions =
      (emissions.flatMap Emissions.first, ·) <$>
        store.emitAll g.renderer (emissions.flatMap fun e => e.planned.second.specs) := by
  induction emissions with
  | nil => simp [emitSecondShares, Store.emitAll]
  | cons e emissions ih =>
    simp only [emitSecondShares, List.flatMap_cons, Store.emitAll_append, map_bind, map_pure]
    refine bind_congr fun second => ?_
    have hrest := congrArg (fun x => (fun q => (e.first ++ q.1, second ++ q.2)) <$> x) ih
    simpa using hrest

/-- A plan is emitted in its order. -/
theorem map_results_emitPlan (plan : List PlannedModel) :
    results <$> g.emitPlan store plan = store.emitAll g.renderer (emissionOrder plan) := by
  have hsecond (emissions : List Emissions) :
      results <$> g.emitSecondShares store emissions =
        (emissions.flatMap Emissions.first ++ ·) <$>
          store.emitAll g.renderer (emissions.flatMap fun e => e.planned.second.specs) := by
    have hboth := congrArg (fun x => (fun q => q.1 ++ q.2) <$> x)
      (g.map_emitSecondShares store emissions)
    rw [Functor.map_map, Functor.map_map] at hboth
    exact hboth
  unfold emitPlan emissionOrder
  rw [map_bind, Store.emitAll_append, ← map_emitFirstShares, bind_map_left]
  refine g.emitFirstShares_bind_congr store fun emissions hplanned _ => ?_
  rw [hsecond, ← hplanned, List.flatMap_map, bind_pure_comp]

end Generator

end CrudScaffold
