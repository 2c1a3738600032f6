import CrudScaffold.Proofs.Aborting
import CrudScaffold.Proofs.Run.Loop

/-!
# The stages of a run

What a run emits is fixed by its plan. A store decides what comes of each artifact, but not which
artifacts there are: every share is emitted to its end, and every model keeps what was planned, unless
the run aborts. It aborts over the first artifact that it does not find in the store and cannot print.
-/

namespace CrudScaffold

variable {σ : Type}

namespace Store

variable {store : Store (StateM σ)} {r : Renderer} {spec : Spec} {specs : List Spec} {s t u : σ}

/-! ## Emissions -/

/-- A name that is answered for is skipped; else the artifact is rendered and written, or the program
aborts. -/
theorem run_emit {there : Bool} (h : (store.holds spec.name).run s = (there, t)) (r : Renderer) :
    (store.emit r spec).run.run s =
      if there then (some .skippedExisting, t)
      else
        match r.source spec with
        | .error (.fault e) => (some (.failed e), t)
        | .error .abort => (none, t)
        | .ok text =>
          let out := (store.write spec.name text).run t
          (some (.ofWrite spec.name out.1), out.2) := by
  have hasked : (liftM (store.holds spec.name) : OptionT (StateM σ) Bool).run.run s =
      (some there, t) := by
    rw [run_lift, h]
  refine (run_bind_of_some hasked).trans ?_
  cases there with
  | true => rfl
  | false =>
    simp only [Bool.false_eq_true, if_false]
    rcases r.source spec with (e | _) | text <;> rfl

/-- First one artifact is emitted, then the others. -/
theorem run_emitAll_cons {e : Emission} {rest : List (Spec × Emission)}
    (h : (store.emit r spec).run.run s = (some e, t))
    (h' : (store.emitAll r specs).run.run t = (some rest, u)) :
    (store.emitAll r (spec :: specs)).run.run s = (some ((spec, e) :: rest), u) :=
  (run_bind_of_some h).trans (run_bind_of_some h')

/-- Where artifacts were emitted, the first one was, and then the others. -/
theorem of_run_emitAll_cons {results : List (Spec × Emission)}
    (h : (store.emitAll r (spec :: specs)).run.run s = (some results, u)) :
    ∃ e rest t, (store.emit r spec).run.run s = (some e, t) ∧
      (store.emitAll r specs).run.run t = (some rest, u) ∧ results = (spec, e) :: rest := by
  obtain ⟨e, t, hfirst, h⟩ := run_bind_eq_some_iff.mp h
  obtain ⟨rest, u', hrest, h⟩ := run_bind_eq_some_iff.mp h
  obtain ⟨rfl, rfl⟩ := run_pure_eq_some_iff.mp h
  exact ⟨e, rest, t, hfirst, hrest, rfl⟩

/-- Every artifact is emitted, whatever came of the ones before it. -/
theorem map_fst_of_run_emitAll {results : List (Spec × Emission)}
    (h : (store.emitAll r specs).run.run s = (some results, t)) : results.map Prod.fst = specs := by
  induction specs generalizing s results with
  | nil =>
    cases h
    rfl
  | cons spec specs ih =>
    obtain ⟨e, rest, u, -, hrest, rfl⟩ := of_run_emitAll_cons h
    exact congrArg (spec :: ·) (ih hrest)

/-! ## Aborts -/

/-- Emitting artifacts aborts over one of them: those before it are emitted, and then it is not there
and cannot be printed. -/
def Aborts (store : Store (StateM σ)) (r : Renderer) (specs : List Spec) (s t : σ) : Prop :=
  ∃ (before : List (Spec × Emission)) (x : Spec) (after : List Spec) (u : σ),
    specs = before.map Prod.fst ++ x :: after ∧
    (store.emitAll r (before.map Prod.fst)).run.run s = (some before, u) ∧
    (store.holds x.name).run u = (false, t) ∧ r.source x = .error .abort

/-- The emission of an artifact aborts exactly if it is not there and cannot be printed. -/
theorem run_emit_eq_none_iff :
    (store.emit r spec).run.run s = (none, t) ↔
      (store.holds spec.name).run s = (false, t) ∧ r.source spec = .error .abort := by
  rcases h : (store.holds spec.name).run s with ⟨there, u⟩
  rw [run_emit h]
  cases there with
  | true => exact ⟨(by cases ·), fun h => by cases h.1⟩
  | false =>
    simp only [Bool.false_eq_true, if_false]
    rcases r.source spec with (e | _) | text
    · exact ⟨(by cases ·), fun h => by cases h.2⟩
    · exact ⟨fun h => by cases h; exact ⟨rfl, rfl⟩, fun h => by cases h.1; rfl⟩
    · exact ⟨(by cases ·), fun h => by cases h.2⟩

/-- Artifacts that are emitted one after the other come to no end exactly if this aborts over one of
them. -/
theorem run_emitAll_eq_none_iff :
    (store.emitAll r specs).run.run s = (none, t) ↔ store.Aborts r specs s t := by
  constructor
  · intro h
    induction specs generalizing s with
    | nil => cases h
    | cons spec specs ih =>
      rcases run_bind_eq_none_iff.mp h with h | ⟨e, u, hfirst, h⟩
      · obtain ⟨hfree, habort⟩ := run_emit_eq_none_iff.mp h
        exact ⟨[], spec, specs, s, rfl, rfl, hfree, habort⟩
      · rcases run_bind_eq_none_iff.mp h with h | ⟨_, _, -, hnever⟩
        · obtain ⟨before, x, after, v, hspecs, hbefore, hlast⟩ := ih h
          exact ⟨(spec, e) :: before, x, after, v, congrArg (spec :: ·) hspecs,
            run_emitAll_cons hfirst hbefore, hlast⟩
        · cases hnever
  · rintro ⟨before, x, after, u, rfl, hbefore, hlast⟩
    rw [store.emitAll_append]
    refine (run_bind_of_some hbefore).trans (run_bind_of_none ?_)
    exact run_bind_of_none (run_emit_eq_none_iff.mpr hlast)

end Store

/-- Every artifact of both shares was emitted. -/
structure Generator.Emissions.Complete (e : Generator.Emissions) : Prop where
  first : e.first.map Prod.fst = e.planned.first.specs
  second : e.second.map Prod.fst = e.planned.second.specs

namespace Generator

/-! ## Passes -/

variable {g : Generator} {store : Store (StateM σ)} {plan : List PlannedModel}
  {emissions emitted : List Emissions} {s t : σ}

/-- The first pass keeps the plan, and emits the first share of every model. -/
theorem of_run_emitFirstShares
    (h : (g.emitFirstShares store plan).run.run s = (some emissions, t)) :
    emissions.map Emissions.planned = plan ∧
      ∀ e ∈ emissions, e.first.map Prod.fst = e.planned.first.specs := by
  induction plan generalizing s emissions with
  | nil =>
    cases h
    exact ⟨rfl, fun _ he => absurd he List.not_mem_nil⟩
  | cons p plan ih =>
    obtain ⟨first, u, hfirst, h⟩ := run_bind_eq_some_iff.mp h
    obtain ⟨rest, v, hrest, h⟩ := run_bind_eq_some_iff.mp h
    obtain ⟨rfl, rfl⟩ := run_pure_eq_some_iff.mp h
    obtain ⟨hplanned, hshares⟩ := ih hrest
    exact ⟨congrArg (p :: ·) hplanned,
      List.forall_mem_cons.mpr ⟨Store.map_fst_of_run_emitAll hfirst, hshares⟩⟩

/-- The second pass keeps the plan, and emits the second share of every model. -/
theorem of_run_emitSecondShares
    (h : (g.emitSecondShares store emissions).run.run s = (some emitted, t))
    (hfirst : ∀ e ∈ emissions, e.first.map Prod.fst = e.planned.first.specs) :
    emitted.map Emissions.planned = emissions.map Emissions.planned ∧
      ∀ e ∈ emitted, e.Complete := by
  induction emissions generalizing s emitted with
  | nil =>
    cases h
    exact ⟨rfl, fun _ he => absurd he List.not_mem_nil⟩
  | cons e emissions ih =>
    obtain ⟨second, u, hsecond, h⟩ := run_bind_eq_some_iff.mp h
    obtain ⟨rest, v, hrest, h⟩ := run_bind_eq_some_iff.mp h
    obtain ⟨rfl, rfl⟩ := run_pure_eq_some_iff.mp h
    rw [List.forall_mem_cons] at hfirst
    obtain ⟨hplanned, hcomplete⟩ := ih hrest hfirst.2
    refine ⟨congrArg (e.planned :: ·) hplanned, List.forall_mem_cons.mpr ⟨?_, hcomplete⟩⟩
    exact ⟨hfirst.1, Store.map_fst_of_run_emitAll hsecond⟩

/-- A run keeps the plan, and emits both shares of every model to their ends. -/
theorem of_run_emitPlan (h : (g.emitPlan store plan).run.run s = (some emissions, t)) :
    emissions.map Emissions.planned = plan ∧ ∀ e ∈ emissions, e.Complete := by
  obtain ⟨first, u, hfirst, hsecond⟩ := run_bind_eq_some_iff.mp h
  obtain ⟨hplanned, hshares⟩ := of_run_emitFirstShares hfirst
  obtain ⟨hsame, hcomplete⟩ := of_run_emitSecondShares hsecond hshares
  exact ⟨hsame.trans hplanned, hcomplete⟩

/-- A plan is emitted in its order. -/
theorem run_emissionOrder (g : Generator) (store : Store (StateM σ)) (plan : List PlannedModel)
    (s : σ) :
    let out := (g.emitPlan store plan).run.run s
    (store.emitAll g.renderer (emissionOrder plan)).run.run s = (out.1.map results, out.2) := by
  rw [← map_results_emitPlan, run_map]

/-! ## Runs -/

/-- A generator that has not run has claimed no names. -/
theorem names_eq_of_idle (hidle : g.phase = .idle) : g.names = {} := by
  have hnone : g.names.names = [] := g.names_of_idle hidle
  cases hnames : g.names with
  | mk names hnodup =>
    have hempty : names = [] := by rwa [hnames] at hnone
    subst hempty
    rfl

/-- A first run on a manifest with models emits its plan and reports on it. -/
theorem run_emits_plan (hidle : g.phase = .idle) {manifest : Manifest} (hm : manifest.models ≠ [])
    (store : Store (StateM σ)) (s : σ) :
    let c := g.catalog manifest
    let out := (g.emitPlan store c.plan).run.run s
    (g.run store manifest).run.run s = (out.1.map fun emissions =>
      (.completed (reportOf emissions), runLog manifest c emissions, g.done c.claimed), out.2) := by
  intro c out
  have hne : manifest.models.isEmpty = false := by simpa using hm
  have hmap : g.run store manifest = (fun emissions =>
      (.completed (reportOf emissions), runLog manifest c emissions, g.done c.claimed)) <$>
        g.emitPlan store c.plan := by
    unfold run
    simp only [hidle, hne, Bool.false_eq_true, ↓reduceIte]
    rw [g.emitModels_eq store _ (names_eq_of_idle hidle)]
    simp only [bind_pure_comp, Functor.map_map]
    rfl
  rw [hmap, run_map]

/-- A run on a manifest without models is refused, and leaves the store alone. -/
theorem run_on_nothing (hidle : g.phase = .idle) {manifest : Manifest} (hm : manifest.models = [])
    (s : σ) :
    (g.run store manifest).run.run s =
      (some (.refused (.nothingToGenerate "the manifest declares no models"), [], g.done g.names),
        s) := by
  unfold run
  rw [hidle]
  simp only [hm, List.isEmpty_nil, ↓reduceIte]
  rfl

/-- A run aborts over one of the artifacts of its plan, and leaves the store as it is then. -/
def Aborts (g : Generator) (store : Store (StateM σ)) (manifest : Manifest) (s : σ) : Prop :=
  ∃ t, store.Aborts g.renderer (emissionOrder (g.catalog manifest).plan) s t ∧
    (g.run store manifest).run.run s = (none, t)

/-- A first run on a manifest with models emits its plan and reports on it, or it aborts. -/
theorem run_cases (hidle : g.phase = .idle) {manifest : Manifest} (hm : manifest.models ≠ [])
    (store : Store (StateM σ)) (s : σ) :
    g.Aborts store manifest s ∨ ∃ emissions t,
      (g.emitPlan store (g.catalog manifest).plan).run.run s = (some emissions, t) ∧
      (g.run store manifest).run.run s = (some (.completed (reportOf emissions),
        runLog manifest (g.catalog manifest) emissions, g.done (g.catalog manifest).claimed), t) := by
  have hrun := run_emits_plan hidle hm store s
  have horder := g.run_emissionOrder store (g.catalog manifest).plan s
  dsimp only at hrun horder
  rcases hout : (g.emitPlan store (g.catalog manifest).plan).run.run s with ⟨_ | emissions, t⟩
  · rw [hout] at hrun horder
    exact .inl ⟨t, Store.run_emitAll_eq_none_iff.mp horder, hrun⟩
  · rw [hout] at hrun
    exact .inr ⟨emissions, t, rfl, hrun⟩

/-- Where a run came to an end, the generator had not run before, and there were models. -/
theorem idle_of_completed {manifest : Manifest} {report : RunReport} {log : Log} {after : Generator}
    (h : (g.run store manifest).run.run s = (some (.completed report, log, after), t)) :
    g.phase = .idle ∧ manifest.models ≠ [] := by
  unfold run at h
  split at h
  · cases h
  · next hidle =>
    refine ⟨hidle, fun hnone => ?_⟩
    simp only [hnone, List.isEmpty_nil, ↓reduceIte] at h
    cases h

/-- A run that came to an end emitted its plan and reports on it. -/
theorem of_completed {manifest : Manifest} {report : RunReport} {log : Log} {after : Generator}
    (h : (g.run store manifest).run.run s = (some (.completed report, log, after), t)) :
    ∃ emissions, (g.emitPlan store (g.catalog manifest).plan).run.run s = (some emissions, t) ∧
      report = reportOf emissions := by
  obtain ⟨hidle, hm⟩ := idle_of_completed h
  rcases run_cases hidle hm store s with ⟨_, -, habort⟩ | ⟨emissions, t', hemitted, hrun⟩
  · cases h.symm.trans habort
  · cases h.symm.trans hrun
    exact ⟨emissions, hemitted, rfl⟩

/-! ## The report of a run -/

/-- The report, where a run came to an end. -/
def Result.report? : Result → Option RunReport
  | .completed report => some report
  | .alreadyRan | .refused _ => none

/-- The report of a run, unless there is none or the run aborts. -/
def report? (g : Generator) (store : Store (StateM σ)) (manifest : Manifest) (s : σ) :
    Option RunReport :=
  ((g.run store manifest).run.run s).1.bind fun (result, _) => result.report?

/-- There is a report where a run came to an end. -/
theorem report?_eq_some_iff {manifest : Manifest} {report : RunReport} :
    g.report? store manifest s = some report ↔
      ∃ log after t, (g.run store manifest).run.run s = (some (.completed report, log, after), t) := by
  unfold report?
  constructor
  · intro h
    rcases hrun : (g.run store manifest).run.run s with ⟨_ | ⟨result, log, after⟩, t⟩ <;>
      rw [hrun] at h
    · cases h
    · cases result <;> cases h
      exact ⟨log, after, t, rfl⟩
  · rintro ⟨log, after, t, hrun⟩
    rw [hrun]
    rfl

/-- What the report on a run says, where there is a generator and its run comes to an end. -/
theorem exists_completed {made : Except GenerationError Generator} {manifest : Manifest} {α : Type}
    {f : RunReport → α} {a : α}
    (h : made.toOption.bind (fun g => (g.report? store manifest s).map f) = some a) :
    ∃ g report log after t, made = .ok g ∧
      (g.run store manifest).run.run s = (some (.completed report, log, after), t) ∧
      f report = a := by
  cases made with
  | error e => cases h
  | ok g =>
    obtain ⟨report, hreport, hsays⟩ := Option.map_eq_some_iff.mp h
    obtain ⟨log, after, t, hrun⟩ := report?_eq_some_iff.mp hreport
    exact ⟨g, report, log, after, t, rfl, hrun, hsays⟩

end Generator

end CrudScaffold
