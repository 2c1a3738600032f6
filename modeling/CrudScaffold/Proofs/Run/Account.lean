import CrudScaffold.Proofs.Run.Emission
import Mathlib.Data.List.Perm.Basic

/-!
# The account of a run

A run over a memory is a row of emissions, and its report has one entry for each of them. So the
report accounts exactly for what the run did to the memory.
-/

namespace CrudScaffold

/-! ## What an account says -/

/-- What a report says of the row of emissions that led from one memory to another. -/
structure RunReport.Accounts (report : RunReport) (r : Renderer) (steps : List EmissionStep)
    (s t : Memory) : Prop where
  /-- The emissions follow each other, each as it happens on the memory before it. -/
  emits : Emits r s steps t
  /-- The report has one entry for each emission. -/
  entries : report.artifacts.Perm (steps.map EmissionStep.report)
  kept : ∀ n text, s.contents? n = some text → t.contents? n = some text
  /-- The new names are those of the artifacts reported as written. -/
  new_iff : ∀ n, (s.contents? n = none ∧ t.contents? n ≠ none) ↔
    ∃ x ∈ steps, x.Written ∧ x.spec.name = n
  /-- A written artifact is kept as it was rendered. -/
  rendered : ∀ x ∈ steps, x.Written → ∃ body,
    r.source x.spec = .ok (fileHeader ++ body) ∧
      t.contents? x.spec.name = some (fileHeader ++ body)
  writes : t.writes = s.writes + report.count .written
  /-- An artifact reported as skipped or failed changed nothing. -/
  unchanged : ∀ x ∈ steps, ¬ x.Written → x.after = x.before

/-- As many entries are reported as written as there are written artifacts. -/
theorem RunReport.count_written {report : RunReport} {steps : List EmissionStep}
    (h : report.artifacts.Perm (steps.map EmissionStep.report)) :
    report.count .written = steps.countP fun x => x.Written := by
  rw [count, h.countP_eq, List.countP_map]
  refine List.countP_congr fun x _ => ?_
  simp only [Function.comp_apply, beq_iff_eq, decide_eq_true_iff]
  rfl

/-- Whatever a report has one entry for each emission of, it accounts for. -/
theorem RunReport.accounts_of_emits {report : RunReport} {r : Renderer}
    {steps : List EmissionStep} {s t : Memory} (hemits : Emits r s steps t)
    (hentries : report.artifacts.Perm (steps.map EmissionStep.report)) :
    report.Accounts r steps s t where
  emits := hemits
  entries := hentries
  kept n text hn := hemits.contents?_of_before hn
  new_iff n := by
    constructor
    · rintro ⟨hfree, hnew⟩
      exact (hemits.fills_iff hfree).mp hnew
    · rintro ⟨x, hx, hw, rfl⟩
      obtain ⟨hfree, _, -, hkept⟩ := hemits.contents?_of_written hx hw
      refine ⟨hfree, ?_⟩
      rw [hkept]
      exact Option.some_ne_none _
  rendered x hx hw := by
    obtain ⟨-, text, hsource, hkept⟩ := hemits.contents?_of_written hx hw
    obtain ⟨body, rfl⟩ := Renderer.exists_body_of_source hsource
    exact ⟨body, hsource, hkept⟩
  writes := by rw [hemits.writes_eq, RunReport.count_written hentries]
  unchanged x hx hw := by
    rcases (hemits.happens_of_mem hx).cases with ⟨hwritten, -⟩ | ⟨-, hsame⟩
    · exact absurd hwritten hw
    · exact hsame

/-! ## The passes of a run -/

/-- Every artifact of a model is reported, whether or not an error stopped the model. -/
theorem ModelReport.artifacts_ofOutcome (title : String) (error : Option GenerationError)
    (artifacts : List ArtifactReport) :
    (ofOutcome title error artifacts).artifacts = artifacts := by
  cases error <;> rfl

namespace Generator

variable (g : Generator)

/-- The reported artifacts are those of both passes. -/
theorem artifacts_reportOf_perm (emissions : List Emissions) :
    (reportOf emissions).artifacts.Perm
      ((results emissions).map fun (s, e) => e.report s) := by
  have hartifacts : (reportOf emissions).artifacts =
      (emissions.flatMap fun e => e.first ++ e.second).map fun (s, e) => e.report s := by
    rw [RunReport.artifacts, reportOf, List.flatMap_map, List.map_flatMap]
    exact List.flatMap_congr fun e _ => ModelReport.artifacts_ofOutcome _ _ _
  rw [hartifacts]
  exact (List.flatMap_append_perm emissions _ _).symm.map _

/-- A plan is emitted in its order, and the report has one entry for each emission. -/
theorem exists_emits_of_run_emitPlan {plan : List PlannedModel} {emissions : List Emissions}
    {s t : Memory} (h : (g.emitPlan Memory.store plan).run.run s = (some emissions, t)) :
    ∃ xs, Emits g.renderer s xs t ∧ xs.map EmissionStep.spec = emissionOrder plan ∧
      (reportOf emissions).artifacts.Perm (xs.map EmissionStep.report) := by
  have horder := g.run_emissionOrder Memory.store plan s
  simp only [h, Option.map_some] at horder
  obtain ⟨xs, hxs, hspecs, hresults⟩ := Memory.emitsAll_emitAll horder
  have hperm := artifacts_reportOf_perm emissions
  rw [← hresults, List.map_map] at hperm
  exact ⟨xs, hxs, hspecs, hperm⟩

/-- A generator that was just made has not run. -/
theorem phase_of_ofConfig {c : Config} (h : ofConfig c = .ok g) : g.phase = .idle := by
  unfold ofConfig at h
  obtain ⟨-, -, h⟩ := bind_eq_ok_iff.mp h
  obtain ⟨renderer, -, h⟩ := bind_eq_ok_iff.mp h
  rw [← Except.ok.inj h]

variable {g}

/-- A first run emits the artifacts of its plan in their order and accounts for them: nothing that
was there is touched, what is new is what is reported as written, and every write counts once. Only a
run that aborts gives no account. -/
theorem run_accounts_for_memory {c : Config} (hg : ofConfig c = .ok g) {manifest : Manifest}
    (hm : manifest.models ≠ []) (s : Memory) :
    g.Aborts Memory.store manifest s ∨ ∃ report log after steps t,
      (g.run Memory.store manifest).run.run s = (some (.completed report, log, after), t) ∧
      steps.map EmissionStep.spec = emissionOrder (g.catalog manifest).plan ∧
      report.Accounts g.renderer steps s t := by
  refine (run_cases (phase_of_ofConfig g hg) hm Memory.store s).imp_right ?_
  rintro ⟨emissions, t, hemitted, hrun⟩
  obtain ⟨steps, hemits, hspecs, hentries⟩ := g.exists_emits_of_run_emitPlan hemitted
  exact ⟨_, _, _, steps, t, hrun, hspecs, RunReport.accounts_of_emits hemits hentries⟩

private def keptConfig : Config := { outputRoot := ⟨"out"⟩ }

private def declaredEntity (name : String) : Manifest.Model where
  name
  space := "shop::model"
  scrudBean := false
  identifier := some { type := some "u64" }

private def keptManifest : Manifest :=
  { models := [declaredEntity "Order", declaredEntity "Product"] }

private def keptName : QualifiedName := ⟨⟨"shop::model"⟩, "OrderPredicates"⟩

private def keptMemory : Memory := { artifacts := [(keptName, "// by hand")] }

/-- The predicates of orders are there and stay as they are; only those of products are written. -/
theorem hand_written_predicates_are_kept :
    ∃ g, ofConfig keptConfig = .ok g ∧ ∃ report log after steps t,
      (g.run Memory.store keptManifest).run.run keptMemory =
        (some (.completed report, log, after), t) ∧
      report.Accounts g.renderer steps keptMemory t ∧
      t.contents? keptName = some "// by hand" ∧ report.count .written = 1 := by
  have hone : (ofConfig keptConfig).toOption.bind (fun g =>
      (g.report? Memory.store keptManifest keptMemory).map (·.count .written)) = some 1 := by
    decide +kernel
  obtain ⟨g, report, log, after, t, hg, hrun, hwritten⟩ := exists_completed hone
  have hmodels : keptManifest.models ≠ [] := List.cons_ne_nil _ _
  rcases run_accounts_for_memory hg hmodels keptMemory with
    ⟨_, -, habort⟩ | ⟨report', log', after', steps, t', hrun', -, haccounts⟩
  · cases hrun.symm.trans habort
  · cases hrun.symm.trans hrun'
    exact ⟨g, hg, report, log, after, steps, t, hrun, haccounts,
      haccounts.kept keptName _ (by decide), hwritten⟩

end Generator

end CrudScaffold
