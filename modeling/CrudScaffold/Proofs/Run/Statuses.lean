import CrudScaffold.CommandLine.Basic
import CrudScaffold.FileTree
import CrudScaffold.Proofs.Run.Reports

/-!
# What the status of a model means

A model fails exactly where a stage of the run goes wrong for it or one of its artifacts fails. It has
nothing to generate exactly if it was resolved and is neither an entity nor a scaffold bean, and what
is left is decided by its artifacts. The exit code of the program tells whether anything failed. All of
this is told only if no artifact aborts the run.
-/

namespace CrudScaffold

namespace ModelReport

variable {artifacts : List ArtifactReport}

/-! ## Statuses that follow from artifacts -/

private theorem failures_pos_iff : 0 < failures artifacts ↔ ∃ x ∈ artifacts, x.outcome = .failed := by
  rw [failures, List.countP_pos_iff]
  simp only [beq_iff_eq]

/-- Artifacts make for a failure exactly if one of them failed. -/
theorem statusOf_eq_failed_iff :
    statusOf artifacts = .failed ↔ ∃ x ∈ artifacts, x.outcome = .failed := by
  rw [← failures_pos_iff]
  unfold statusOf
  by_cases hfailed : 0 < failures artifacts
  · simp only [hfailed, if_true]
  · simp only [hfailed, if_false, iff_false]
    split
    · nofun
    · split <;> nofun

/-- There was nothing to generate exactly if there are no artifacts. -/
theorem statusOf_eq_unqualified_iff : statusOf artifacts = .unqualified ↔ artifacts = [] := by
  constructor
  · intro h
    unfold statusOf at h
    split at h
    · cases h
    · split at h
      · next hempty => exact List.isEmpty_iff.mp hempty
      · split at h <;> cases h
  · intro h
    rw [h]
    rfl

/-- All was there already exactly if there are artifacts, and all of them were skipped. -/
theorem statusOf_eq_skippedAllExisting_iff :
    statusOf artifacts = .skippedAllExisting ↔
      artifacts ≠ [] ∧ ∀ x ∈ artifacts, x.outcome = .skippedExisting := by
  constructor
  · intro h
    unfold statusOf at h
    split at h
    · cases h
    · split at h
      · cases h
      · next hsome =>
        split at h
        · next hall =>
          rw [List.isEmpty_iff] at hsome
          exact ⟨hsome, fun x hx => by simpa using List.all_eq_true.mp hall x hx⟩
        · cases h
  · rintro ⟨hsome, hall⟩
    have hfailed : ¬ 0 < failures artifacts := by
      rw [failures_pos_iff]
      rintro ⟨x, hx, hfailed⟩
      rw [hall x hx] at hfailed
      cases hfailed
    have hempty : ¬ artifacts.isEmpty = true := by rwa [List.isEmpty_iff]
    have hskipped : artifacts.all (fun x => x.outcome == .skippedExisting) = true :=
      List.all_eq_true.mpr fun x hx => by simpa using hall x hx
    rw [statusOf, if_neg hfailed, if_neg hempty, if_pos hskipped]

/-- Something was generated exactly if nothing failed and an artifact was written. -/
theorem statusOf_eq_generated_iff :
    statusOf artifacts = .generated ↔
      statusOf artifacts ≠ .failed ∧ ∃ x ∈ artifacts, x.outcome = .written := by
  constructor
  · intro h
    have hfailed : statusOf artifacts ≠ .failed := by
      rw [h]
      nofun
    refine ⟨hfailed, ?_⟩
    -- Otherwise nothing but skipped artifacts would be left.
    by_contra hwritten
    have hskipped : ∀ x ∈ artifacts, x.outcome = .skippedExisting := by
      intro x hx
      cases houtcome : x.outcome with
      | written => exact absurd ⟨x, hx, houtcome⟩ hwritten
      | skippedExisting => rfl
      | failed => exact absurd (statusOf_eq_failed_iff.mpr ⟨x, hx, houtcome⟩) hfailed
    by_cases hempty : artifacts = []
    · rw [statusOf_eq_unqualified_iff.mpr hempty] at h
      cases h
    · rw [statusOf_eq_skippedAllExisting_iff.mpr ⟨hempty, hskipped⟩] at h
      cases h
  · rintro ⟨hfailed, x, hx, hwritten⟩
    cases hstatus : statusOf artifacts with
    | generated => rfl
    | failed => exact absurd hstatus hfailed
    | unqualified =>
      rw [statusOf_eq_unqualified_iff.mp hstatus] at hx
      cases hx
    | skippedAllExisting =>
      rw [(statusOf_eq_skippedAllExisting_iff.mp hstatus).2 x hx] at hwritten
      cases hwritten

end ModelReport

/-! ## What stops a model -/

/-- Whatever a model has besides its predicate factory, it always has a repository. -/
theorem Assembly.pipeline_ne_nil {a : Assembly} {due : List Spec} (h : a.pipeline = .ok due) :
    due ≠ [] := by
  obtain ⟨repository, -, h⟩ := bind_eq_ok_iff.mp h
  cases h
  simp

namespace Catalog

variable {c : Catalog} {e : Entry} {claimed : List QualifiedName} {p : PlannedModel}

/-- A stage of a run goes wrong for a declared model: it cannot be resolved, its artifacts cannot be
put together, or the name of the first artifact that it does not emit is taken. -/
inductive Stopped (c : Catalog) (e : Entry) (claimed : List QualifiedName) (p : PlannedModel) :
    Prop where
  | resolving (fault : GenerationError) (result_eq : e.result = .error fault)
  | building (a : Assembly) (fault : GenerationError) (assembly_eq : c.assembly? e = some a)
    (scrudBean : a.model.traits.scrudBean = true) (pipeline_eq : a.pipeline = .error fault)
  | claiming (s : Spec) (rest : List Spec) (due_eq : c.due e = p.specs ++ s :: rest)
    (taken : s.name ∈ claimed)

/-- A declared model has an assembly exactly if it was resolved. -/
theorem assembly?_of_ok {model : Model} (h : e.result = .ok model) :
    c.assembly? e = some ⟨model, c.graph, c.resolver.naming⟩ := by
  rw [assembly?, h]
  rfl

/-- A fault of a model alone is one of the first two stages. -/
theorem stopped_of_fault? {fault : GenerationError} (h : c.fault? e = some fault) :
    c.Stopped e claimed p := by
  cases hresult : e.result with
  | error cause => exact .resolving cause hresult
  | ok model =>
    have hassembly := assembly?_of_ok (c := c) hresult
    rw [fault?_of_assembly hassembly] at h
    unfold Assembly.fault? at h
    split at h
    · next hbean =>
      split at h
      · cases h
      · next cause hpipeline => exact .building _ cause hassembly hbean hpipeline
    · cases h

/-- An error stops a model exactly where a stage goes wrong. -/
theorem Fares.error_ne_none_iff (h : c.Fares e claimed p) :
    p.error ≠ none ↔ c.Stopped e claimed p := by
  constructor
  · intro herror
    cases h with
    | whole _ hsame =>
      obtain ⟨fault, hfault⟩ := Option.ne_none_iff_exists'.mp herror
      exact stopped_of_fault? (hsame ▸ hfault)
    | cut s rest hdue _ htaken => exact .claiming s rest hdue htaken
  · intro hstopped
    cases h with
    | cut s _ _ herror _ =>
      rw [herror]
      exact Option.some_ne_none _
    | whole hspecs hsame =>
      rw [hsame]
      cases hstopped with
      | resolving fault hresult =>
        rw [fault?, hresult]
        exact Option.some_ne_none _
      | building a fault hassembly hbean hpipeline =>
        rw [fault?_of_assembly hassembly, Assembly.fault?, if_pos hbean, hpipeline]
        exact Option.some_ne_none _
      | claiming s rest hdue _ =>
        rw [hspecs] at hdue
        have hlength := congrArg List.length hdue
        rw [List.length_append, List.length_cons] at hlength
        omega

/-- Nothing is due for a sound model exactly if it is neither an entity nor a scaffold bean. -/
theorem due_eq_nil_iff (h : c.fault? e = none) :
    c.due e = [] ↔ ∃ model, e.result = .ok model ∧
      model.traits.entity = false ∧ model.traits.scrudBean = false := by
  cases hresult : e.result with
  | error fault =>
    rw [fault?, hresult] at h
    cases h
  | ok model =>
    have hassembly := assembly?_of_ok (c := c) hresult
    rw [fault?_of_assembly hassembly, Assembly.fault?] at h
    rw [due_of_assembly hassembly, Assembly.due, List.append_eq_nil_iff]
    simp only [Except.ok.injEq, exists_eq_left']
    refine and_congr ?_ ?_
    · unfold Assembly.predicatesDue
      cases model.traits.entity <;> simp
    · unfold Assembly.pipelineDue
      cases hbean : model.traits.scrudBean with
      | false => simp
      | true =>
        cases hpipeline : Assembly.pipeline ⟨model, c.graph, c.resolver.naming⟩ with
        | error fault =>
          simp only [hbean, if_true, hpipeline] at h
          cases h
        | ok due => simpa using Assembly.pipeline_ne_nil hpipeline

end Catalog

/-! ## Statuses of a run -/

/-- What the status in a report on a declared model says, whose part of the plan is `p`, when the
names `claimed` are those claimed by the time it is through. -/
structure ModelReport.Means (r : ModelReport) (c : Catalog) (e : Catalog.Entry) (p : PlannedModel)
    (claimed : List QualifiedName) : Prop where
  errorKind_iff : r.errorKind ≠ none ↔ c.Stopped e claimed p
  failed_iff : r.status = .failed ↔
    c.Stopped e claimed p ∨ ∃ x ∈ r.artifacts, x.outcome = .failed
  unqualified_iff : r.status = .unqualified ↔ ∃ model, e.result = .ok model ∧
    model.traits.entity = false ∧ model.traits.scrudBean = false
  skippedAllExisting_iff : r.status = .skippedAllExisting ↔
    r.status ≠ .failed ∧ r.artifacts ≠ [] ∧ ∀ x ∈ r.artifacts, x.outcome = .skippedExisting
  generated_iff : r.status = .generated ↔
    r.status ≠ .failed ∧ ∃ x ∈ r.artifacts, x.outcome = .written

namespace ModelReport

variable {r : ModelReport} {c : Catalog} {e : Catalog.Entry} {p : PlannedModel}
  {claimed : List QualifiedName}

/-- A report on a stopped model means what it says. -/
theorem means_of_stopped (hkind : r.errorKind ≠ none) (hfailed : r.status = .failed)
    (hstopped : c.Stopped e claimed p) : r.Means c e p claimed where
  errorKind_iff := ⟨fun _ => hstopped, fun _ => hkind⟩
  failed_iff := ⟨fun _ => .inl hstopped, fun _ => hfailed⟩
  unqualified_iff := by
    rw [hfailed]
    refine ⟨(by cases ·), ?_⟩
    -- No stage goes wrong for a model that has nothing to generate.
    rintro ⟨model, hresult, hentity, hbean⟩
    exfalso
    have hassembly := Catalog.assembly?_of_ok (c := c) hresult
    cases hstopped with
    | resolving fault herror =>
      rw [hresult] at herror
      cases herror
    | building a fault ha htrue _ =>
      obtain rfl := Option.some.inj (hassembly.symm.trans ha)
      rw [hbean] at htrue
      cases htrue
    | claiming s rest hdue _ =>
      have hfault : c.fault? e = none := by
        rw [Catalog.fault?_of_assembly hassembly, Assembly.fault?, hbean]
        rfl
      rw [(Catalog.due_eq_nil_iff hfault).mpr ⟨model, hresult, hentity, hbean⟩] at hdue
      simp at hdue
  skippedAllExisting_iff := by
    rw [hfailed]
    exact ⟨(by cases ·), fun h => absurd rfl h.1⟩
  generated_iff := by
    rw [hfailed]
    exact ⟨(by cases ·), fun h => absurd rfl h.1⟩

/-- A report on a model that nothing stopped means what it says. -/
theorem means_of_settled (hkind : r.errorKind = none) (hstatus : r.status = statusOf r.artifacts)
    (hstopped : ¬ c.Stopped e claimed p) (hartifacts : r.artifacts = [] ↔ c.due e = [])
    (hfault : c.fault? e = none) : r.Means c e p claimed where
  errorKind_iff := by
    rw [hkind]
    exact ⟨fun h => absurd rfl h, fun h => absurd h hstopped⟩
  failed_iff := by
    rw [hstatus, statusOf_eq_failed_iff]
    exact ⟨.inr, fun h => h.resolve_left hstopped⟩
  unqualified_iff := by
    rw [hstatus, statusOf_eq_unqualified_iff, hartifacts, Catalog.due_eq_nil_iff hfault]
  skippedAllExisting_iff := by
    rw [hstatus]
    constructor
    · intro h
      have hfailed : statusOf r.artifacts ≠ .failed := by
        rw [h]
        nofun
      exact ⟨hfailed, statusOf_eq_skippedAllExisting_iff.mp h⟩
    · rintro ⟨-, h⟩
      exact statusOf_eq_skippedAllExisting_iff.mpr h
  generated_iff := by
    rw [hstatus]
    exact statusOf_eq_generated_iff

/-- A report that tells of a model means what it says, if the model fares by the law. -/
theorem Tells.means (h : r.Tells p) (hfares : c.Fares e claimed p) : r.Means c e p claimed := by
  cases herror : p.error with
  | some fault =>
    have hkind : r.errorKind ≠ none := by
      rw [h.errorKind, herror]
      exact Option.some_ne_none _
    refine means_of_stopped hkind (h.failed herror).1 (hfares.error_ne_none_iff.mp ?_)
    rw [herror]
    exact Option.some_ne_none fault
  | none =>
    have hkind : r.errorKind = none := by
      rw [h.errorKind, herror]
      rfl
    have hstopped : ¬ c.Stopped e claimed p := fun hstopped =>
      hfares.error_ne_none_iff.mpr hstopped herror
    obtain ⟨hspecs, hfault⟩ : p.specs = c.due e ∧ c.fault? e = none := by
      cases hfares with
      | whole hspecs hsame => exact ⟨hspecs, hsame ▸ herror⟩
      | cut s _ _ hcut _ =>
        rw [hcut] at herror
        cases herror
    refine means_of_settled hkind (h.settled herror) hstopped ?_ hfault
    rw [← hspecs, ← List.map_eq_nil_iff, h.artifacts, List.map_eq_nil_iff]

end ModelReport

/-- A plan has its models in the order of their declaration. -/
theorem Catalog.map_title_plan (c : Catalog) :
    c.plan.map PlannedModel.title = c.entries.map fun e => e.declared.qualifiedName := by
  have hfirst : c.halfway.1.map PlannedModel.title = c.fresh.map PlannedModel.title :=
    PlannedModel.map_passAll fun _ _ => PlannedModel.title_passFirst
  have hsecond : c.plan.map PlannedModel.title = c.halfway.1.map PlannedModel.title :=
    PlannedModel.map_passAll fun _ _ => PlannedModel.title_passSecond
  rw [hsecond, hfirst, fresh, List.map_map]
  refine List.map_congr_left fun e _ => ?_
  simp only [Function.comp_apply, PlannedModel.ofEntry]
  split <;> rfl

namespace Generator

open PlannedModel

variable {σ : Type} {g : Generator} {manifest : Manifest}

/-- A first run on models reports on each of them in the order of their declaration, and every status
means what it says, unless the run aborts. -/
theorem run_settles_models (hidle : g.phase = .idle) (hm : manifest.models ≠ [])
    (store : Store (StateM σ)) (s : σ) :
    let c := g.catalog manifest
    g.Aborts store manifest s ∨ ∃ report log after t,
      (g.run store manifest).run.run s = (some (.completed report, log, after), t) ∧
      report.models.map ModelReport.model =
        manifest.models.map Manifest.Model.qualifiedName ∧
      ∀ (i : Nat) (e : Catalog.Entry), c.entries[i]? = some e →
        manifest.models[i]? = some e.declared ∧
        ∃ p r, c.plan[i]? = some p ∧ report.models[i]? = some r ∧
          r.Means c e p (claimedUntil c.plan i p) := by
  intro c
  have hdeclared : c.entries.map Catalog.Entry.declared = manifest.models := by
    rw [← List.map_id manifest.models]
    exact List.map_map
  refine (run_cases hidle hm store s).imp_right ?_
  rintro ⟨emitted, t, hemitted, hrun⟩
  refine ⟨_, _, _, t, hrun, ?_, fun i e he => ⟨?_, ?_⟩⟩
  · obtain ⟨hplan, hcomplete⟩ := of_run_emitPlan hemitted
    have hplanned := congrArg (List.map title) hplan
    rw [c.map_title_plan, List.map_map] at hplanned
    rw [← hdeclared, List.map_map, reportOf, List.map_map]
    refine Eq.trans (List.map_congr_left fun emissions hemissions => ?_) hplanned
    exact (hcomplete emissions hemissions).tells.model
  · rw [← hdeclared, List.getElem?_map, he]
    rfl
  · obtain ⟨p, hp, -, hfares⟩ := c.exists_planned he
    obtain ⟨r, hr, htells⟩ := exists_tells hemitted hp
    exact ⟨p, r, hp, hr, htells.means hfares⟩

end Generator

/-! ## The exit code -/

namespace CommandLine

variable {σ : Type} {files : Files (StateM σ)} {arguments : List String} {a : Arguments}
  {manifest : Manifest} {g : Generator} {s s₁ : σ}

/-- The exit code of a report tells of a failure exactly if a model failed. -/
theorem exitCode_ofReport (log : Log) (report : RunReport) :
    (Response.ofReport log report).exitCode =
      if ∃ r ∈ report.models, r.status = .failed then failure else success := by
  unfold Response.ofReport RunReport.hasFailures ModelReport.isFailed
  simp only [List.any_eq_true, beq_iff_eq]

/-- A report that need not be written, or is, decides the response. -/
theorem run_finish {log : Log} {report : RunReport} {t : σ}
    (h : ∀ path, a.report = some path →
      ∃ t', (files.write path report.toText).run t = (.ok (), t')) :
    ((finish files a log report).run t).1 = .ofReport log report := by
  unfold finish
  cases hreport : a.report with
  | none => rfl
  | some path =>
    obtain ⟨t', hwritten⟩ := h path hreport
    rw [StateT.run_bind, hwritten]
    rfl

/-- Where manifest and configuration can be read, the run decides the response. -/
theorem run_generate (hread : (files.readManifest a.manifest).run s = (.ok manifest, s₁))
    (hgenerator : generatorOf a manifest = .ok g) :
    ((generate files a).run s).1 =
      match (g.run ((ArtifactRoots.mk a.output a.sourceRoots).store files) manifest).run.run s₁ with
      | (none, _) => { exitCode := aborted }
      | (some (.refused e, log, _), _) => .ofError log e
      | (some (.alreadyRan, log, _), t) => ((finish files a log {}).run t).1
      | (some (.completed report, log, _), t) => ((finish files a log report).run t).1 := by
  unfold generate
  rw [StateT.run_bind, hread]
  dsimp only [bind]
  rw [hgenerator]
  dsimp only [StateT.run, StateT.bind, OptionT.run]
  generalize g.run ((ArtifactRoots.mk a.output a.sourceRoots).store files) manifest s₁ = out
  obtain ⟨_ | ⟨result, log, after⟩, t⟩ := out
  · rfl
  · cases result <;> rfl

/-- The generator of a command line has not run. -/
theorem phase_of_generatorOf (h : generatorOf a manifest = .ok g) : g.phase = .idle := by
  obtain ⟨config, -, hg⟩ := bind_eq_ok_iff.mp h
  exact g.phase_of_ofConfig hg

/-- Where manifest and configuration can be read and the report can be written, the exit code tells of
a failure exactly if the run is refused or a model failed, and of an abort exactly if the run aborts. -/
theorem exitCode_invoke (hrequest : request? arguments = some (.run a))
    (hread : (files.readManifest a.manifest).run s = (.ok manifest, s₁))
    (hgenerator : generatorOf a manifest = .ok g) :
    let out := (g.run ((ArtifactRoots.mk a.output a.sourceRoots).store files) manifest).run.run s₁
    (∀ report log after t path, out = (some (.completed report, log, after), t) →
      a.report = some path → ∃ t', (files.write path report.toText).run t = (.ok (), t')) →
    let code := ((invoke files arguments).run s).1.exitCode
    (code = failure ↔ (∃ fault log after t, out = (some (.refused fault, log, after), t)) ∨
      ∃ report log after t, out = (some (.completed report, log, after), t) ∧
        ∃ r ∈ report.models, r.status = .failed) ∧
    (code = aborted ↔ ∃ t, out = (none, t)) ∧
    (code = success ∨ code = failure ∨ code = aborted) := by
  intro out hwritten code
  have hcode : code = ((generate files a).run s).1.exitCode := by
    simp only [code, invoke, hrequest]
  rw [run_generate hread hgenerator] at hcode
  have hidle := phase_of_generatorOf hgenerator
  by_cases hm : manifest.models = []
  · have hout : out = _ := Generator.run_on_nothing hidle hm s₁
    rw [Generator.run_on_nothing hidle hm s₁] at hcode
    rw [hout, show code = failure from hcode]
    exact ⟨iff_of_true rfl (.inl ⟨_, _, _, _, rfl⟩), iff_of_false (by decide) nofun, .inr (.inl rfl)⟩
  · rcases Generator.run_cases hidle hm ((ArtifactRoots.mk a.output a.sourceRoots).store files) s₁
      with ⟨t, -, hrun⟩ | ⟨emissions, t, -, hrun⟩
    · have hout : out = _ := hrun
      rw [hrun] at hcode
      rw [hout, show code = aborted from hcode]
      refine ⟨iff_of_false (by decide) ?_, iff_of_true rfl ⟨t, rfl⟩, .inr (.inr rfl)⟩
      rintro (⟨_, _, _, _, h⟩ | ⟨_, _, _, _, h, -⟩) <;> cases h
    · have hout : out = _ := hrun
      rw [hrun] at hcode
      dsimp only at hcode
      rw [run_finish fun path => hwritten _ _ _ t path hout, exitCode_ofReport] at hcode
      rw [hout]
      by_cases hfailed : ∃ r ∈ (Generator.reportOf emissions).models, r.status = .failed
      · rw [hcode, if_pos hfailed]
        exact ⟨iff_of_true rfl (.inr ⟨_, _, _, _, rfl, hfailed⟩), iff_of_false (by decide) nofun,
          .inr (.inl rfl)⟩
      · rw [hcode, if_neg hfailed]
        refine ⟨iff_of_false (by decide) ?_, iff_of_false (by decide) nofun, .inl rfl⟩
        rintro (⟨_, _, _, _, h⟩ | ⟨_, _, _, _, h, hsome⟩)
        · cases h
        · cases h
          exact hfailed hsome

/-- A first run on any store is refused only for want of models. Otherwise, unless the run aborts, its
report has one entry for each declared model in their order, and every status means what it says. Where
manifest and configuration can be read and the report can be written, the exit code tells of a failure
exactly if the run is refused or a model failed, and of an abort exactly if the run aborts. -/
theorem statuses_mean_what_they_say (hidle : g.phase = .idle) (manifest : Manifest) :
    let c := g.catalog manifest
    (∀ (store : Store (StateM σ)) (s : σ),
      (manifest.models = [] → ∃ message after, (g.run store manifest).run.run s =
        (some (.refused (.nothingToGenerate message), [], after), s)) ∧
      (manifest.models ≠ [] → g.Aborts store manifest s ∨ ∃ report log after t,
        (g.run store manifest).run.run s = (some (.completed report, log, after), t) ∧
        report.models.map ModelReport.model =
          manifest.models.map Manifest.Model.qualifiedName ∧
        ∀ (i : Nat) (e : Catalog.Entry), c.entries[i]? = some e →
          manifest.models[i]? = some e.declared ∧
          ∃ p r, c.plan[i]? = some p ∧ report.models[i]? = some r ∧
            r.Means c e p (PlannedModel.claimedUntil c.plan i p))) ∧
    ∀ (files : Files (StateM σ)) (arguments : List String) (a : Arguments) (s s₁ : σ),
      request? arguments = some (.run a) →
      (files.readManifest a.manifest).run s = (.ok manifest, s₁) →
      generatorOf a manifest = .ok g →
      let out := (g.run ((ArtifactRoots.mk a.output a.sourceRoots).store files) manifest).run.run s₁
      (∀ report log after t path, out = (some (.completed report, log, after), t) →
        a.report = some path → ∃ t', (files.write path report.toText).run t = (.ok (), t')) →
      let code := ((invoke files arguments).run s).1.exitCode
      (code = failure ↔ (∃ fault log after t, out = (some (.refused fault, log, after), t)) ∨
        ∃ report log after t, out = (some (.completed report, log, after), t) ∧
          ∃ r ∈ report.models, r.status = .failed) ∧
      (code = aborted ↔ ∃ t, out = (none, t)) ∧
      (code = success ∨ code = failure ∨ code = aborted) := by
  intro c
  refine ⟨fun store s => ⟨fun hm => ?_, fun hm => ?_⟩, ?_⟩
  · exact ⟨_, _, Generator.run_on_nothing hidle hm s⟩
  · exact Generator.run_settles_models hidle hm store s
  · intro files arguments a s s₁ hrequest hread hgenerator
    exact exitCode_invoke hrequest hread hgenerator

/-! ### Orders and a draft -/

private def homeWith (text : String) : FileTree where
  entries := [([], .directory), (["home"], .directory), (["home", "models.toml"], .file text)]
  home := ["home"]

private def plainArguments : Arguments := { manifest := ⟨"models.toml"⟩ }

private def generatedStore : Store (StateM FileTree) :=
  (ArtifactRoots.mk plainArguments.output plainArguments.sourceRoots).store FileTree.access

private def shopTree : FileTree := homeWith
  "[[model]]
name='Order'
namespace='shop'
scrud_bean=false
identifier.type='u64'
[[model]]
name='Draft'
namespace='shop'
"

-- Orders are entities with nothing else to generate, drafts have no identifier.
private def shopManifest : Manifest where
  models :=
    [{ name := "Order", space := "shop", scrudBean := false,
       identifier := some { type := some "u64" } },
     { name := "Draft", space := "shop" }]

/-- Orders are generated, drafts cannot be resolved, and so the program tells of a failure. -/
theorem drafts_fail_the_program :
    ∃ g, generatorOf plainArguments shopManifest = .ok g ∧ g.phase = .idle ∧
      let c := g.catalog shopManifest
      ∃ report log after t,
        (g.run generatedStore shopManifest).run.run shopTree = (some (.completed report, log, after), t) ∧
        report.models.map ModelReport.model = ["shop::Order", "shop::Draft"] ∧
        report.models.map (fun r => (r.status, r.errorKind)) =
          [(.generated, none), (.failed, some .unresolvableModel)] ∧
        (∃ e p, c.entries[1]? = some e ∧ c.plan[1]? = some p ∧
          c.Stopped e (PlannedModel.claimedUntil c.plan 1 p) p) ∧
        ((invoke FileTree.access ["models.toml"]).run shopTree).1.exitCode = failure := by
  have hverdicts : (generatorOf plainArguments shopManifest).toOption.bind (fun g =>
      (g.report? generatedStore shopManifest shopTree).map
        (·.models.map fun r => (r.status, r.errorKind))) =
        some [(.generated, none), (.failed, some .unresolvableModel)] := by
    decide +kernel
  have hmanifest : ((FileTree.access.readManifest ⟨"models.toml"⟩).run shopTree).1 =
      .ok shopManifest := by
    decide +kernel
  have hread : (FileTree.access.readManifest ⟨"models.toml"⟩).run shopTree =
      (.ok shopManifest, shopTree) := Prod.ext hmanifest rfl
  have hrequest : request? ["models.toml"] = some (.run plainArguments) := by decide
  obtain ⟨g, report, log, after, t, hg, hrun, hverdicts⟩ := Generator.exists_completed hverdicts
  have hidle := phase_of_generatorOf hg
  have hmodels : shopManifest.models ≠ [] := List.cons_ne_nil _ _
  obtain ⟨hruns, hcodes⟩ := @statuses_mean_what_they_say FileTree g hidle shopManifest
  rcases (hruns generatedStore shopTree).2 hmodels with
    ⟨_, -, habort⟩ | ⟨_, _, _, _, hrun', hnames, hmeans⟩
  · cases hrun.symm.trans habort
  · cases hrun.symm.trans hrun'
    obtain ⟨e, he⟩ : ∃ e, (g.catalog shopManifest).entries[1]? = some e := ⟨_, rfl⟩
    obtain ⟨-, p, r, hp, hr, hmeaning⟩ := hmeans 1 e he
    have hverdict : (r.status, r.errorKind) = (.failed, some .unresolvableModel) := by
      have hsecond := congrArg (·[1]?) hverdicts
      simp only [List.getElem?_map, hr, Option.map_some] at hsecond
      exact Option.some.inj hsecond
    obtain ⟨hfailed, hkind⟩ := Prod.mk.inj hverdict
    refine ⟨g, hg, hidle, report, log, after, t, hrun, hnames, hverdicts, ⟨e, p, he, hp, ?_⟩, ?_⟩
    · rw [← hmeaning.errorKind_iff, hkind]
      exact Option.some_ne_none _
    · have hcode := hcodes FileTree.access ["models.toml"] plainArguments shopTree shopTree hrequest
        hread hg fun _ _ _ _ _ _ hpath => (Option.some_ne_none _ hpath.symm).elim
      exact hcode.1.mpr (.inr ⟨report, log, after, t, hrun, r, List.mem_of_getElem? hr, hfailed⟩)

/-! ### A field that cannot be printed -/

private def parcelTree : FileTree := homeWith
  "[[model]]
name='Parcel'
namespace='shop'
identifier.type='u64'
[[model.field]]
name='hook'
type='fn(mut self)'
"

private def parcelManifest : Manifest where
  models :=
    [{ name := "Parcel", space := "shop", identifier := some { type := some "u64" },
       fields := [{ name := "hook", type := "fn(mut self)" }] }]

/-- The type of the hook is read, but not understood: the run on its model comes to no result, and the
program ends as one that aborts. -/
theorem hook_aborts_the_program :
    ∃ g, generatorOf plainArguments parcelManifest = .ok g ∧ g.phase = .idle ∧
      parcelManifest.models ≠ [] ∧
      (¬ ∃ result log after t, (g.run generatedStore parcelManifest).run.run parcelTree =
        (some (result, log, after), t)) ∧
      request? ["models.toml"] = some (.run plainArguments) ∧
      (∃ t, (FileTree.access.readManifest ⟨"models.toml"⟩).run parcelTree =
        (.ok parcelManifest, t)) ∧
      ((invoke FileTree.access ["models.toml"]).run parcelTree).1.exitCode = aborted := by
  have hruns : (generatorOf plainArguments parcelManifest).toOption.map (fun g =>
      ((g.run generatedStore parcelManifest).run.run parcelTree).1.isNone) = some true := by
    decide +kernel
  have hmanifest : ((FileTree.access.readManifest ⟨"models.toml"⟩).run parcelTree).1 =
      .ok parcelManifest := by
    decide +kernel
  have hread : (FileTree.access.readManifest ⟨"models.toml"⟩).run parcelTree =
      (.ok parcelManifest, parcelTree) := Prod.ext hmanifest rfl
  have hrequest : request? ["models.toml"] = some (.run plainArguments) := by decide
  obtain ⟨g, hg, hnone⟩ := Option.map_eq_some_iff.mp hruns
  have hg := toOption_eq_some_iff.mp hg
  rcases hrun : (g.run generatedStore parcelManifest).run.run parcelTree with ⟨_ | result, t⟩
  · refine ⟨g, hg, phase_of_generatorOf hg, List.cons_ne_nil _ _, ?_, hrequest, ⟨_, hread⟩, ?_⟩
    · rintro ⟨_, _, _, _, h⟩
      cases hrun.symm.trans h
    · have hcode := exitCode_invoke hrequest hread hg
        fun _ _ _ _ _ _ hpath => (Option.some_ne_none _ hpath.symm).elim
      exact hcode.2.1.mpr ⟨t, hrun⟩
  · rw [hrun] at hnone
    cases hnone

end CommandLine

end CrudScaffold
