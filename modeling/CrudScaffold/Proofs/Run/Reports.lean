import CrudScaffold.Proofs.Run.Claims

/-!
# What a run reports of every model

The report on a model lists the artifacts of its shares and tells the error that stopped it. With the
law of the claims this gives what the report on any model says, on any store.
-/

namespace CrudScaffold

/-! ## Reports and plans -/

/-- What a report tells of a model of a plan. -/
structure ModelReport.Tells (r : ModelReport) (p : PlannedModel) : Prop where
  model : r.model = p.title
  artifacts : r.artifacts.map (fun a => (a.name, a.kind)) = p.specs.map fun s => (s.name.path, s.kind)
  errorKind : r.errorKind = p.error.map GenerationError.kind
  failed {fault : GenerationError} (h : p.error = some fault) :
    r.status = .failed ∧ r.reason = some fault.message
  settled (h : p.error = none) : r.status = ModelReport.statusOf r.artifacts

namespace Generator

variable {σ : Type} {g : Generator} {store : Store (StateM σ)} {plan : List PlannedModel}
  {emissions : List Emissions} {s t : σ}

/-- The report on what was emitted to its end tells of the plan. -/
theorem Emissions.Complete.tells {e : Emissions} (h : e.Complete) : e.report.Tells e.planned where
  model := by
    unfold Emissions.report ModelReport.ofOutcome
    split <;> rfl
  artifacts := by
    have hspecs : (e.first ++ e.second).map Prod.fst = e.planned.specs := by
      rw [List.map_append, h.first, h.second, PlannedModel.specs]
    rw [Emissions.report, ModelReport.artifacts_ofOutcome, ← hspecs, List.map_map, List.map_map]
    rfl
  errorKind := by
    unfold Emissions.report ModelReport.ofOutcome
    split
    · next herror => simp [herror]
    · next herror => simp [herror]
  failed := by
    intro fault herror
    simp [Emissions.report, ModelReport.ofOutcome, herror]
  settled := by
    intro herror
    simp [Emissions.report, ModelReport.ofOutcome, herror]

section

variable (h : (g.emitPlan store plan).run.run s = (some emissions, t))
include h

/-- A report has one entry for each model of the plan, which tells of it. -/
theorem exists_tells {i : Nat} {p : PlannedModel} (hp : plan[i]? = some p) :
    ∃ r, (reportOf emissions).models[i]? = some r ∧ r.Tells p := by
  obtain ⟨hplanned, hcomplete⟩ := of_run_emitPlan h
  rw [← hplanned, List.getElem?_map, Option.map_eq_some_iff] at hp
  obtain ⟨e, he, rfl⟩ := hp
  exact ⟨e.report, by simp [reportOf, he], (hcomplete e (List.mem_of_getElem? he)).tells⟩

/-- Every artifact of a plan is reported. -/
theorem exists_artifact_of_mem {x : Spec} (hx : x ∈ emissionOrder plan) :
    ∃ r ∈ (reportOf emissions).artifacts, r.name = x.name.path ∧ r.kind = x.kind := by
  obtain ⟨p, hp, hx⟩ := mem_emissionOrder_iff.mp hx
  obtain ⟨i, hi⟩ := List.mem_iff_getElem?.mp hp
  obtain ⟨m, hm, htells⟩ := exists_tells h hi
  have hlisted : (x.name.path, x.kind) ∈ m.artifacts.map fun r => (r.name, r.kind) := by
    rw [htells.artifacts]
    exact List.mem_map_of_mem hx
  obtain ⟨r, hr, hsame⟩ := List.mem_map.mp hlisted
  obtain ⟨hname, hkind⟩ := Prod.mk.inj hsame
  exact ⟨r, List.mem_flatMap.mpr ⟨m, List.mem_of_getElem? hm, hr⟩, hname, hkind⟩

/-- A report has as many entries as the plan. -/
theorem length_models_reportOf : (reportOf emissions).models.length = plan.length := by
  have hplanned := congrArg List.length (of_run_emitPlan h).1
  simpa [reportOf] using hplanned

end

end Generator

/-! ## The faults of a model -/

/-- Only a bad fetch plan keeps artifacts from being put together. -/
theorem Assembly.kind_of_pipeline_error {a : Assembly} {fault : GenerationError}
    (h : a.pipeline = .error fault) : fault.kind = .invalidAttributePath := by
  have hrepository : a.repositorySpec = .error fault := by
    rcases bind_eq_error_iff.mp h with h | ⟨_, -, hnever⟩
    · exact h
    · cases hnever
  have hplan : a.fetchPlan = .error fault := by
    rcases bind_eq_error_iff.mp hrepository with h | ⟨_, -, hnever⟩
    · exact h
    · cases hnever
  rcases bind_eq_error_iff.mp hplan with hchecks | ⟨_, -, hnever⟩
  · obtain ⟨path, -, hpath⟩ := exists_of_forM_eq_error hchecks
    split at hpath
    · rw [← Except.error.inj hpath]
      rfl
    · cases hpath
  · cases hnever

/-- A model that cannot be resolved is told as such. -/
theorem GenerationError.kind_unresolvable (m : Manifest.Model) (fault : ResolutionFault) :
    (unresolvable m fault).kind = .unresolvableModel := by
  cases fault <;> rfl

/-- A taken name is never the fault of a model alone. -/
theorem Generator.kind_of_fault? {g : Generator} {manifest : Manifest} {e : Catalog.Entry}
    (he : e ∈ (g.catalog manifest).entries) {fault : GenerationError}
    (h : (g.catalog manifest).fault? e = some fault) : fault.kind ≠ .duplicateArtifactName := by
  unfold Catalog.fault? at h
  split at h
  · next model hresult =>
    unfold Assembly.fault? at h
    split at h
    · split at h
      · cases h
      · next e' hpipeline =>
        rw [← Option.some.inj h, Assembly.kind_of_pipeline_error hpipeline]
        decide
    · cases h
  · next fault' hresult =>
    obtain ⟨declared, -, rfl⟩ := List.mem_map.mp he
    obtain ⟨cause, -, rfl⟩ := mapError_eq_error_iff.mp hresult
    rw [← Option.some.inj h, GenerationError.kind_unresolvable]
    decide

/-- A model with a fault of its own has at most its predicate factory due. -/
theorem Catalog.kind_of_mem_due {c : Catalog} {e : Catalog.Entry} {fault : GenerationError}
    (h : c.fault? e = some fault) : ∀ s ∈ c.due e, s.kind = .predicateFactory := by
  intro s hs
  cases hassembly : c.assembly? e with
  | none => simp [due, hassembly] at hs
  | some a =>
    rw [fault?_of_assembly hassembly] at h
    rw [due_of_assembly hassembly, Assembly.due, a.pipelineDue_of_fault h, List.append_nil] at hs
    exact a.kind_of_mem_predicatesDue hs

/-! ## The law of a run -/

open PlannedModel in
/-- What the report `r` on a declared model `e` says, whose part of the plan is `p`, when the names
`claimed` are those claimed by the time it is through. -/
structure ModelReport.Lawful (r : ModelReport) (c : Catalog) (e : Catalog.Entry) (p : PlannedModel)
    (claimed : List QualifiedName) : Prop where
  model : r.model = e.declared.qualifiedName
  /-- Every artifact of the plan is reported, whatever came of the ones before it. -/
  artifacts : r.artifacts.map (fun a => (a.name, a.kind)) = p.specs.map fun s => (s.name.path, s.kind)
  specs_prefix : p.specs <+: c.due e
  /-- Only a taken name cuts a sequence short. -/
  whole_or_failed :
    p.specs = c.due e ∨ r.status = .failed ∧ r.errorKind = some .duplicateArtifactName
  failed_of_errorKind : r.errorKind ≠ none → r.status = .failed
  /-- The taken name is that of the first artifact left out, and was claimed earlier. -/
  taken : r.errorKind = some .duplicateArtifactName → ∃ s rest,
    c.due e = p.specs ++ s :: rest ∧ s.name ∈ claimed ∧
      r.reason = some (GenerationError.duplicateArtifactName s.name).message
  /-- Any other error is there before names are claimed in the second pass, and leaves at most the
  predicate factory. -/
  stopped : ∀ kind, r.errorKind = some kind → kind ≠ .duplicateArtifactName →
    ∀ s ∈ p.specs, s.kind = .predicateFactory
  /-- A model whose artifacts cannot be put together emits its predicate factory at most. -/
  unbuilt : ∀ a fault, c.assembly? e = some a → a.model.traits.scrudBean = true →
    a.pipeline = .error fault →
      (∀ s ∈ p.specs, s.kind = .predicateFactory) ∧
      (r.errorKind ≠ some .duplicateArtifactName →
        r.status = .failed ∧ r.errorKind = some fault.kind ∧ r.reason = some fault.message)

namespace ModelReport

variable {c : Catalog} {e : Catalog.Entry} {p : PlannedModel} {claimed : List QualifiedName}
  {r : ModelReport}

/-- A report has an error kind exactly if it has the one of an error that stopped the model. -/
theorem Tells.exists_error (h : r.Tells p) {kind : ErrorKind} (hkind : r.errorKind = some kind) :
    ∃ fault, p.error = some fault ∧ fault.kind = kind ∧ r.status = .failed ∧
      r.reason = some fault.message := by
  rw [h.errorKind, Option.map_eq_some_iff] at hkind
  obtain ⟨fault, herror, rfl⟩ := hkind
  exact ⟨fault, herror, rfl, h.failed herror⟩

/-- The report on a model that fares by the law is lawful. -/
theorem Tells.lawful (h : r.Tells p) (htitle : p.title = e.declared.qualifiedName)
    (hfares : c.Fares e claimed p)
    (hown : ∀ fault, c.fault? e = some fault → fault.kind ≠ .duplicateArtifactName) :
    r.Lawful c e p claimed where
  model := h.model.trans htitle
  artifacts := h.artifacts
  specs_prefix := hfares.specs_prefix
  whole_or_failed := by
    cases hfares with
    | whole hspecs _ => exact .inl hspecs
    | cut s rest _ herror _ =>
      refine .inr ⟨(h.failed herror).1, ?_⟩
      rw [h.errorKind, herror]
      rfl
  failed_of_errorKind := by
    intro hsome
    obtain ⟨kind, hkind⟩ := Option.ne_none_iff_exists'.mp hsome
    obtain ⟨-, -, -, hfailed, -⟩ := h.exists_error hkind
    exact hfailed
  taken := by
    intro hkind
    obtain ⟨fault, herror, hfault, -, hreason⟩ := h.exists_error hkind
    cases hfares with
    | whole _ hsame => exact absurd hfault (hown fault (hsame ▸ herror))
    | cut s rest hdue hcut htaken =>
      rw [hcut, Option.some.injEq] at herror
      exact ⟨s, rest, hdue, htaken, herror ▸ hreason⟩
  stopped := by
    intro kind hkind hother
    obtain ⟨fault, herror, rfl, -⟩ := h.exists_error hkind
    cases hfares with
    | whole hspecs hsame =>
      rw [hspecs]
      exact Catalog.kind_of_mem_due (hsame ▸ herror)
    | cut s rest _ hcut _ =>
      rw [hcut, Option.some.injEq] at herror
      exact absurd (herror ▸ rfl) hother
  unbuilt := by
    intro a fault hassembly hbean hpipeline
    have hfault : c.fault? e = some fault := by
      rw [Catalog.fault?_of_assembly hassembly]
      simp [Assembly.fault?, hbean, hpipeline]
    refine ⟨fun s hs => Catalog.kind_of_mem_due hfault s (hfares.specs_prefix.subset hs),
      fun hother => ?_⟩
    cases hfares with
    | whole _ hsame =>
      rw [hfault] at hsame
      obtain ⟨hfailed, hreason⟩ := h.failed hsame
      refine ⟨hfailed, ?_, hreason⟩
      rw [h.errorKind, hsame]
      rfl
    | cut s rest _ hcut _ =>
      refine absurd ?_ hother
      rw [h.errorKind, hcut]
      rfl

end ModelReport

namespace Generator

open PlannedModel

/-- On every store a first run claims each name once. What it emits of a model is what is due for the
model, or the part before an artifact whose name was claimed earlier; what came of the artifacts
themselves has no part in it, since neither the plan nor the law mentions the store. Only a run that
aborts does not report so. -/
theorem run_claims_in_order {g : Generator} (hidle : g.phase = .idle) {manifest : Manifest}
    (hm : manifest.models ≠ []) {σ : Type} (store : Store (StateM σ)) (s : σ) :
    let c := g.catalog manifest
    c.claimed.names.reverse = (emissionOrder c.plan).map Spec.name ∧
    ((emissionOrder c.plan).map Spec.name).Nodup ∧
    c.entries.map Catalog.Entry.declared = manifest.models ∧
    (g.Aborts store manifest s ∨ ∃ report log t,
      (g.run store manifest).run.run s = (some (.completed report, log, g.done c.claimed), t) ∧
      report.models.length = c.entries.length ∧
      ∀ (i : Nat) (e : Catalog.Entry), c.entries[i]? = some e →
        ∃ (p : PlannedModel) (r : ModelReport), c.plan[i]? = some p ∧
          report.models[i]? = some r ∧ r.Lawful c e p (claimedUntil c.plan i p)) := by
  intro c
  refine ⟨c.names_claimed, c.nodup_emissionOrder, ?_, ?_⟩
  · rw [← List.map_id manifest.models]
    exact List.map_map
  · refine (run_cases hidle hm store s).imp_right ?_
    rintro ⟨emissions, t, hemitted, hrun⟩
    refine ⟨_, _, t, hrun, ?_, ?_⟩
    · rw [length_models_reportOf hemitted, c.length_plan]
    · intro i e he
      obtain ⟨p, hp, htitle, hfares⟩ := c.exists_planned he
      obtain ⟨r, hr, htells⟩ := exists_tells hemitted hp
      exact ⟨p, r, hp, hr,
        htells.lawful htitle hfares fun _ => kind_of_fault? (List.mem_of_getElem? he)⟩

/-! ## A name that two models share -/

private def sharedConfig : Config := { outputRoot := ⟨"out"⟩ }

private def withLines (name : String) : Manifest.Model where
  name
  space := "shop::model"
  identifier := some { type := some "u64" }

private def sharedManifest : Manifest where
  models := [withLines "Order", withLines "Invoice"]
  dtos := [{ name := "LineDto", model := "Order" }, { name := "LineDto", model := "Invoice" }]

-- A store that has every artifact.
private def fullStore : Store (StateM Unit) where
  holds _ := return true
  write _ _ := return .ok ()

/-- The lines of invoices have the names of those of orders, so only the predicates of invoices come
before a name that is taken. -/
theorem second_line_mapper_is_refused :
    ∃ g, ofConfig sharedConfig = .ok g ∧ g.phase = .idle ∧ sharedManifest.models ≠ [] ∧
      let c := g.catalog sharedManifest
      ∃ report log t,
        (g.run fullStore sharedManifest).run.run () =
          (some (.completed report, log, g.done c.claimed), t) ∧
        ((emissionOrder c.plan).map Spec.name).Nodup ∧
        report.models.map (fun r => (r.errorKind, r.artifacts.length)) =
          [(none, 8), (some .duplicateArtifactName, 1)] ∧
        ∃ e p s rest, c.entries[1]? = some e ∧ c.plan[1]? = some p ∧
          c.due e = p.specs ++ s :: rest ∧ s.name ∈ claimedUntil c.plan 1 p := by
  have htold : (ofConfig sharedConfig).toOption.bind (fun g =>
      (g.report? fullStore sharedManifest ()).map
        (·.models.map fun r => (r.errorKind, r.artifacts.length))) =
        some [(none, 8), (some .duplicateArtifactName, 1)] := by
    decide +kernel
  obtain ⟨g, report, log, after, t, hg, hrun, hreport⟩ := exists_completed htold
  have hidle := phase_of_ofConfig g hg
  have hmodels : sharedManifest.models ≠ [] := List.cons_ne_nil _ _
  obtain ⟨-, hnodup, -, ⟨_, -, habort⟩ | ⟨_, _, _, hrun', -, hlawful⟩⟩ :=
    run_claims_in_order hidle hmodels fullStore ()
  · cases hrun.symm.trans habort
  · cases hrun.symm.trans hrun'
    obtain ⟨e, he⟩ : ∃ e, (g.catalog sharedManifest).entries[1]? = some e := ⟨_, rfl⟩
    obtain ⟨p, r, hp, hr, hlaw⟩ := hlawful 1 e he
    have hkind : r.errorKind = some .duplicateArtifactName := by
      have hsecond := congrArg (·[1]?) hreport
      simp only [List.getElem?_map, hr, Option.map_some] at hsecond
      exact congrArg Prod.fst (Option.some.inj hsecond)
    obtain ⟨s, rest, hdue, htaken, -⟩ := hlaw.taken hkind
    exact ⟨g, hg, hidle, hmodels, report, log, t, hrun, hnodup, hreport, e, p, s, rest, he, hp, hdue,
      htaken⟩

end Generator

end CrudScaffold
