import CrudScaffold.Proofs.Run.Independence

/-!
# Running again

A fresh generator that runs on the same manifest over what a first run left repeats its report, with
one change: what was written is there by now and is skipped. It changes nothing. A generator that has
run does nothing at all, whatever it is asked to run on.
-/

namespace CrudScaffold

/-! ## What a second run reports -/

/-- What was written is there the next time; all else stays as it was. -/
def Emission.repeated : Emission → Emission
  | written => skippedExisting
  | skippedExisting => skippedExisting
  | failed e => failed e

/-- What was written is there the next time; all else stays as it was. -/
def Outcome.repeated : Outcome → Outcome
  | written => skippedExisting
  | skippedExisting => skippedExisting
  | failed => failed

/-- The report on the same artifact the next time. -/
def ArtifactReport.repeated (a : ArtifactReport) : ArtifactReport :=
  { a with outcome := a.outcome.repeated }

/-- Where artifacts were written, all of them are there the next time. -/
def ModelStatus.repeated : ModelStatus → ModelStatus
  | generated => skippedAllExisting
  | skippedAllExisting => skippedAllExisting
  | unqualified => unqualified
  | failed => failed

/-- The report on the same model the next time. -/
def ModelReport.repeated (m : ModelReport) : ModelReport :=
  { m with status := m.status.repeated, artifacts := m.artifacts.map ArtifactReport.repeated }

/-- The report on the same manifest the next time. -/
def RunReport.repeated (r : RunReport) : RunReport := ⟨r.models.map ModelReport.repeated⟩

/-- An emission is reported as the repetition of what was reported of it. -/
theorem Emission.report_repeated (s : Spec) (e : Emission) :
    e.repeated.report s = (e.report s).repeated := by
  cases e <;> rfl

/-- What is repeated is never written. -/
theorem Emission.repeated_ne_written (e : Emission) : e.repeated ≠ .written := by
  cases e <;> simp [repeated]

namespace ModelReport

variable (artifacts : List ArtifactReport)

/-- The same artifacts fail the next time. -/
theorem failures_repeated :
    failures (artifacts.map ArtifactReport.repeated) = failures artifacts := by
  unfold failures
  rw [List.countP_map]
  refine List.countP_congr fun a _ => ?_
  cases h : a.outcome <;> simp [ArtifactReport.repeated, h, Outcome.repeated]

/-- Artifacts of which none failed are all there the next time. -/
theorem all_skipped_repeated (h : failures artifacts = 0) :
    (artifacts.map ArtifactReport.repeated).all (fun a => a.outcome == .skippedExisting) = true := by
  rw [List.all_map, List.all_eq_true]
  intro a ha
  have hsound : a.outcome ≠ .failed := by
    simpa using List.countP_eq_zero.mp h a ha
  cases houtcome : a.outcome <;>
    simp_all [ArtifactReport.repeated, Outcome.repeated]

/-- The status follows from repeated artifacts as it followed from the artifacts. -/
theorem statusOf_repeated :
    statusOf (artifacts.map ArtifactReport.repeated) = (statusOf artifacts).repeated := by
  unfold statusOf
  rw [failures_repeated]
  by_cases hfailed : 0 < failures artifacts
  · simp [hfailed, ModelStatus.repeated]
  · have hall := all_skipped_repeated artifacts (Nat.eq_zero_of_not_pos hfailed)
    rw [hall]
    cases artifacts with
    | nil => simp [failures, ModelStatus.repeated]
    | cons a rest =>
      simp only [hfailed, List.map_cons, List.isEmpty_cons, Bool.false_eq_true, ↓reduceIte]
      split <;> rfl

/-- A model whose artifacts are repeated is reported as repeated. -/
theorem ofOutcome_repeated (title : String) (error : Option GenerationError) :
    ofOutcome title error (artifacts.map ArtifactReport.repeated) =
      (ofOutcome title error artifacts).repeated := by
  cases error with
  | some e => rfl
  | none =>
    simp only [ofOutcome, repeated, statusOf_repeated, reasonOf, failures_repeated]

end ModelReport

/-! ## The second run -/

namespace Memory

variable {s : Memory} {r : Renderer} {x : Spec} {specs : List Spec}

/-- An artifact is written only where it can be rendered and writes succeed. -/
theorem of_emission?_eq_written (h : s.emission? r x = some .written) :
    s.failing = false ∧ ∃ text, r.source x = .ok text := by
  unfold emission? at h
  rw [run_emit] at h
  split at h
  · cases h
  · rcases hsource : r.source x with (e | _) | text <;> rw [hsource] at h
    · cases h
    · cases h
    · refine ⟨?_, text, rfl⟩
      cases hfailing : s.failing with
      | false => rfl
      | true => simp [write, hfailing, Emission.ofWrite, IoFault.isAlreadyExists] at h

/-- What can be rendered is skipped where it is there and writes succeed. -/
theorem emission?_of_kept {text old : String} (hkept : s.contents? x.name = some old)
    (hfailing : s.failing = false) (hsource : r.source x = .ok text) :
    s.emission? r x = some .skippedExisting := by
  have hcontains : s.contains x.name = true := by simp [contains, hkept]
  unfold emission?
  rw [run_emit]
  split
  · rfl
  · simp [hsource, write, hfailing, hcontains, Emission.ofWrite, IoFault.isAlreadyExists]

/-- Emitting an artifact again, after all artifacts were emitted, repeats what came of it. -/
theorem emission?_again (hnodup : (specs.map Spec.name).Nodup) (hx : x ∈ specs) :
    (s.keepAll (specs.filterMap (s.addition? r))).emission? r x =
      (s.emission? r x).map Emission.repeated := by
  by_cases hw : s.emission? r x = some .written
  · obtain ⟨hfailing, text, hsource⟩ := of_emission?_eq_written hw
    have hadded : (x.name, text) ∈ specs.filterMap (s.addition? r) := by
      refine List.mem_filterMap.mpr ⟨x, hx, ?_⟩
      simp [addition?, hw, hsource, Except.toOption]
    obtain ⟨old, hkept⟩ := exists_contents?_keepAll (s := s) hadded
    rw [hw]
    exact emission?_of_kept hkept hfailing hsource
  · have hsame : (s.emission? r x).map Emission.repeated = s.emission? r x := by
      rcases he : s.emission? r x with _ | _ | _ | e <;> first | rfl | exact absurd he hw
    rw [hsame]
    refine emission?_keepAll fun hmem => ?_
    obtain ⟨added, hadded, hname⟩ := List.mem_map.mp hmem
    obtain ⟨y, hy, hadds⟩ := List.mem_filterMap.mp hadded
    rw [fst_of_addition? hadds] at hname
    obtain rfl := List.inj_on_of_nodup_map hnodup hy hx hname
    simp [addition?, hw] at hadds

/-- What completes once completes again. -/
theorem completes_again (hnodup : (specs.map Spec.name).Nodup) (h : s.Completes r specs) :
    (s.keepAll (specs.filterMap (s.addition? r))).Completes r specs := by
  intro x hx
  rw [emission?_again hnodup hx]
  simpa using h x hx

/-- After all artifacts were emitted nothing more is added. -/
theorem filterMap_addition?_again (hnodup : (specs.map Spec.name).Nodup) :
    specs.filterMap ((s.keepAll (specs.filterMap (s.addition? r))).addition? r) = [] := by
  refine List.filterMap_eq_nil_iff.mpr fun x hx => ?_
  rw [addition?, emission?_again hnodup hx, if_neg]
  intro h
  obtain ⟨e, -, hwritten⟩ := Option.map_eq_some_iff.mp h
  exact e.repeated_ne_written hwritten

end Memory

namespace Generator

/-- The report on a model of the plan is repeated after all artifacts of the plan were emitted. -/
theorem reportOn_again {plan : List PlannedModel} {r : Renderer} {s : Memory} {p : PlannedModel}
    (hnodup : ((emissionOrder plan).map Spec.name).Nodup) (hp : p ∈ plan) :
    p.reportOn r (s.keepAll ((emissionOrder plan).filterMap (s.addition? r))) =
      (p.reportOn r s).repeated := by
  rw [PlannedModel.reportOn, PlannedModel.reportOn, ← ModelReport.ofOutcome_repeated,
    Memory.results, Memory.results, List.map_filterMap, List.map_filterMap, List.map_filterMap]
  refine congrArg _ (List.filterMap_congr fun x hx => ?_)
  rw [Memory.emission?_again hnodup (mem_emissionOrder_iff.mpr ⟨p, hp, hx⟩)]
  cases s.emission? r x with
  | none => rfl
  | some e => exact congrArg some (Emission.report_repeated x e)

/-! ## A generator that has run -/

section

variable {m : Type → Type} [Monad m]

/-- Run on manifests one after the other. -/
def runs (g : Generator) (store : Store m) : List Manifest → OptionT m (List Result × Generator)
  | [] => return ([], g)
  | manifest :: rest => do
    let (result, _, g) ← g.run store manifest
    let (results, g) ← g.runs store rest
    return (result :: results, g)

end

variable {σ : Type} {g : Generator} {store : Store (StateM σ)}

/-- After a run, whatever came of it, a generator has run. -/
theorem phase_run {manifest : Manifest} {s t : σ} {result : Result} {log : Log} {used : Generator}
    (h : (g.run store manifest).run.run s = (some (result, log, used), t)) : used.phase = .done := by
  unfold run at h
  split at h
  · next hdone =>
    obtain ⟨hused, -⟩ := run_pure_eq_some_iff.mp h
    cases hused
    exact hdone
  · split at h
    · obtain ⟨hused, -⟩ := run_pure_eq_some_iff.mp h
      cases hused
      rfl
    · obtain ⟨emitted, u, -, h⟩ := run_bind_eq_some_iff.mp h
      obtain ⟨hused, -⟩ := run_pure_eq_some_iff.mp h
      cases hused
      rfl

/-- A generator that has run does nothing more. -/
theorem run_of_done (hdone : g.phase = .done) (store : Store (StateM σ)) (manifest : Manifest)
    (s : σ) : ∃ log, (g.run store manifest).run.run s = (some (.alreadyRan, log, g), s) := by
  unfold run
  rw [hdone]
  exact ⟨_, rfl⟩

/-- However often a generator that has run is asked to run, it does nothing. -/
theorem runs_of_done (hdone : g.phase = .done) (store : Store (StateM σ))
    (manifests : List Manifest) (s : σ) :
    (g.runs store manifests).run.run s = (some (manifests.map fun _ => .alreadyRan, g), s) := by
  induction manifests with
  | nil => rfl
  | cons manifest rest ih =>
    obtain ⟨log, hrun⟩ := run_of_done hdone store manifest s
    exact (run_bind_of_some hrun).trans (run_bind_of_some ih)

/-- Running again is safe. A fresh generator on the same manifest changes nothing and repeats the
report, with what was written now skipped; only if the first run aborts is there nothing to repeat. A
generator that has run, also one that was refused its manifest, does nothing on whatever further
manifests and stays as it is, the claimed names included. -/
theorem rerun_is_safe {c : Config} (hg : ofConfig c = .ok g) {manifest : Manifest}
    (hm : manifest.models ≠ []) (s : Memory) :
    (g.Aborts Memory.store manifest s ∨ ∃ report log used t,
      (g.run Memory.store manifest).run.run s = (some (.completed report, log, used), t) ∧
      ∀ fresh, ofConfig c = .ok fresh → ∃ log' used',
        (fresh.run Memory.store manifest).run.run t =
          (some (.completed report.repeated, log', used'), t)) ∧
    ∀ {σ : Type} (store : Store (StateM σ)) (start : σ) (earlier : Manifest)
      (further : List Manifest),
      (earlier.models = [] → ∃ reason used, (g.run store earlier).run.run start =
        (some (.refused (.nothingToGenerate reason), [], used), start)) ∧
      ∀ result log used t, (g.run store earlier).run.run start = (some (result, log, used), t) →
        used.phase = .done ∧
        (used.runs store further).run.run t = (some (further.map fun _ => .alreadyRan, used), t) := by
  have hidle := phase_of_ofConfig g hg
  refine ⟨?_, fun store start earlier further => ⟨fun hnone => ?_, fun result log used t hrun => ?_⟩⟩
  · refine (run_on_memory_cases hidle hm s).symm.imp And.right ?_
    rintro ⟨hall, log, hrun⟩
    refine ⟨_, log, _, _, hrun, fun fresh hfresh => ?_⟩
    obtain rfl : g = fresh := Except.ok.inj (hg.symm.trans hfresh)
    have hnodup := (g.catalog manifest).nodup_emissionOrder
    obtain ⟨log', hagain⟩ := run_of_completes hidle hm (Memory.completes_again hnodup hall)
    refine ⟨log', g.done (g.catalog manifest).claimed, ?_⟩
    have hreports := List.map_congr_left fun p (hp : p ∈ (g.catalog manifest).plan) =>
      reportOn_again (r := g.renderer) (s := s) hnodup hp
    rw [hagain, Memory.filterMap_addition?_again hnodup, Memory.keepAll_nil, RunReport.repeated,
      List.map_map, hreports]
    rfl
  · exact ⟨_, _, run_on_nothing hidle hnone start⟩
  · exact ⟨phase_run hrun, runs_of_done (phase_run hrun) store further t⟩

/-! ## All kinds of outcomes at once -/

private def mixedConfig : Config := { outputRoot := ⟨"out"⟩ }

private def mixedEntity (name : String) (fields : List Manifest.Field) : Manifest.Model where
  name
  space := "shop::model"
  fields
  scrudBean := false
  identifier := some { type := some "u64" }

private def mixedManifest : Manifest where
  models := [mixedEntity "Order" [{ name := "lines", type := "Vec<" }], mixedEntity "Product" [],
    mixedEntity "Customer" [], mixedEntity "Product" []]

private def mixedMemory : Memory where
  artifacts := [(⟨⟨"shop::model"⟩, "CustomerPredicates"⟩, "// by hand")]

/-- A type that cannot be read, a new artifact, one that is there and one whose name is taken: the
second run repeats all of them, except that the new artifact is there by now. -/
theorem new_predicates_are_skipped_again :
    ∃ g, ofConfig mixedConfig = .ok g ∧ mixedManifest.models ≠ [] ∧ ∃ report log used t,
      (g.run Memory.store mixedManifest).run.run mixedMemory =
        (some (.completed report, log, used), t) ∧
      report.models.map ModelReport.status = [.failed, .generated, .skippedAllExisting, .failed] ∧
      (∃ log' used', (g.run Memory.store mixedManifest).run.run t =
        (some (.completed report.repeated, log', used'), t)) ∧
      (used.runs Memory.store [mixedManifest]).run.run t = (some ([.alreadyRan], used), t) := by
  have hstatuses : (ofConfig mixedConfig).toOption.bind (fun g =>
      (g.report? Memory.store mixedManifest mixedMemory).map (·.models.map ModelReport.status)) =
        some [.failed, .generated, .skippedAllExisting, .failed] := by
    decide +kernel
  obtain ⟨g, report, log, used, t, hg, hrun, hreport⟩ := exists_completed hstatuses
  have hmodels : mixedManifest.models ≠ [] := List.cons_ne_nil _ _
  obtain ⟨⟨_, -, habort⟩ | ⟨report', log', used', t', hrun', hagain⟩, hused⟩ :=
    rerun_is_safe hg hmodels mixedMemory
  · cases hrun.symm.trans habort
  · cases hrun.symm.trans hrun'
    have hdone := (hused Memory.store mixedMemory mixedManifest [mixedManifest]).2 _ _ _ _ hrun
    exact ⟨g, hg, hmodels, report, log, used, t, hrun, hreport, hagain g hg, hdone.2⟩

end Generator

end CrudScaffold
