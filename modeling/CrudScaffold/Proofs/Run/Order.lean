import CrudScaffold.Proofs.Assembly.Graph
import CrudScaffold.Proofs.Model.Catalog
import CrudScaffold.Proofs.Run.Independence
import CrudScaffold.Proofs.Run.Undisturbed

/-!
# The order of declarations

Models that are declared in another order are resolved to the same models, find the same models in the
graph and have the same artifacts due. As long as no name is taken, each of them gets all that is due,
and what comes of an artifact is decided by the memory before the run. So nothing that a run reports or
leaves behind depends on the order of the declarations.
-/

namespace CrudScaffold

/-! ## What is due -/

namespace Assembly

variable {a : Assembly} {graph : ModelGraph} (h : graph.Alike a.graph)
include h

/-- The same is due for graphs that are alike. -/
theorem due_congr : { a with graph }.due = a.due := by
  unfold due predicatesDue pipelineDue
  rw [predicatesSpec_congr h, pipeline_congr h]

/-- There is the same fault for graphs that are alike. -/
theorem fault?_congr : { a with graph }.fault? = a.fault? := by
  unfold fault?
  rw [pipeline_congr h]

end Assembly

namespace Catalog

variable {c c' : Catalog}

section

variable (halike : c'.graph.Alike c.graph) (hnaming : c'.resolver.naming = c.resolver.naming)
include halike hnaming

/-- What is due for a declared model depends on what the graph finds. -/
theorem due_congr : c'.due = c.due := by
  funext e
  unfold due assembly?
  cases e.result with
  | error fault => rfl
  | ok model =>
    have hdue := Assembly.due_congr (a := ⟨model, c.graph, c.resolver.naming⟩) halike
    rw [hnaming]
    exact hdue

/-- So does the fault of a declared model. -/
theorem fault?_congr : c'.fault? = c.fault? := by
  funext e
  unfold fault?
  cases e.result with
  | error fault => rfl
  | ok model =>
    have hfault := Assembly.fault?_congr (a := ⟨model, c.graph, c.resolver.naming⟩) halike
    simp only [hnaming]
    exact hfault

end

/-- What is reported of a declared model that gets all that is due, on a memory. -/
def reportOn (c : Catalog) (r : Renderer) (s : Memory) (e : Entry) : ModelReport :=
  .ofOutcome e.declared.qualifiedName (c.fault? e)
    ((s.results r (c.due e)).map fun (x, e) => e.report x)

/-- Where nothing is disturbed, the report on a model follows from what is due for it. -/
theorem Undisturbed.map_reportOn (h : c.Undisturbed) (r : Renderer) (s : Memory) :
    c.plan.map (PlannedModel.reportOn r s) = c.entries.map (c.reportOn r s) := by
  have hreports := congrArg (List.map fun t : String × List Spec × Option GenerationError =>
    ModelReport.ofOutcome t.1 t.2.2 ((s.results r t.2.1).map fun (x, e) => e.report x)) h
  rw [List.map_map, List.map_map] at hreports
  exact hreports

/-- The same declarations, with the same due for each of them. -/
structure Agrees (c' c : Catalog) : Prop where
  entries : c'.entries.Perm c.entries
  due : c'.due = c.due
  fault? : c'.fault? = c.fault?

/-- Catalogs of the same declarations agree, as long as resolved models have distinct names. -/
theorem agrees_of_perm {manifest : Manifest} {models : List Manifest.Model} {known : List String}
    {naming : Naming} {crate : String} (h : models.Perm manifest.models)
    (hnames : ((ofManifest manifest known naming crate).models.map Model.name).Nodup) :
    (ofManifest { manifest with models } known naming crate).Agrees
      (ofManifest manifest known naming crate) := by
  have halike := ModelGraph.Alike.of_get?_eq (get?_graph_ofManifest_perm h hnames)
  exact ⟨entries_ofManifest_perm h, due_congr halike rfl, fault?_congr halike rfl⟩

namespace Agrees

variable (h : c'.Agrees c)
include h

/-- The same artifacts are due. -/
theorem flatMap_due_perm : (c'.entries.flatMap c'.due).Perm (c.entries.flatMap c.due) := by
  rw [h.due]
  exact h.entries.flatMap_right c.due

/-- Where nothing is disturbed in one order, nothing is in the other. -/
theorem undisturbed (hc : c.Undisturbed) : c'.Undisturbed :=
  undisturbed_of_nodup ((h.flatMap_due_perm.map Spec.name).nodup_iff.mpr hc.nodup_dueNames)

/-- The same artifacts are emitted where nothing is disturbed. -/
theorem emissionOrder_perm (hc : c.Undisturbed) :
    (Generator.emissionOrder c'.plan).Perm (Generator.emissionOrder c.plan) :=
  (h.undisturbed hc).emissionOrder_perm.trans (h.flatMap_due_perm.trans hc.emissionOrder_perm.symm)

/-- A declared model is reported alike. -/
theorem reportOn_eq (r : Renderer) (s : Memory) : c'.reportOn r s = c.reportOn r s := by
  unfold reportOn
  rw [h.due, h.fault?]

end Agrees

end Catalog

/-! ## What is left behind -/

namespace Memory

variable {s : Memory} {r : Renderer} {specs : List Spec}

/-- Whether artifacts complete does not depend on their order. -/
theorem completes_perm {specs' : List Spec} (h : specs.Perm specs') (hall : s.Completes r specs') :
    s.Completes r specs :=
  fun x hx => hall x (h.subset hx)

/-- Artifacts of distinct names are added under distinct names. -/
theorem nodup_map_fst_additions (h : (specs.map Spec.name).Nodup) :
    ((specs.filterMap (s.addition? r)).map Prod.fst).Nodup := by
  rw [List.Nodup, List.pairwise_map] at h ⊢
  refine h.filterMap _ fun x y hne a ha b hb => ?_
  rw [fst_of_addition? ha, fst_of_addition? hb]
  exact hne

/-- Artifacts of distinct names are kept alike in whatever order they are added. -/
theorem contents?_keepAll_perm {added added' : List (QualifiedName × String)}
    (h : added.Perm added') (hnodup : (added.map Prod.fst).Nodup) (n : QualifiedName) :
    (s.keepAll added).contents? n = (s.keepAll added').contents? n := by
  rw [contents?_keepAll, contents?_keepAll, lookup_perm h hnodup]

end Memory

namespace Generator

variable {g : Generator} {manifest : Manifest} {models : List Manifest.Model}

/-- A catalog in which the run told of no taken name is undisturbed. -/
theorem undisturbed_of_reports {c : Catalog} {r : Renderer} {s : Memory}
    (h : ∀ m ∈ c.plan.map (PlannedModel.reportOn r s),
      m.errorKind ≠ some .duplicateArtifactName) : c.Undisturbed := by
  refine Catalog.undisturbed_of_error_ne fun p hp n herror => ?_
  refine h (p.reportOn r s) (List.mem_map_of_mem hp) ?_
  simp only [PlannedModel.reportOn, ModelReport.ofOutcome, herror, GenerationError.kind]

/-- The order of the declarations does not matter. If resolved models have distinct names and a run comes
to its end and tells of no taken name, then on the same models in any other order a run comes to its end
as well, each model is reported alike and the same is left behind. -/
theorem run_order_does_not_matter (hperm : models.Perm manifest.models)
    (hnames : ((g.catalog manifest).models.map Model.name).Nodup) {s t : Memory}
    {report : RunReport} {log : Log} {after : Generator}
    (hrun : (g.run Memory.store manifest).run.run s = (some (.completed report, log, after), t))
    (hfree : ∀ m ∈ report.models, m.errorKind ≠ some .duplicateArtifactName) :
    ∃ (reportOn : Manifest.Model → ModelReport) (log' : Log) (after' : Generator) (t' : Memory),
      report.models = manifest.models.map reportOn ∧
      (g.run Memory.store { manifest with models }).run.run s =
        (some (.completed ⟨models.map reportOn⟩, log', after'), t') ∧
      t'.artifacts.Perm t.artifacts ∧ (∀ n, t'.contents? n = t.contents? n) ∧
      t'.writes = t.writes ∧ t'.failing = t.failing ∧ t'.blind = t.blind := by
  obtain ⟨hidle, hm⟩ := idle_of_completed hrun
  let manifest' : Manifest := { manifest with models }
  have hm' : manifest'.models ≠ [] :=
    fun hnone : models = [] => hm (hnone ▸ hperm).nil_eq.symm
  let c := g.catalog manifest
  let c' := g.catalog manifest'
  have hagrees : c'.Agrees c := Catalog.agrees_of_perm hperm hnames
  have hentry : c'.entry = c.entry := Catalog.entry_ofManifest_perm hperm
  -- The run at hand is the one on the memory before it, and it did not abort.
  obtain ⟨hall, rfl, rfl⟩ : s.Completes g.renderer (emissionOrder c.plan) ∧
      report = ⟨c.plan.map (PlannedModel.reportOn g.renderer s)⟩ ∧
      t = s.keepAll ((emissionOrder c.plan).filterMap (s.addition? g.renderer)) := by
    rcases run_on_memory_cases hidle hm s with ⟨hall, _, hfirst⟩ | ⟨-, _, -, habort⟩
    · cases hrun.symm.trans hfirst
      exact ⟨hall, rfl, rfl⟩
    · cases hrun.symm.trans habort
  have hc : c.Undisturbed := undisturbed_of_reports hfree
  have hadded := (hagrees.emissionOrder_perm hc).filterMap (s.addition? g.renderer)
  have hreports : c'.plan.map (PlannedModel.reportOn g.renderer s) =
      models.map fun declared => c.reportOn g.renderer s (c.entry declared) := by
    rw [(hagrees.undisturbed hc).map_reportOn, hagrees.reportOn_eq, ← hentry]
    exact List.map_map
  obtain ⟨log', hsecond⟩ := run_of_completes hidle hm'
    (Memory.completes_perm (hagrees.emissionOrder_perm hc) hall)
  refine ⟨fun declared => c.reportOn g.renderer s (c.entry declared), log', g.done c'.claimed,
    s.keepAll ((emissionOrder c'.plan).filterMap (s.addition? g.renderer)), ?_, ?_, ?_, ?_, ?_, ?_, ?_⟩
  · exact (hc.map_reportOn g.renderer s).trans List.map_map
  · rw [hsecond, hreports]
  · exact hadded.append_left s.artifacts
  · exact Memory.contents?_keepAll_perm hadded
      (Memory.nodup_map_fst_additions c'.nodup_emissionOrder)
  · rw [Memory.writes_keepAll, Memory.writes_keepAll, hadded.length_eq]
  · rw [Memory.failing_keepAll, Memory.failing_keepAll]
  · rw [Memory.blind_keepAll, Memory.blind_keepAll]

/-! ## Two models that belong together -/

private def pairConfig : Config := { outputRoot := ⟨"out"⟩ }

private def customerEntity : Manifest.Model where
  name := "Customer"
  space := "shop::model"
  scrudBean := false
  identifier := some { field := "number", type := some "u64" }

private def orderEntity : Manifest.Model where
  name := "Order"
  space := "shop::model"
  scrudBean := false
  identifier := some { type := some "u64" }
  fields := [{ name := "customer", type := "Customer", cardinality := some .manyToOne }]

private def pairManifest : Manifest := { models := [orderEntity, customerEntity] }

/-- The predicates of orders name the identifier of customers, whichever of the two is declared first:
both runs report the same of both models, and leave the same predicates behind. -/
theorem customers_may_come_first :
    ∃ g, ofConfig pairConfig = .ok g ∧
      [customerEntity, orderEntity].Perm pairManifest.models ∧
      ((g.catalog pairManifest).models.map Model.name).Nodup ∧
      ∃ report log after t report' log' after' t',
        (g.run Memory.store pairManifest).run.run {} = (some (.completed report, log, after), t) ∧
        report.models.map (fun m => (m.errorKind, m.status)) =
          [(none, .generated), (none, .generated)] ∧
        (g.run Memory.store { pairManifest with models := [customerEntity, orderEntity] }).run.run {} =
          (some (.completed report', log', after'), t') ∧
        report'.models = report.models.reverse ∧ ∀ n, t'.contents? n = t.contents? n := by
  have htold : (ofConfig pairConfig).toOption.bind (fun g =>
      (g.report? Memory.store pairManifest {}).map
        (·.models.map fun m => (m.errorKind, m.status))) =
          some [(none, .generated), (none, .generated)] := by
    decide +kernel
  have hnames : (ofConfig pairConfig).toOption.map (fun g =>
      decide ((g.catalog pairManifest).models.map Model.name).Nodup) = some true := by
    decide +kernel
  obtain ⟨g, report, log, after, t, hg, hrun, hreport⟩ := exists_completed htold
  rw [hg, Except.toOption, Option.map_some, Option.some.injEq, decide_eq_true_iff] at hnames
  have hperm : [customerEntity, orderEntity].Perm pairManifest.models := .swap _ _ _
  have hfree : ∀ m ∈ report.models, m.errorKind ≠ some .duplicateArtifactName := by
    intro m hm hkind
    have hmem := List.mem_map_of_mem (f := fun m => (m.errorKind, m.status)) hm
    simp [hreport, hkind] at hmem
  obtain ⟨reportOn, log', after', t', hreports, hother, -, hcontents, -⟩ :=
    run_order_does_not_matter hperm hnames hrun hfree
  exact ⟨g, hg, hperm, hnames, report, log, after, t, _, log', after', t', hrun, hreport, hother,
    by rw [hreports]; rfl, hcontents⟩

end Generator

end CrudScaffold
