import CrudScaffold.Run.Emission
import CrudScaffold.Run.Plan

/-!
# Runs

A run resolves the models of a manifest, claims the name of each artifact that is due and emits it into
a store, and reports on every model. A generator runs once; later runs do nothing. An artifact that
cannot be printed aborts the run, and with it the program: then there is no result, and what is told
until then is left out.
-/

namespace CrudScaffold

/-- Whether a generator has run. -/
inductive Phase where
  | idle
  | done
  deriving DecidableEq, Repr

/-- The name of a phase. -/
def Phase.text : Phase → String
  | idle => "Idle"
  | done => "Done"

/-- A configuration that is ready to run, or that has run. -/
structure Generator where
  config : Config
  renderer : Renderer
  phase : Phase := .idle
  /-- The names that its artifacts claimed. -/
  names : NameRegistry := {}
  names_of_idle : phase = .idle → names.names = [] := by exact fun _ => rfl

namespace Generator

/-- The generator of a configuration without faults. -/
def ofConfig (c : Config) : Except GenerationError Generator := do
  c.validate
  let renderer ← Renderer.ofConfig c
  return { config := c, renderer }

/-- The generator after a run in which these names were claimed. -/
def done (g : Generator) (names : NameRegistry) : Generator :=
  { g with phase := .done, names, names_of_idle := nofun }

/-- What came of a run. -/
inductive Result where
  | completed (report : RunReport)
  | alreadyRan
  | refused (error : GenerationError)

variable (g : Generator)

/-- The models of a manifest, with the types of the configuration and of the manifest known. -/
def catalog (m : Manifest) : Catalog :=
  .ofManifest m (g.config.knownTypes ++ m.generator.knownTypes) (.ofSettings g.config.settings)
    g.config.runtimeCrate

/-! ## What is told -/

/-- Lines on an error. -/
def errorLog (label : String) : Option GenerationError → Log
  | some e => [⟨.error, label ++ e.message⟩]
  | none => []

/-- Lines on the resolution of all models. -/
def resolutionLog (m : Manifest) (c : Catalog) : Log :=
  Log.warnings (m.findings.warnings.map Manifest.Warning.message) ++
    [⟨.info, s!"Discovered {m.models.length} model(s)"⟩] ++
    c.entries.flatMap (fun e =>
      Log.warnings (c.remarks e) ++
        match e.result with
        | .error fault => errorLog "" (some fault)
        | .ok _ => []) ++
    [⟨.info, s!"Resolved {c.graph.size} of {c.entries.length} model(s)"⟩]

/-- Lines on one pass of a model. -/
def shareLog (title : String) (share : Share) (emissions : List (Spec × Emission)) : Log :=
  Log.warnings share.remarks ++ emissions.flatMap (fun (s, e) => e.log s) ++
    errorLog (title ++ ": ") share.error

/-- The line on the whole run. -/
def closingLog (r : RunReport) : Log :=
  let written := r.count .written
  let skipped := r.count .skippedExisting
  let failed := r.count .failed
  [⟨.info, s!"Run finished: {written} written, {skipped} skipped, {failed} failed"⟩]

/-! ## Running -/

variable {m : Type → Type} [Monad m]

/-- A model in a run, with what came of its artifacts in both passes. -/
structure Emissions where
  planned : PlannedModel
  first : List (Spec × Emission) := []
  second : List (Spec × Emission) := []

/-- The report on a model. -/
def Emissions.report (e : Emissions) : ModelReport :=
  .ofOutcome e.planned.title e.planned.error ((e.first ++ e.second).map fun (s, e) => e.report s)

/-- Claim the names of artifacts and emit them, one after the other, until a name is taken. -/
def claimAndEmit (store : Store m) (names : NameRegistry) :
    List Spec → OptionT m (List (Spec × Emission) × Option GenerationError × NameRegistry)
  | [] => return ([], none, names)
  | s :: rest =>
    match names.claim? s.name with
    | none => return ([], some (.duplicateArtifactName s.name), names)
    | some names => do
      let e ← store.emit g.renderer s
      let (emitted, error, names) ← claimAndEmit store names rest
      return ((s, e) :: emitted, error, names)

/-- The share of artifacts that are due, with what came of them. -/
def emitDue (store : Store m) (remarks : List String) (names : NameRegistry) (due : List Spec) :
    OptionT m ((Share × List (Spec × Emission)) × NameRegistry) := do
  let (emitted, error, names) ← g.claimAndEmit store names due
  return ((⟨remarks, emitted.map Prod.fst, error⟩, emitted), names)

/-- The share of the second pass: all other artifacts of a model that has them. -/
def emitPipeline (store : Store m) (a : Assembly) (names : NameRegistry) :
    OptionT m ((Share × List (Spec × Emission)) × NameRegistry) :=
  if a.model.traits.scrudBean then
    match a.pipeline with
    | .ok due => g.emitDue store a.pipelineRemarks names due
    | .error e => return (({ remarks := a.pipelineRemarks, error := some e }, []), names)
  else return (({}, []), names)

/-- The first pass of one model: an entity's predicate factory. -/
def emitFirst (store : Store m) (names : NameRegistry) (p : PlannedModel) :
    OptionT m (Emissions × NameRegistry) :=
  match p.assembly? with
  | none => return ({ planned := p }, names)
  | some a => do
    let due := if a.model.traits.entity then [a.predicatesSpec] else []
    let ((share, first), names) ← g.emitDue store [] names due
    return ({ planned := { p with first := share, error := share.error }, first }, names)

/-- The second pass of one model, which one that was stopped has no share in. -/
def emitSecond (store : Store m) (names : NameRegistry) (e : Emissions) :
    OptionT m (Emissions × NameRegistry) :=
  match e.planned.assembly?, e.planned.error with
  | some a, none => do
    let ((share, second), names) ← g.emitPipeline store a names
    return ({ e with planned := { e.planned with second := share, error := share.error }, second },
      names)
  | _, _ => return (e, names)

/-- Take models through a pass, one after the other. -/
def inTurn {α : Type} (pass : NameRegistry → α → OptionT m (Emissions × NameRegistry)) :
    NameRegistry → List α → OptionT m (List Emissions × NameRegistry)
  | names, [] => return ([], names)
  | names, model :: rest => do
    let (e, names) ← pass names model
    let (emissions, names) ← inTurn pass names rest
    return (e :: emissions, names)

/-- Take all models through the first pass, and then all of them through the second. -/
def emitModels (store : Store m) (c : Catalog) : OptionT m (List Emissions × NameRegistry) := do
  let models := c.entries.map (PlannedModel.ofEntry c.graph c.resolver.naming)
  let (emissions, names) ← inTurn (g.emitFirst store) g.names models
  inTurn (g.emitSecond store) names emissions

/-- The report on all models. -/
def reportOf (emissions : List Emissions) : RunReport := ⟨emissions.map Emissions.report⟩

/-- What is told of a run on models. -/
def runLog (manifest : Manifest) (c : Catalog) (emissions : List Emissions) : Log :=
  resolutionLog manifest c ++
    emissions.flatMap (fun e => shareLog e.planned.title e.planned.first e.first) ++
    emissions.flatMap (fun e => shareLog e.planned.title e.planned.second e.second) ++
    closingLog (reportOf emissions)

/-- Run on a manifest. A generator that has run does nothing more, and there must be models. -/
def run (store : Store m) (manifest : Manifest) : OptionT m (Result × Log × Generator) := do
  match g.phase with
  | .done =>
    let line := s!"Generation already ran in phase {g.phase.text}, ignoring re-entry"
    return (.alreadyRan, [⟨.warn, line⟩], g)
  | .idle =>
    if manifest.models.isEmpty then
      return (.refused (.nothingToGenerate "the manifest declares no models"), [], g.done g.names)
    else
      let c := g.catalog manifest
      let (emissions, names) ← g.emitModels store c
      return (.completed (reportOf emissions), runLog manifest c emissions, g.done names)

end Generator

end CrudScaffold
