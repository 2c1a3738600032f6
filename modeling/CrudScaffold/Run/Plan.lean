import CrudScaffold.Assembly.Pipeline
import CrudScaffold.Model.Catalog
import CrudScaffold.Run.Log
import CrudScaffold.Run.Registry

/-!
# Plans

In a first pass of a run every entity claims the name of its predicate factory; in a second pass every
model that is still sound and has artifacts due claims the names of those in their order. The first name
that is taken stops its model. Which names these are does not depend on the store: so there is a plan,
which follows from the models alone, of what a run is going to emit.
-/

namespace CrudScaffold

/-- What a model emits in one pass. -/
structure Share where
  /-- What is told while the artifacts are put together. -/
  remarks : List String := []
  /-- The artifacts whose names were claimed. -/
  specs : List Spec := []
  /-- What stopped the model. -/
  error : Option GenerationError := none

namespace Share

/-- Claim the names of artifacts until one is taken. -/
def claimInOrder (names : NameRegistry) : List Spec → List Spec × Option GenerationError × NameRegistry
  | [] => ([], none, names)
  | s :: rest =>
    match names.claim? s.name with
    | none => ([], some (.duplicateArtifactName s.name), names)
    | some names =>
      let (taken, error, names) := claimInOrder names rest
      (s :: taken, error, names)

/-- The share of artifacts that are due. -/
def claim (remarks : List String) (names : NameRegistry) (due : List Spec) : Share × NameRegistry :=
  let (specs, error, names) := claimInOrder names due
  (⟨remarks, specs, error⟩, names)

/-- The share of the first pass: an entity's predicate factory. -/
def first (a : Assembly) (names : NameRegistry) : Share × NameRegistry :=
  if a.model.traits.entity then claim [] names [a.predicatesSpec] else ({}, names)

/-- The share of the second pass: all other artifacts of a model that has them. -/
def second (a : Assembly) (names : NameRegistry) : Share × NameRegistry :=
  if a.model.traits.scrudBean then
    match a.pipeline with
    | .ok due => claim a.pipelineRemarks names due
    | .error e => ({ remarks := a.pipelineRemarks, error := some e }, names)
  else ({}, names)

end Share

/-- A model on its way through a run. -/
structure PlannedModel where
  /-- The path under which it was declared. -/
  title : String
  /-- The model, unless it could not be resolved. -/
  assembly? : Option Assembly
  /-- What stopped it so far. -/
  error : Option GenerationError
  first : Share := {}
  second : Share := {}

namespace PlannedModel

/-- A model of a catalog before both passes. -/
def ofEntry (graph : ModelGraph) (naming : Naming) (e : Catalog.Entry) : PlannedModel :=
  match e.result with
  | .ok model => { title := e.declared.qualifiedName, assembly? := some ⟨model, graph, naming⟩,
                   error := none }
  | .error fault => { title := e.declared.qualifiedName, assembly? := none, error := some fault }

/-- The first pass of one model. -/
def passFirst (names : NameRegistry) (p : PlannedModel) : PlannedModel × NameRegistry :=
  match p.assembly? with
  | none => (p, names)
  | some a =>
    let (share, names) := Share.first a names
    ({ p with first := share, error := share.error }, names)

/-- The second pass of one model, which one that was stopped has no share in. -/
def passSecond (names : NameRegistry) (p : PlannedModel) : PlannedModel × NameRegistry :=
  match p.assembly?, p.error with
  | some a, none =>
    let (share, names) := Share.second a names
    ({ p with second := share, error := share.error }, names)
  | _, _ => (p, names)

/-- Take all models through a pass, one after the other. -/
def passAll (pass : NameRegistry → PlannedModel → PlannedModel × NameRegistry) :
    NameRegistry → List PlannedModel → List PlannedModel × NameRegistry
  | names, [] => ([], names)
  | names, p :: rest =>
    let (p, names) := pass names p
    let (rest, names) := passAll pass names rest
    (p :: rest, names)

end PlannedModel

namespace Catalog

variable (c : Catalog)

/-- The models after both passes, and the names that are claimed then. -/
def passes : List PlannedModel × NameRegistry :=
  let models := c.entries.map (PlannedModel.ofEntry c.graph c.resolver.naming)
  let (models, names) := PlannedModel.passAll PlannedModel.passFirst {} models
  PlannedModel.passAll PlannedModel.passSecond names models

/-- The models with what each of them emits. -/
def plan : List PlannedModel := c.passes.1

/-- The names that their artifacts claim. -/
def claimed : NameRegistry := c.passes.2

end Catalog

end CrudScaffold
