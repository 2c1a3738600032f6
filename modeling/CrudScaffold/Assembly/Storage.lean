import CrudScaffold.Assembly.Basic
import CrudScaffold.Error

/-!
# Repositories and services

A repository has the same baseline operations for every model and one lookup for each to-one
relation. The service declares the same operations, and its implementation hands each one on to the
repository. A repository may carry a fetch plan, whose paths must lead along relation fields.
-/

namespace CrudScaffold

open Text

/-- What is wrong with an attribute path of a fetch plan. -/
inductive AttributeFault where
  | emptySegment
  | noField (owner : QualifiedName) (segment : String)
  | notARelation (owner : QualifiedName) (segment : String)
  deriving DecidableEq, Repr

/-- The wording of a fault. -/
def AttributeFault.message : AttributeFault → String
  | .emptySegment => "empty path segment"
  | .noField owner segment => s!"'{owner}' has no field '{segment}'"
  | .notARelation owner segment => s!"'{segment}' on '{owner}' is not a relation"

namespace Assembly

variable (a : Assembly)

/-! ## Operations -/

/-- A query that leaves soft-deleted rows out if the model has any. -/
def query (shape : QueryShape) : OperationBody := .query ⟨shape, a.model.traits.disableable⟩

/-- The identifier passed by reference. -/
def idParam : Param := ⟨"id", a.idType, .ref⟩

/-- The operations that every repository has. -/
def baselineOperations : List Operation :=
  let model := a.modelType
  let soft := a.model.traits.disableable
  [{ name := "find_by_id", params := [a.idParam], returns := .optional model,
     body := a.query .byId },
   { name := "find_all", returns := .many model, body := a.query .all },
   { name := "count", returns := .count, body := a.query .count },
   { name := "exists_by_id", params := [a.idParam], returns := .flag,
     body := a.query .existsById },
   { name := "save", params := [⟨"entity", model, .owned⟩], returns := .value model,
     body := .persist .save },
   { name := "patch", params := [a.idParam, ⟨"delta", model, .owned⟩], returns := .optional model,
     body := .persist .patch,
     doc := some "Copy the non-absent fields of `delta` onto the persisted entity." },
   { name := "delete_by_id", params := [a.idParam], body := .persist (.deleteById soft) },
   { name := "delete_all", body := .persist (.deleteAll soft) }]

/-- How the related instance of a field is found from the identifier of its owner: directly when the
related side names the field that leads back, by a join otherwise. -/
def lookupShape? (f : Model.Field) : Option QueryShape :=
  f.target.map fun target =>
    match f.reverse with
    | some reverse => .directEquality target reverse.name (!reverse.oneToOne)
    | none => .join a.model.name f.name target

/-- The lookup that follows a to-one relation. -/
def finderOperation? (f : Model.Field) : Option Operation :=
  (a.lookupShape? f).map fun shape =>
    { name := Naming.finder f.name
      params := [a.idParam]
      returns := .optional (match f.target with
        | some target => .named target
        | none => .declared f.declaredType)
      body := a.query shape
      doc := some s!"Resolve the `{f.name}` of the {a.model.simpleName} with the given id." }

/-- The operations of the repository; each one can fail. -/
def storageOperations : List Operation :=
  let all := a.baselineOperations ++ a.model.toOneRelations.filterMap a.finderOperation?
  all.map fun o => { o with failure := some .runtime }

/-- A to-one relation without a target has no lookup, which is told. -/
def storageRemarks : List String :=
  let lost := a.model.toOneRelations.filter fun f => (a.lookupShape? f).isNone
  lost.map fun f =>
    s!"{a.model.name}.{f.name}: to-one relation without a target, no lookup generated"

/-! ## Fetch plans -/

/-- Follow the segments of an attribute path from an owner. The first segment and all that do not
end the path must be relations; what lies outside the graph is not checked. -/
def attributeFault? (first : Bool) (owner : Model) : List String → Option AttributeFault
  | [] => none
  | segment :: rest =>
    match owner.field? segment with
    | none => some (.noField owner.name segment)
    | some f =>
      if (first || !rest.isEmpty) && !f.relation.isRelation then
        some (.notARelation owner.name segment)
      else
        match f.target >>= a.graph.get? with
        | some next => attributeFault? false next rest
        | none => none

/-- The segments of an attribute path without blanks around them. -/
def attributeSegments (path : String) : List String :=
  (splitAtChar '.' path.toList).map fun s => .ofList (trim s)

/-- The fault of an attribute path. -/
def pathFault? (path : String) : Option AttributeFault :=
  let segments := attributeSegments path
  if segments.any String.isEmpty then some .emptySegment
  else a.attributeFault? true a.model segments

/-- The fetch plan of the model, if there is anything to fetch. -/
def fetchPlan : Except GenerationError (Option EntityGraph) := do
  a.model.eagerFetch.forM fun path =>
    match a.pathFault? path with
    | some fault => .error (.invalidAttributePath a.model.name.path path fault.message)
    | none => .ok ()
  let graph := EntityGraph.ofPaths a.model.eagerFetch
  return if graph.isEmpty then none else some graph

/-! ## Artifacts -/

/-- The dependency on a declared delegate. -/
def baseMembers (base : Option String) : List Member :=
  base.toList.map fun text => .dependency ⟨.base, .declared text⟩

/-- The repository. -/
def repositorySpec : Except GenerationError Spec := do
  let plan ← a.fetchPlan
  return {
    name := a.artifact .repository
    kind := .repository
    members :=
      baseMembers a.model.generation.superclass.repository ++ plan.toList.map .entityGraph ++
        a.storageOperations.map .operation
    doc := s!"Persistence operations for [`{a.model.name}`]."
    source := a.model }

/-- The service as others see it. -/
def serviceInterfaceSpec : Spec where
  name := a.artifact .serviceInterface
  kind := .serviceInterface
  members := a.storageOperations.map fun o => .operation { o with body := .abstract }
  doc := s!"Service operations for [`{a.model.name}`]."
  source := a.model

/-- The service that hands its operations on to the repository. -/
def serviceImplSpec : Spec where
  name := a.artifact .serviceImpl
  kind := .serviceImpl
  members :=
    [.dependency ⟨.service, .named (a.artifact .serviceInterface)⟩,
     .dependency ⟨.repository, .named (a.artifact .repository)⟩] ++
    baseMembers a.model.generation.superclass.serviceImpl ++
    a.storageOperations.map fun o => .operation { o with body := .delegate .repository o.name }
  doc := s!"Default [`{a.artifact .serviceInterface}`] implementation backed by the repository."
  source := a.model

/-- Interface and implementation of the service, unless services are turned off. -/
def serviceSpecs : List Spec :=
  if a.model.generation.service then [a.serviceInterfaceSpec, a.serviceImplSpec] else []

end Assembly

end CrudScaffold
