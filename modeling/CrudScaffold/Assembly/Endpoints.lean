import CrudScaffold.Assembly.Basic
import CrudScaffold.Assembly.Storage
import CrudScaffold.Text.WordCase

/-!
# Controllers

A handler reads the identifier from the path through the identifier adapter, calls the service and
shows the result through the mapper of the primary DTO. Routes are given below the base path of the
controller.
-/

namespace CrudScaffold.Assembly

open Text

variable (a : Assembly)

/-- What handlers take and give: the primary DTO, or the model itself. -/
def payload : TypeRef :=
  match a.model.primaryVariant? with
  | some v => .named (Naming.dtoName a.model v)
  | none => a.modelType

/-- The mapper of the primary DTO. -/
def payloadMapper : List Member :=
  a.model.primaryVariant?.toList.map fun v =>
    .dependency ⟨.mapper, .named (a.naming.mapperName a.model v)⟩

/-- The identifier as it stands in the path. -/
def rawId : Param := ⟨"id", .text, .ref⟩

/-- The handlers that every controller has. -/
def baselineHandlers : List Operation :=
  let payload := a.payload
  let body : Param := ⟨"body", payload, .owned⟩
  [{ name := "get", params := [rawId], returns := .optional payload,
     body := .handle ⟨.getById, "find_by_id"⟩, route := some ⟨.get, "/\x7bid\x7d"⟩ },
   { name := "list", returns := .many payload, body := .handle ⟨.list, "find_all"⟩,
     route := some ⟨.get, ""⟩ },
   { name := "count", returns := .count, body := .handle ⟨.count, "count"⟩,
     route := some ⟨.get, "/count"⟩ },
   { name := "exists", params := [rawId], returns := .flag,
     body := .handle ⟨.exists, "exists_by_id"⟩, route := some ⟨.get, "/\x7bid\x7d/exists"⟩ },
   { name := "create", params := [body], returns := .value payload,
     body := .handle ⟨.create, "save"⟩, route := some ⟨.post, ""⟩ },
   { name := "patch", params := [rawId, body], returns := .optional payload,
     body := .handle ⟨.patch, "patch"⟩, route := some ⟨.patch, "/\x7bid\x7d"⟩ },
   { name := "delete", params := [rawId], body := .handle ⟨.delete, "delete_by_id"⟩,
     route := some ⟨.delete, "/\x7bid\x7d"⟩ }]

/-- The handler that gives the related instance of a to-one relation. -/
def relatedHandler? (f : Model.Field) : Option Operation :=
  f.target.map fun target =>
    let shown := a.shownAs? target
    { name := "get_" ++ f.name
      params := [rawId]
      returns := .optional (.named ((shown.map Prod.fst).getD target))
      body := .handle ⟨.related (shown.map Prod.snd), Naming.finder f.name⟩
      route := some ⟨.get, "/\x7bid\x7d/" ++ kebabCase f.name⟩ }

/-- All handlers; each one can fail. -/
def handlers : List Operation :=
  let all := a.baselineHandlers ++ a.model.toOneRelations.filterMap a.relatedHandler?
  all.map fun o => { o with failure := some .runtime }

/-- The controller. -/
def controllerSpec : Spec where
  name := a.artifact .controller
  kind := .controller
  members :=
    [.constant ⟨"BASE_PATH", "/" ++ Naming.pathFragment a.model⟩,
     .dependency ⟨.service, .named (a.artifact .serviceInterface)⟩] ++
    a.payloadMapper ++
    [.dependency ⟨.idAdapter, .named (a.artifact .idAdapter)⟩] ++
    baseMembers a.model.generation.superclass.controller ++
    a.handlers.map .operation
  doc := s!"REST endpoints for [`{a.model.name}`]."
  source := a.model

/-- The controller, unless it is turned off or has no service to call. -/
def controllerSpec? : Option Spec :=
  if a.model.generation.controller && a.model.generation.service then some a.controllerSpec
  else none

/-- A controller that is left out for want of a service is told. -/
def controllerRemarks : List String :=
  if a.model.generation.controller && !a.model.generation.service then
    [s!"{a.model.name}: service generation is off, skipping the controller"]
  else []

end CrudScaffold.Assembly
