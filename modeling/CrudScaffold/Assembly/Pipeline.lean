import CrudScaffold.Assembly.Endpoints
import CrudScaffold.Assembly.Identity
import CrudScaffold.Assembly.Predicates
import CrudScaffold.Assembly.Storage
import CrudScaffold.Assembly.Transfer

/-!
# All artifacts of a model

The artifacts from DTO to controller in the order in which they are emitted. The predicate factory
stands apart: entities get it whether or not the rest is generated.
-/

namespace CrudScaffold.Assembly

variable (a : Assembly)

/-- The artifacts of the model besides its predicate factory. -/
def pipeline : Except GenerationError (List Spec) := do
  let repository ← a.repositorySpec
  return a.mapperSpecs ++ a.dtoSpecs ++ [a.idAdapterSpec, repository] ++ a.serviceSpecs ++
    a.controllerSpec?.toList

/-- What is worth telling while these artifacts are put together, up to a fault. Repository and
service both look at the relations. -/
def pipelineRemarks : List String :=
  match a.repositorySpec with
  | .error _ => []
  | .ok _ =>
    a.storageRemarks ++ (if a.model.generation.service then a.storageRemarks else []) ++
      a.controllerRemarks

end CrudScaffold.Assembly
