import CrudScaffold.Model.Graph
import CrudScaffold.Name.Naming
import CrudScaffold.Spec.Basic

/-!
# What the artifacts of a model are assembled from

The model itself, the graph of all models, and the naming. How a relation shows in a DTO is decided
here once, for DTOs and mappers alike.
-/

namespace CrudScaffold

/-- What the artifacts of one model are assembled from. -/
structure Assembly where
  model : Model
  graph : ModelGraph
  naming : Naming

/-- How a relation shows in a DTO. -/
inductive RelatedShape where
  /-- The DTO of the related model, carried over by its mapper. -/
  | embedded (dto mapper : QualifiedName)
  /-- The encoded identifier of the related model. -/
  | reference
  deriving DecidableEq, Repr

namespace Assembly

variable (a : Assembly)

/-- The name of the artifact of a kind. -/
def artifact (kind : ArtifactKind) : QualifiedName := a.naming.artifact a.model kind

/-- The model as a type. -/
def modelType : TypeRef := .named a.model.name

/-- The identifier of the model as a type. -/
def idType : TypeRef := .named (a.naming.idAliasName a.model)

/-- The DTO and mapper under which a model of the graph is shown. -/
def shownAs? (target : QualifiedName) : Option (QualifiedName × QualifiedName) :=
  match a.graph.get? target with
  | none => none
  | some related =>
    if related.traits.scrudBean then
      related.primaryVariant?.map fun v =>
        (Naming.dtoName related v, a.naming.mapperName related v)
    else none

/-- How a relation shows in a DTO. The related model is embedded only if it is shown through a DTO
and does not lead back here, so that DTO types never contain themselves. -/
def relatedShape (f : Model.Field) : RelatedShape :=
  match f.target with
  | none => .reference
  | some target =>
    if a.graph.reaches target a.model.name then .reference
    else
      match a.shownAs? target with
      | some (dto, mapper) => .embedded dto mapper
      | none => .reference

end Assembly

end CrudScaffold
