import CrudScaffold.Model.Graph
import CrudScaffold.Model.Resolution

/-!
# Catalogs

All models of a manifest, resolved in the order of their declaration, and the graph of those that
could be resolved. Of several models of one name only the first is in the graph.
-/

namespace CrudScaffold

/-- A declared model and what it was resolved to. -/
structure Catalog.Entry where
  declared : Manifest.Model
  result : Except GenerationError Model

/-- All models of a manifest. -/
structure Catalog where
  resolver : Resolver
  entries : List Catalog.Entry

namespace Catalog

/-- Resolve all models of a manifest. -/
def ofManifest (m : Manifest) (knownTypes : List String) (naming : Naming) (runtimeCrate : String) :
    Catalog :=
  let resolver : Resolver :=
    { index := TypeIndex.ofManifest m knownTypes, naming, dtos := m.dtos, runtimeCrate }
  { resolver
    entries := m.models.map fun declared =>
      ⟨declared, (resolver.resolve declared).mapError (.unresolvable declared)⟩ }

variable (c : Catalog)

/-- The models that could be resolved. -/
def models : List Model := c.entries.filterMap fun e => e.result.toOption

/-- Put a model into a graph unless there is one of its name. -/
def insertNew (g : ModelGraph) (m : Model) : ModelGraph :=
  if (g.get? m.name).isNone then g.insert m else g

/-- The graph of the models. -/
def graph : ModelGraph := c.models.foldl insertNew {}

/-- The first error of a model that could not be resolved. -/
def firstError? : Option GenerationError :=
  c.entries.findSome? fun e =>
    match e.result with
    | .error fault => some fault
    | .ok _ => none

/-- What is worth telling about a declared model while it is resolved. -/
def remarks (e : Entry) : List String := c.resolver.remarks e.declared

end Catalog

end CrudScaffold
