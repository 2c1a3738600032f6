import CrudScaffold.Model.Basic

/-!
# The models of a run

Resolved models in the order in which they were first put in, each name once. One model reaches
another when a chain of relation fields leads there through models of the graph.
-/

namespace CrudScaffold

/-- Resolved models, each name once. -/
structure ModelGraph where
  models : List Model := []
  deriving DecidableEq, Repr

namespace ModelGraph

/-- Replace the model of the same name, or append. -/
def put (model : Model) : List Model → List Model
  | [] => [model]
  | m :: rest => if m.name = model.name then model :: rest else m :: put model rest

/-- Put a model in; one of the same name is replaced where it stands. -/
def insert (graph : ModelGraph) (model : Model) : ModelGraph := ⟨put model graph.models⟩

/-- The model of a name. -/
def get? (graph : ModelGraph) (name : QualifiedName) : Option Model :=
  graph.models.find? fun m => m.name == name

/-- The names in order. -/
def order (graph : ModelGraph) : List QualifiedName := graph.models.map Model.name

/-- The number of models. -/
def size (graph : ModelGraph) : Nat := graph.models.length

/-- The types that the relation fields of a model of the graph lead to. -/
def related (graph : ModelGraph) (name : QualifiedName) : List QualifiedName :=
  match graph.get? name with
  | some m => m.relatedTypes
  | none => []

/-- The names out of `unvisited` that can be reached from `pending` without leaving `unvisited`. -/
def visit (graph : ModelGraph) (unvisited pending : List QualifiedName) : List QualifiedName :=
  match _found : pending.find? fun n => unvisited.contains n with
  | none => []
  | some n => n :: graph.visit (unvisited.erase n) (graph.related n ++ pending)
termination_by unvisited.length
decreasing_by
  have hn : n ∈ unvisited := by simpa using List.find?_some _found
  have := List.length_erase_of_mem hn
  have := List.length_pos_of_mem hn
  omega

/-- One name can be reached from another through relation fields. Every name reaches itself. -/
def reaches (graph : ModelGraph) (source goal : QualifiedName) : Bool :=
  source == goal ||
    (graph.visit graph.order [source]).any fun n => (graph.related n).contains goal

/-- The identifier type of a model of the graph, unless it is composite. -/
def scalarIdType? (graph : ModelGraph) (name : QualifiedName) : Option String :=
  match graph.get? name with
  | some { identifier := { kind := .scalar idType, .. }, .. } => some idType
  | _ => none

end ModelGraph

end CrudScaffold
