/-!
# Manifests

A manifest declares the models of an application with their fields, identifiers and generation flags,
the data transfer objects (DTOs) that expose them, and settings of the generator. It is the
generator's only input.
-/

namespace CrudScaffold

/-- How many instances stand on the two sides of a relation. -/
inductive Cardinality where
  | none
  | oneToOne
  | manyToOne
  | oneToMany
  | manyToMany
  | embedded
  deriving DecidableEq, Repr

/-- The cardinalities under the names by which a manifest writes them. -/
def Cardinality.named : List (String × Cardinality) :=
  [("none", .none), ("one-to-one", .oneToOne), ("many-to-one", .manyToOne),
   ("one-to-many", .oneToMany), ("many-to-many", .manyToMany), ("embedded", .embedded)]

/-- The name by which a manifest writes the cardinality. -/
def Cardinality.text : Cardinality → String
  | .none => "none"
  | .oneToOne => "one-to-one"
  | .manyToOne => "many-to-one"
  | .oneToMany => "one-to-many"
  | .manyToMany => "many-to-many"
  | .embedded => "embedded"

/-- At most one instance stands on the other side. -/
def Cardinality.isToOne : Cardinality → Bool
  | .oneToOne | .manyToOne => true
  | _ => false

namespace Manifest

/-- One declared component of a composite identifier. -/
structure Slot where
  entity : String
  idType : String := "String"
  deriving DecidableEq, Repr

/-- A declared identifier: a scalar type or a list of components. -/
structure Identifier where
  field : String := "id"
  type : Option String := none
  composite : Option (List Slot) := none
  deriving DecidableEq, Repr

/-- Types that generated artifacts carry as a delegate. -/
structure Superclasses where
  repository : Option String := none
  serviceImpl : Option String := none
  controller : Option String := none
  deriving DecidableEq, Repr

/-- What to generate for a model. -/
structure Generation where
  controller : Bool := true
  service : Bool := true
  pathFragment : Option String := none
  superclass : Superclasses := {}
  deriving DecidableEq, Repr

/-- A declared field of a model. -/
structure Field where
  name : String
  type : String
  cardinality : Option Cardinality := none
  /-- The related type, where the declared type does not tell. -/
  target : Option String := none
  bidirectional : Bool := false
  /-- The field of the related model that leads back. -/
  reverse : Option String := none
  optional : Bool := false
  deriving DecidableEq, Repr

/-- A declared model. -/
structure Model where
  name : String
  space : String
  entity : Bool := true
  scrudBean : Bool := true
  disableable : Bool := false
  audited : Bool := false
  dtos : List String := []
  eagerFetch : List String := []
  identifier : Option Identifier := none
  generate : Generation := {}
  fields : List Field := []
  deriving DecidableEq, Repr

/-- The path of the model as it was declared. -/
def Model.qualifiedName (m : Model) : String :=
  if m.space.isEmpty then m.name else m.space ++ "::" ++ m.name

/-- A declared DTO of a model. -/
structure Dto where
  name : String
  model : String
  space : Option String := none
  /-- The fields it covers; all of them when absent. -/
  fields : Option (List String) := none
  deriving DecidableEq, Repr

/-- Settings of the generator. -/
structure Generator where
  settings : List (String × String) := []
  knownTypes : List String := []
  runtimeCrate : Option String := none
  codecCrate : Option String := none
  deriving DecidableEq, Repr

end Manifest

/-- The declared models, DTOs and settings. -/
structure Manifest where
  generator : Manifest.Generator := {}
  models : List Manifest.Model := []
  dtos : List Manifest.Dto := []
  deriving DecidableEq, Repr

end CrudScaffold
