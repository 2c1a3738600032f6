import CrudScaffold.Codec.Arity
import CrudScaffold.Manifest.Basic
import CrudScaffold.Name.Qualified

/-!
# Resolved models

A model whose references are resolved to qualified names. All artifacts of a model are derived from
it.
-/

namespace CrudScaffold

/-- What a field holds. -/
inductive RelationKind where
  /-- A plain value. -/
  | scalar
  /-- At most one instance of another model. -/
  | toOne
  /-- Any number of instances of another model. -/
  | toMany
  /-- A value with fields of its own. -/
  | embedded
  deriving DecidableEq, Repr

namespace RelationKind

/-- The kind that a cardinality declares, whatever the declared type looks like. -/
def ofCardinality : Option Cardinality → RelationKind
  | none | some .none => scalar
  | some .oneToOne | some .manyToOne => toOne
  | some .oneToMany | some .manyToMany => toMany
  | some .embedded => embedded

/-- The field leads to other models. -/
def isRelation : RelationKind → Bool
  | toOne | toMany => true
  | scalar | embedded => false

/-- The written form of the kind. -/
def text : RelationKind → String
  | scalar => "scalar"
  | toOne => "to-one"
  | toMany => "to-many"
  | embedded => "embedded"

end RelationKind

/-- The field of the related model that leads back to the owner. -/
structure ReverseField where
  name : String
  /-- The related model leads back to one owner, not to a collection of owners. -/
  oneToOne : Bool
  deriving DecidableEq, Repr

namespace Model

/-- A field of a resolved model. -/
structure Field where
  name : String
  declaredType : String
  relation : RelationKind := .scalar
  /-- The type that a relation or an embedded value leads to. -/
  target : Option QualifiedName := none
  reverse : Option ReverseField := none
  optional : Bool := false
  /-- The field was not declared but follows from a trait of the model. -/
  synthetic : Bool := false
  deriving DecidableEq, Repr

/-- A component of a composite identifier: an entity and the type of its own identifier. -/
structure Slot where
  entity : QualifiedName
  idType : String
  deriving DecidableEq, Repr

/-- The shape of an identifier. -/
inductive IdentifierKind where
  | scalar (idType : String)
  | composite (arity : Arity) (slots : List Slot)
  deriving DecidableEq, Repr

/-- The identifier field and its shape. -/
structure Identifier where
  field : String
  kind : IdentifierKind
  deriving DecidableEq, Repr

/-- The number of components of a composite identifier. -/
def Identifier.arity? (i : Identifier) : Option Arity :=
  match i.kind with
  | .scalar _ => none
  | .composite arity _ => some arity

/-- A DTO of the model. -/
structure DtoVariant where
  name : String
  space : Option Namespace := none
  /-- The fields it covers; all of them when absent. -/
  fields : Option (List String) := none
  deriving DecidableEq, Repr

/-- The variant covers a field. -/
def DtoVariant.includes (v : DtoVariant) (field : String) : Bool :=
  match v.fields with
  | none => true
  | some fields => fields.contains field

/-- Traits that decide which artifacts a model gets and what they hold. -/
structure Traits where
  entity : Bool
  scrudBean : Bool
  disableable : Bool
  audited : Bool
  deriving DecidableEq, Repr

end Model

/-- A resolved model. -/
structure Model where
  name : QualifiedName
  /-- The namespace in which generated siblings live. -/
  parentSpace : Namespace
  identifier : Model.Identifier
  fields : List Model.Field
  variants : List Model.DtoVariant
  generation : Manifest.Generation
  traits : Model.Traits
  eagerFetch : List String
  deriving DecidableEq, Repr

namespace Model

/-- The simple name. -/
def simpleName (m : Model) : String := m.name.name

/-- The namespace of the model itself. -/
def space (m : Model) : Namespace := m.name.space

/-- The first field with this name. -/
def field? (m : Model) (name : String) : Option Field := m.fields.find? fun f => f.name == name

/-- Fields that lead to other models. -/
def relations (m : Model) : List Field := m.fields.filter fun f => f.relation.isRelation

/-- Fields that lead to at most one instance of another model. -/
def toOneRelations (m : Model) : List Field := m.fields.filter fun f => f.relation == .toOne

/-- The types that relation fields lead to. -/
def relatedTypes (m : Model) : List QualifiedName := m.relations.filterMap Field.target

/-- The variant that the DTOs of other models embed. -/
def primaryVariant? (m : Model) : Option DtoVariant := m.variants.head?

end Model

end CrudScaffold
