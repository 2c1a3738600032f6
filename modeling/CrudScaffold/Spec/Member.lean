import CrudScaffold.Codec.Arity
import CrudScaffold.Name.Qualified
import CrudScaffold.Spec.EntityGraph

/-!
# Members of an artifact

What an artifact consists of, without a commitment to the syntax it is written in: fields,
operations, dependencies on other artifacts, an identifier contract, a fetch plan and constants.
-/

namespace CrudScaffold

/-- The type of a field, parameter or result. -/
inductive TypeRef where
  /-- A type as the manifest writes it. -/
  | declared (text : String)
  /-- A model or a generated type. -/
  | named (name : QualifiedName)
  /-- The text form of an identifier. -/
  | text
  /-- An item of the runtime crate. -/
  | runtime (item : String)
  | list (inner : TypeRef)
  | optional (inner : TypeRef)
  deriving DecidableEq, Repr, Inhabited

/-- The optional form of a type; an optional type stays as it is. -/
def TypeRef.toOptional : TypeRef → TypeRef
  | .optional inner => .optional inner
  | t => .optional t

/-- A field of a generated structure. -/
structure FieldMember where
  name : String
  type : TypeRef
  /-- The field of the model that it shows. -/
  sourceField : Option String
  deriving DecidableEq, Repr

/-- What another artifact is needed for. -/
inductive DependencyRole where
  | repository
  | service
  | mapper
  | idAdapter
  /-- A declared delegate. -/
  | base
  deriving DecidableEq, Repr

/-- The name of a role. -/
def DependencyRole.text : DependencyRole → String
  | .repository => "Repository"
  | .service => "Service"
  | .mapper => "Mapper"
  | .idAdapter => "IdAdapter"
  | .base => "Base"

/-- Another artifact or type that an artifact calls into. -/
structure Dependency where
  role : DependencyRole
  type : TypeRef
  deriving DecidableEq, Repr

/-- One slot of a composite identifier. -/
structure CodecSlot where
  /-- The name of the slot on the composite value. -/
  slot : String
  entity : QualifiedName
  idType : String
  deriving DecidableEq, Repr

/-- How an identifier is written as a text. -/
inductive CodecContract where
  | scalar (idType : String)
  | composite (separator : Char) (arity : Arity) (slots : List CodecSlot)
  deriving DecidableEq, Repr

/-- The identifier type that an adapter publishes. -/
structure IdentifierContract where
  /-- The alias of the identifier type. -/
  aliasName : QualifiedName
  modelField : String
  codec : CodecContract
  deriving DecidableEq, Repr

/-- A named text. -/
structure Constant where
  name : String
  value : String
  deriving DecidableEq, Repr

/-! ## Operations -/

/-- How a parameter is passed. -/
inductive ParamMode where
  | owned
  | ref
  | refMut
  deriving DecidableEq, Repr

/-- A parameter of an operation. -/
structure Param where
  name : String
  type : TypeRef
  mode : ParamMode := .owned
  deriving DecidableEq, Repr

/-- What an operation gives back. -/
inductive Returns where
  | unit
  | value (type : TypeRef)
  | optional (type : TypeRef)
  | many (type : TypeRef)
  | count
  | flag
  deriving DecidableEq, Repr

/-- The error of an operation that can fail. -/
inductive Failure where
  /-- The error type of the runtime crate. -/
  | runtime
  /-- A malformed identifier. -/
  | malformed
  deriving DecidableEq, Repr

/-- What a query selects. -/
inductive QueryShape where
  | byId
  | all
  | count
  | existsById
  /-- Instances of the related type whose reverse field leads to the given owner. -/
  | directEquality (root : QualifiedName) (reverseField : String) (reverseIsCollection : Bool)
  /-- The instance joined to the owner by a field. -/
  | join (root : QualifiedName) (joinField : String) (target : QualifiedName)
  deriving DecidableEq, Repr

/-- A query. -/
structure Query where
  shape : QueryShape
  /-- Leave soft-deleted rows out. -/
  notDisabled : Bool
  deriving DecidableEq, Repr

/-- A change to stored instances. -/
inductive Persist where
  | save
  /-- Copy the fields of a delta that are not absent onto the stored instance. -/
  | patch
  | deleteById (soft : Bool)
  | deleteAll (soft : Bool)
  deriving DecidableEq, Repr

/-- Which way a mapping goes. -/
inductive MapDirection where
  | toDto
  /-- Build a new model. -/
  | toModel
  /-- Copy onto a model that is there. -/
  | ontoModel
  deriving DecidableEq, Repr

/-- How a field is carried over. -/
inductive Conversion where
  | direct
  /-- Through the mapper of the related model. -/
  | embed (mapper : QualifiedName)
  | embedList (mapper : QualifiedName)
  /-- As the encoded identifier of the related model. -/
  | reference
  | referenceList
  deriving DecidableEq, Repr

/-- A field that a mapping carries over. -/
structure FieldCopy where
  field : String
  conversion : Conversion
  deriving DecidableEq, Repr

/-- A mapping between a model and a DTO. -/
structure Mapping where
  direction : MapDirection
  model : QualifiedName
  dto : QualifiedName
  idField : String
  idAdapter : QualifiedName
  copies : List FieldCopy
  deriving DecidableEq, Repr

/-- The two ways of an identifier adapter. -/
inductive CodecOperation where
  | encode
  | decode
  deriving DecidableEq, Repr

/-- What kind of values a predicate compares with. -/
inductive OperandCategory where
  | text
  | comparable
  | boolean
  | relationId
  | collectionMembership
  | embedded
  deriving DecidableEq, Repr

/-- All categories. -/
def OperandCategory.all : List OperandCategory :=
  [.text, .comparable, .boolean, .relationId, .collectionMembership, .embedded]

/-- The name of a category. -/
def OperandCategory.name : OperandCategory → String
  | .text => "text"
  | .comparable => "comparable"
  | .boolean => "boolean"
  | .relationId => "relation-id"
  | .collectionMembership => "collection-membership"
  | .embedded => "embedded"

/-- The operators of predicates. -/
inductive Operator where
  | eq
  | notEq
  | lt
  | lte
  | gt
  | gte
  | like
  | notLike
  | isIn
  | notIn
  | isNull
  | isNotNull
  | contains
  deriving DecidableEq, Repr

/-- All operators. -/
def Operator.all : List Operator :=
  [.eq, .notEq, .lt, .lte, .gt, .gte, .like, .notLike, .isIn, .notIn, .isNull, .isNotNull, .contains]

/-- The name of an operator. -/
def Operator.name : Operator → String
  | .eq => "Eq"
  | .notEq => "NotEq"
  | .lt => "Lt"
  | .lte => "Lte"
  | .gt => "Gt"
  | .gte => "Gte"
  | .like => "Like"
  | .notLike => "NotLike"
  | .isIn => "In"
  | .notIn => "NotIn"
  | .isNull => "IsNull"
  | .isNotNull => "IsNotNull"
  | .contains => "Contains"

/-- The operators that a predicate over a category accepts. -/
def OperandCategory.operators : OperandCategory → List Operator
  | .text => [.eq, .notEq, .like, .notLike, .isIn, .notIn, .isNull, .isNotNull]
  | .comparable =>
    [.eq, .notEq, .lt, .lte, .gt, .gte, .isIn, .notIn, .isNull, .isNotNull]
  | .boolean => [.eq, .notEq, .isNull, .isNotNull]
  | .relationId => [.eq, .notEq, .isIn, .notIn, .isNull, .isNotNull]
  | .collectionMembership => [.contains, .isNull, .isNotNull]
  | .embedded => [.eq, .notEq, .isNull, .isNotNull]

/-- Methods of requests. -/
inductive HttpMethod where
  | get
  | post
  | patch
  | delete
  deriving DecidableEq, Repr

/-- The name of a method. -/
def HttpMethod.text : HttpMethod → String
  | .get => "GET"
  | .post => "POST"
  | .patch => "PATCH"
  | .delete => "DELETE"

/-- Where a handler answers. -/
structure Route where
  method : HttpMethod
  /-- The path below the base path of the controller. -/
  path : String
  deriving DecidableEq, Repr

/-- What a handler does. -/
inductive HandlerShape where
  | getById
  | list
  | count
  | exists
  | create
  | patch
  | delete
  /-- Give the related instance of a to-one relation, through its mapper if there is one. -/
  | related (mapper : Option QualifiedName)
  deriving DecidableEq, Repr

/-- A handler and the service operation that it calls. -/
structure Handler where
  shape : HandlerShape
  serviceOperation : String
  deriving DecidableEq, Repr

/-- What an operation does. -/
inductive OperationBody where
  /-- Nothing is said; others implement it. -/
  | abstract
  | query (query : Query)
  | persist (persist : Persist)
  /-- Call an operation of a dependency. -/
  | delegate (role : DependencyRole) (operation : String)
  | map (mapping : Mapping)
  | codec (operation : CodecOperation)
  /-- Compare the attribute at a path. -/
  | predicate (path : String) (operand : OperandCategory)
  | handle (handler : Handler)
  deriving DecidableEq, Repr

/-- An operation. -/
structure Operation where
  name : String
  params : List Param := []
  returns : Returns := .unit
  failure : Option Failure := none
  body : OperationBody
  route : Option Route := none
  doc : Option String := none
  deriving DecidableEq, Repr

/-- A member of an artifact. -/
inductive Member where
  | field (field : FieldMember)
  | operation (operation : Operation)
  | dependency (dependency : Dependency)
  | identifier (contract : IdentifierContract)
  | entityGraph (graph : EntityGraph)
  | constant (constant : Constant)
  deriving Repr

end CrudScaffold
