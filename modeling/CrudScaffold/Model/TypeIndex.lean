import CrudScaffold.Code.Reading
import CrudScaffold.Code.Tree.Element
import CrudScaffold.Manifest.Basic
import CrudScaffold.Name.Qualified

/-!
# The types that a manifest can refer to

Every type of a run by its qualified name. A reference with a path must name a type exactly. A simple
name means the type of that name in the namespace it is seen from, or else the only type of that
name anywhere.
-/

namespace CrudScaffold

open Text

/-- Where a type comes from. -/
inductive TypeOrigin where
  | model
  | dto
  | known
  deriving DecidableEq, Repr

/-- The types of a run with their origins; every name occurs once. -/
structure TypeIndex where
  entries : List (QualifiedName × TypeOrigin) := []
  deriving DecidableEq, Repr

namespace TypeIndex

/-- Change the origin of an indexed name, or append the name. -/
def put (name : QualifiedName) (origin : TypeOrigin) :
    List (QualifiedName × TypeOrigin) → List (QualifiedName × TypeOrigin)
  | [] => [(name, origin)]
  | (n, o) :: rest => if n = name then (n, origin) :: rest else (n, o) :: put name origin rest

/-- File a type; filing it again changes its origin. -/
def insert (index : TypeIndex) (name : QualifiedName) (origin : TypeOrigin) : TypeIndex :=
  ⟨put name origin index.entries⟩

/-- The origin of a type. -/
def origin? (index : TypeIndex) (name : QualifiedName) : Option TypeOrigin :=
  index.entries.lookup name

/-- The type is indexed. -/
def contains (index : TypeIndex) (name : QualifiedName) : Bool := (index.origin? name).isSome

/-- The type is declared as a model. -/
def isModel (index : TypeIndex) (name : QualifiedName) : Bool := index.origin? name == some .model

/-- The indexed types with this simple name. -/
def named (index : TypeIndex) (name : String) : List QualifiedName :=
  (index.entries.map Prod.fst).filter fun n => n.name == name

/-- A reference without blanks around it and without the crate it is seen from in front. -/
def dropCrate : List Char → List Char
  | 'c' :: 'r' :: 'a' :: 't' :: 'e' :: ':' :: ':' :: rest => dropCrate rest
  | cs => cs

/-- The type that a reference means when it is seen from a namespace. -/
def resolve (index : TypeIndex) (reference : String) (seenFrom : Namespace) : Option QualifiedName :=
  let chars := dropCrate (trim reference.toList)
  if containsSlice [':', ':'] chars then
    (QualifiedName.parse (.ofList chars)).filter index.contains
  else
    let name := String.ofList chars
    let here := seenFrom.qualify name
    if index.contains here then some here
    else
      match index.named name with
      | [only] => some only
      | _ => none

/-- The namespace in which a declared DTO lives: the given one, or the one beside its model. -/
def dtoSpace? (index : TypeIndex) (dto : Manifest.Dto) : Option Namespace :=
  match dto.space with
  | some space => some (.ofText space)
  | none => (index.resolve dto.model .root).map fun model => model.space.parent.child "dto"

/-- File the model of a declaration, if its path is a name. -/
def insertModel (index : TypeIndex) (m : Manifest.Model) : TypeIndex :=
  match QualifiedName.parse m.qualifiedName with
  | some name => index.insert name .model
  | none => index

/-- File a declared DTO, if its namespace is given or follows from its model. -/
def insertDto (index : TypeIndex) (dto : Manifest.Dto) : TypeIndex :=
  match index.dtoSpace? dto with
  | some space => index.insert (space.qualify dto.name) .dto
  | none => index

/-- File a type that exists elsewhere, if its path is a name. -/
def insertKnown (index : TypeIndex) (path : String) : TypeIndex :=
  match QualifiedName.parse path with
  | some name => index.insert name .known
  | none => index

/-- The index of a manifest and of the types known besides it: models come first, then DTOs, then
the other types. -/
def ofManifest (manifest : Manifest) (knownTypes : List String) : TypeIndex :=
  let models := manifest.models.foldl insertModel {}
  let dtos := manifest.dtos.foldl insertDto models
  knownTypes.foldl insertKnown dtos

end TypeIndex

/-- The path at the innermost place of a declared type. -/
def elementTypeName? (declared : String) : Option String :=
  Code.Ty.ofText? declared >>= Code.Ty.innermost

end CrudScaffold
