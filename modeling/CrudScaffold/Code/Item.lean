import CrudScaffold.Code.Expr

/-!
# Items

What a file or a block declares: structures, traits, implementations, functions and so on. The members
of a trait, an implementation, a module or a foreign block are items as well. A `trailing` mark tells
that a comma (or plus) stands after the last member of a list.
-/

namespace CrudScaffold.Code

/-- From where an item can be seen. -/
inductive Visibility where
  | inherited
  | everywhere
  /-- Below a path; `hasIn` when its keyword is written. -/
  | within (hasIn : Bool) (path : Path)

/-- A condition on the parameters of an item. -/
inductive WherePredicate where
  | lifetime (name : String) (bounds : List String) (trailing : Bool)
  | type (binder : Binder) (type : Ty) (bounds : List Bound) (trailing : Bool)

/-- The parameters of an item and the conditions on them. -/
structure Generics where
  params : List Param := []
  trailing : Bool := false
  conditions : List WherePredicate := []
  conditionsTrailing : Bool := false

/-- A field of a structure; one between round brackets has no name. -/
structure FieldItem where
  attributes : Attributes
  visibility : Visibility
  name : Option String
  type : Ty

/-- The fields of a structure or a variant. -/
inductive Fields where
  | unit
  | named (fields : List FieldItem) (trailing : Bool)
  | unnamed (fields : List FieldItem) (trailing : Bool)

/-- One variant of an enumeration. -/
structure Variant where
  attributes : Attributes
  name : String
  fields : Fields
  discriminant : Option Expr

/-- An input of a function. -/
inductive FunctionInput where
  /-- The value itself: by reference with an optional lifetime, or with a type of its own. -/
  | receiver (attributes : Attributes) (reference : Option (Option String)) (isMut : Bool)
      (type : Option Ty)
  | typed (attributes : Attributes) (pattern : Pat) (type : Ty)

/-- The open end of the inputs of a function. -/
structure OpenInput where
  attributes : Attributes
  pattern : Option Pat
  comma : Bool

/-- The signature of a function. -/
structure Signature where
  isConst : Bool
  isAsync : Bool
  isUnsafe : Bool
  abi : Option (Option String)
  name : String
  generics : Generics
  inputs : List FunctionInput
  trailing : Bool
  openEnd : Option OpenInput
  output : Option Ty

/-- What an import brings in. -/
inductive UseTree where
  | path (name : String) (tree : UseTree)
  | name (name : String)
  | rename (name other : String)
  | glob
  | group (trees : List UseTree) (trailing : Bool)

mutual
/-- An item with the attributes in front of it and inside it. -/
inductive Item where
  | mk (attributes inner : Attributes) (visibility : Visibility) (kind : ItemKind)

/-- What an item declares. -/
inductive ItemKind where
  | structure (isUnion : Bool) (name : String) (generics : Generics) (fields : Fields)
  | enumeration (name : String) (generics : Generics) (variants : List Variant) (trailing : Bool)
  /-- A type of another name; its conditions stand in front of the definition. -/
  | synonym (name : String) (generics : Generics) (type : Ty)
  /-- A type that belongs to a trait; its conditions stand behind the definition. -/
  | associated (isDefault : Bool) (name : String) (generics : Generics) (bounds : List Bound)
      (trailing : Bool) (definition : Option Ty)
  | trait (isUnsafe isAuto : Bool) (name : String) (generics : Generics) (bounds : List Bound)
      (trailing : Bool) (members : List Item)
  | traitAlias (name : String) (generics : Generics) (bounds : List Bound) (trailing : Bool)
  /-- An implementation, of a trait or of its negation if one is given. -/
  | implementation (isDefault isUnsafe : Bool) (generics : Generics)
      (trait : Option (Bool × Path)) (self : Ty) (members : List Item)
  /-- A function; one that is only declared has no body. -/
  | function (isDefault : Bool) (signature : Signature) (body : Option (List Stmt))
  | constant (isDefault : Bool) (name : String) (type : Ty) (value : Option Expr)
  | static (isMut : Bool) (name : String) (type : Ty) (value : Option Expr)
  | submodule (isUnsafe : Bool) (name : String) (items : Option (List Item))
  | foreign (isUnsafe : Bool) (abi : Option String) (members : List Item)
  | externCrate (name : String) (other : Option String)
  | use (isGlobal : Bool) (tree : UseTree)
  | expansion (path : Path) (name : Option String) (delimiter : Delimiter) (body : Tokens)
  /-- An item that is kept as it is written, with its attributes. -/
  | verbatim (tokens : Tokens)
end

end CrudScaffold.Code
