import CrudScaffold.Code.Token

/-!
# Types and paths

The types and paths of the Rust language, as they are written in a manifest and in generated code.
Constants and attributes inside a type are kept as their tokens. A `trailing` mark tells that a comma
(or plus) stands after the last member of a list.
-/

namespace CrudScaffold.Code

/-- Attributes, each as the tokens between its brackets. -/
abbrev Attributes := List Tokens

/-- The open end of the inputs of a function type. -/
structure OpenEnd where
  attributes : Attributes
  name : Option String
  comma : Bool
  deriving DecidableEq, Repr, Inhabited

mutual
/-- A path. -/
inductive Path where
  /-- Segments; `isGlobal` when a separator stands in front of them. -/
  | plain (isGlobal : Bool) (segments : List Segment)
  /-- `<self>::rest` -/
  | ofType (self : Ty) (rest : List Segment)
  /-- `<self as trait>::rest` -/
  | ofTrait (self : Ty) (trait : Path) (rest : List Segment)

/-- One segment of a path. -/
inductive Segment where
  | mk (name : String) (args : Args)

/-- The arguments of a segment. -/
inductive Args where
  | none
  /-- Between angle brackets; `turbo` when a separator stands in front of them. -/
  | angle (turbo : Bool) (args : List Arg) (trailing : Bool)
  /-- Between round brackets, with an optional result type. -/
  | call (inputs : List Ty) (trailing : Bool) (output : Option Ty)

/-- One argument between angle brackets. -/
inductive Arg where
  | lifetime (name : String)
  | type (type : Ty)
  | const (value : Tokens)
  | assocType (name : String) (args : Args) (type : Ty)
  | assocConst (name : String) (args : Args) (value : Tokens)
  | constraint (name : String) (args : Args) (bounds : List Bound) (trailing : Bool)

/-- A bound on a type. -/
inductive Bound where
  | lifetime (name : String)
  | trait (inParens relaxed : Bool) (binder : Binder) (path : Path)
  /-- The parameters that a hidden type uses: lifetimes and names. -/
  | captured (params : Tokens) (trailing : Bool)
  /-- A bound that is kept as it is written. -/
  | verbatim (tokens : Tokens)

/-- The parameters bound by `for`, if any. -/
inductive Binder where
  | none
  | params (params : List Param) (trailing : Bool)

/-- A parameter of an item or of a binder. -/
inductive Param where
  | lifetime (attributes : Attributes) (name : String) (bounds : List String) (trailing : Bool)
  | type (attributes : Attributes) (name : String) (bounds : List Bound) (trailing : Bool)
      (default : Option Ty)
  | const (attributes : Attributes) (name : String) (type : Ty) (default : Option Tokens)

/-- An input of a function type, with an optional name. -/
inductive Input where
  | mk (attributes : Attributes) (name : Option String) (type : Ty)

/-- A type. -/
inductive Ty where
  | path (path : Path)
  | reference (lifetime : Option String) (isMut : Bool) (elem : Ty)
  | pointer (isMut : Bool) (elem : Ty)
  | paren (elem : Ty)
  | tuple (elems : List Ty) (trailing : Bool)
  | slice (elem : Ty)
  | array (elem : Ty) (length : Tokens)
  | function (binder : Binder) (isUnsafe : Bool) (abi : Option (Option String))
      (inputs : List Input) (trailing : Bool) (openEnd : Option OpenEnd) (output : Option Ty)
  | object (dyn : Bool) (bounds : List Bound) (trailing : Bool)
  | existential (bounds : List Bound) (trailing : Bool)
  | never
  | infer
  | expansion (path : Path) (delimiter : Delimiter) (body : Tokens)
  /-- A type that is kept as it is written. -/
  | verbatim (tokens : Tokens)
end

end CrudScaffold.Code
