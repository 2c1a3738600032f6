import CrudScaffold.Code.Tree

/-!
# Patterns, expressions and statements

What stands in constants and in the bodies of functions. Constants inside patterns and items inside
blocks are kept as their tokens. A `trailing` mark tells that a comma stands after the last member of
a list.
-/

namespace CrudScaffold.Code

mutual
/-- A pattern. -/
inductive Pat where
  | wild
  | rest
  | literal (negative : Bool) (text : String)
  /-- A constant block. -/
  | constant (block : Tokens)
  /-- The values between two constants, either of which may be empty. -/
  | range (first : Tokens) (isClosed : Bool) (last : Tokens)
  | binding (isRef isMut : Bool) (name : String) (sub : Option Pat)
  | path (path : Path)
  | tuple (elems : List Pat) (trailing : Bool)
  | tupleStruct (path : Path) (elems : List Pat) (trailing : Bool)
  | structure (path : Path) (fields : List FieldPat) (trailing : Bool) (rest : Option Attributes)
  | slice (elems : List Pat) (trailing : Bool)
  | reference (isMut : Bool) (pat : Pat)
  | paren (pat : Pat)
  | alternatives (leading : Bool) (cases : List Pat)
  | typed (pat : Pat) (type : Ty)
  | expansion (path : Path) (delimiter : Delimiter) (body : Tokens)
  | marked (attributes : Attributes) (pat : Pat)
  /-- A pattern that is kept as it is written. -/
  | verbatim (tokens : Tokens)

/-- The pattern of one field of a structure; a shorthand binds the field to its own name. -/
inductive FieldPat where
  | mk (attributes : Attributes) (member : Option String) (pattern : Pat)
end

/-- What a block is good for. -/
inductive BlockKind where
  | plain
  | unsafeBlock
  | constBlock
  | asyncBlock (isMove : Bool)
  | tryBlock
  deriving DecidableEq, Repr, Inhabited

/-- The keywords in front of a closure. -/
structure ClosureHead where
  binder : Binder
  isConst : Bool
  isStatic : Bool
  isAsync : Bool
  isMove : Bool

/-- The keywords by which control leaves an expression. -/
inductive JumpKind where
  | breaks
  | continues
  | returns
  | yields
  deriving DecidableEq, Repr, Inhabited

mutual
/-- An expression. -/
inductive Expr where
  | literal (text : String)
  | path (path : Path)
  | unary (op : Char) (operand : Expr)
  | binary (left : Expr) (op : String) (right : Expr)
  | range (first : Option Expr) (isClosed : Bool) (last : Option Expr)
  | cast (operand : Expr) (type : Ty)
  | reference (isMut : Bool) (operand : Expr)
  | address (isMut : Bool) (operand : Expr)
  | call (function : Expr) (args : List Expr) (trailing : Bool)
  | methodCall (receiver : Expr) (method : String) (turbofish : Args) (args : List Expr)
      (trailing : Bool)
  | field (base : Expr) (member : String)
  | index (base : Expr) (index : Expr)
  | attempt (operand : Expr)
  | await (operand : Expr)
  | paren (inner : Expr)
  | tuple (elems : List Expr) (trailing : Bool)
  | array (elems : List Expr) (trailing : Bool)
  | repeated (elem : Expr) (length : Expr)
  | structure (path : Path) (fields : List FieldInit) (trailing : Bool) (rest : FieldRest)
  | closure (head : ClosureHead) (inputs : List Pat) (trailing : Bool) (output : Option Ty)
      (body : Expr)
  | block (kind : BlockKind) (label : Option String) (inner : Attributes) (body : List Stmt)
  | condition (test : Expr) (consequent : List Stmt) (alternative : ElseBranch)
  | binds (pattern : Pat) (value : Expr)
  | choice (subject : Expr) (inner : Attributes) (arms : List Arm)
  | loop (label : Option String) (head : LoopHead) (inner : Attributes) (body : List Stmt)
  | jump (kind : JumpKind) (label : Option String) (value : Option Expr)
  | placeholder
  | expansion (path : Path) (delimiter : Delimiter) (body : Tokens)
  | marked (attributes : Attributes) (expr : Expr)
  /-- An expression that is kept as it is written. -/
  | verbatim (tokens : Tokens)

/-- What is done when a condition does not hold. -/
inductive ElseBranch where
  | none
  | block (body : List Stmt)
  | condition (test : Expr) (consequent : List Stmt) (alternative : ElseBranch)

/-- The value of one field of a structure; a shorthand leaves it out. -/
inductive FieldInit where
  | mk (attributes : Attributes) (name : String) (shorthand : Bool) (value : Expr)

/-- What gives the fields of a structure that are not listed. -/
inductive FieldRest where
  | none
  | dots
  | from (value : Expr)

/-- When a loop goes on. -/
inductive LoopHead where
  | forever
  | test (test : Expr)
  | each (pattern : Pat) (subject : Expr)

/-- One arm of a choice. -/
inductive Arm where
  | mk (attributes : Attributes) (pattern : Pat) (guard : Option Expr) (body : Expr) (comma : Bool)

/-- A statement. -/
inductive Stmt where
  | binding (attributes : Attributes) (pattern : Pat) (value : Option Expr)
      (otherwise : Option (List Stmt))
  | expr (value : Expr) (semicolon : Bool)
  | expansion (attributes : Attributes) (path : Path) (delimiter : Delimiter) (body : Tokens)
      (semicolon : Bool)
  /-- An item, as its tokens. -/
  | item (tokens : Tokens)
  | empty
end

namespace Expr

/-- An expression with attributes in front of it. One that is kept as it is written takes none. -/
def mark (attributes : Attributes) : Expr → Expr
  | .verbatim ts => .verbatim ts
  | .marked more e => .marked (attributes ++ more) e
  | e => if attributes.isEmpty then e else .marked attributes e

/-- An expression without the attributes in front of it. -/
def bare : Expr → Expr
  | .marked _ e => e
  | e => e

/-- Attributes in front of the leftmost operand. -/
def markLeftmost (attributes : Attributes) : Expr → Expr
  | .binary left o right => .binary (left.markLeftmost attributes) o right
  | .cast operand type => .cast (operand.markLeftmost attributes) type
  | e => e.mark attributes

/-- The expression is a range. -/
def isRange (e : Expr) : Bool :=
  match e.bare with
  | .range .. => true
  | _ => false

/-- The expression is a range with an end, which no operator can follow. -/
def isEndedRange (e : Expr) : Bool :=
  match e.bare with
  | .range _ _ (some _) => true
  | _ => false

/-- The expression is a block of some kind, so that no comma need follow it in an arm. -/
def endsItself (e : Expr) : Bool :=
  match e.bare with
  | .condition .. | .choice .. | .loop .. => true
  | .block (.asyncBlock _) .. => false
  | .block .. => true
  | _ => false

/-- No semicolon need follow the expression in a block. -/
def isStatement (e : Expr) : Bool :=
  match e.bare with
  | .expansion _ .brace _ => true
  | _ => e.endsItself

end Expr

end CrudScaffold.Code
