import CrudScaffold.Code.Grammar.Expr
import CrudScaffold.Code.Item.Tokens

/-!
# Reading statements
-/

namespace CrudScaffold.Code

open Reads

namespace Grammar

variable (g : Grammar)

/-- A statement is an item, by the words that it starts with. -/
def startsDeclaration (ts : Tokens) : Bool :=
  let second := ts.drop 1
  let third := ts.drop 2
  startsOneOf ["pub", "extern", "use", "fn", "mod", "type", "struct", "enum", "trait", "impl",
    "macro"] ts ||
  (startsWord "crate" ts && !startsOp "::" second) ||
  (startsWord "static" ts && (startsWord "mut" second || startsName second)) ||
  (startsWord "const" ts &&
    !(startsOpening .brace second || startsOneOf ["static", "move"] second || startsOp "|" second ||
      (startsWord "async" second && !startsOneOf ["unsafe", "extern", "fn"] third))) ||
  (startsWord "unsafe" ts && !startsOpening .brace second) ||
  (startsWord "async" ts && startsOneOf ["unsafe", "extern", "fn"] second) ||
  (startsWord "union" ts && startsName second) ||
  (startsWord "auto" ts && startsWord "trait" second) ||
  (startsWord "default" ts && startsOneOf ["unsafe", "impl"] second)

/-- The stream behind a path of names, if it starts with one. -/
def afterModPath? (ts : Tokens) : Option Tokens := (modPath ts).map Prod.snd

/-- An expansion that declares a name starts here. -/
def startsNamedExpansion (ts : Tokens) : Bool :=
  match afterModPath? ts with
  | some rest => startsOp "!" rest && (startsName (rest.drop 1) || startsWord "try" (rest.drop 1))
  | none => false

/-- An expansion in braces starts here that is a statement of its own. -/
def startsBraceExpansion (ts : Tokens) : Bool :=
  match afterModPath? ts with
  | some rest =>
    let behind := afterFirst (rest.drop 1)
    startsOp "!" rest && startsOpening .brace (rest.drop 1) && !startsDot behind &&
      !startsOp "?" behind
  | none => false

/-- An expansion that is a statement of its own. -/
def expansionStatement (attributes : Attributes) : Reads Stmt := do
  let path ← modPath
  op "!"
  let (d, body) ← group
  return .expansion attributes path d body (← tryOp ";")

/-- The last of some tokens closes a block. -/
def endsWithBrace (ts : Tokens) : Bool := ts.getLast? == some (.closing .brace)

/-- A statement that binds names. -/
def bindingStatement (attributes : Attributes) : Reads Stmt := do
  word "let"
  let p ← g.pattern
  let pattern ← if ← tryOp ":" then pure (Pat.typed p (← g.type true)) else pure p
  let (value, otherwise) ← if ← tryOp "=" then do
      let (e, raw) ← taken (g.expr true)
      let otherwise ←
        if !endsWithBrace raw && (← peek (startsWord "else")) then do
          word "else"
          some <$> g.block
        else pure none
      pure (some e, otherwise)
    else pure (none, none)
  op ";"
  return .binding attributes pattern value otherwise

/-- A statement that is an expression. -/
def exprStatement (attributes : Attributes) : Reads Stmt := do
  let e := (← g.early).markLeftmost attributes
  let semicolon ← tryOp ";"
  let (given, inner) := match e with
    | .marked given inner => (given, inner)
    | e => ([], e)
  match inner with
  | .expansion path d body =>
    if semicolon || d == .brace then return .expansion given path d body semicolon
    else return .expr e semicolon
  | _ => return .expr e semicolon

/-- A statement. -/
def statement : Reads Stmt := do
  let start ← get
  let attributes ← g.attributes
  if ← peek startsNamedExpansion then
    set start
    return .item (← g.item).tokens
  if ← peek startsBraceExpansion then expansionStatement attributes
  else if ← peek (startsWord "let") then g.bindingStatement attributes
  else if ← peek startsDeclaration then
    set start
    return .item (← g.item).tokens
  else g.exprStatement attributes

/-- Something must separate the statement from the next one. -/
def needsSeparator : Stmt → Bool
  | .expr e false => !e.isStatement
  | .expansion _ _ d _ false => d != .brace
  | _ => false

/-- Statements up to the end of a block. -/
def statementList : Nat → Reads (List Stmt)
  | 0 => refuse
  | fuel + 1 => do
    if ← tryOp ";" then return .empty :: (← statementList fuel)
    if ← peek atEnd then return []
    let s ← g.statement
    if ← peek atEnd then return [s]
    if needsSeparator s then refuse
    return s :: (← statementList fuel)

end Grammar

end CrudScaffold.Code
