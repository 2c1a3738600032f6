import CrudScaffold.Code.Expr
import CrudScaffold.Code.Tree.Tokens

/-!
# Tokens of patterns, expressions and statements
-/

namespace CrudScaffold.Code

open Token

/-- The streams with a bar between each two. -/
def barred : List Tokens → Tokens
  | [] => []
  | [t] => t
  | t :: rest => t ++ op "|" ++ barred rest

/-- A member is a name, or the number of a position. -/
def memberTokens (member : String) : Tokens :=
  if isNumber member then [.literal member] else word member

/-- A stream if a condition holds. -/
def when (condition : Bool) (ts : Tokens) : Tokens := if condition then ts else []

mutual
/-- Tokens of a pattern. -/
def Pat.tokens : Pat → Tokens
  | .wild => word "_"
  | .rest => op ".."
  | .literal negative s => when negative (op "-") ++ [.literal s]
  | .constant block => block
  | .range first isClosed last => first ++ op (if isClosed then "..=" else "..") ++ last
  | .binding isRef isMut name sub =>
    when isRef (word "ref") ++ when isMut (word "mut") ++ word name ++
      match sub with
      | some p => op "@" ++ p.tokens
      | none => []
  | .path path => path.tokens
  | .tuple elems trailing => enclose .paren (commas trailing (patTokens elems))
  | .tupleStruct path elems trailing =>
    path.tokens ++ enclose .paren (commas trailing (patTokens elems))
  | .structure path fields trailing rest =>
    path.tokens ++
      enclose .brace
        (withOpenEnd (fieldPatTokens fields) trailing
          (rest.map fun attributes => attributesTokens attributes ++ op ".."))
  | .slice elems trailing => enclose .bracket (commas trailing (patTokens elems))
  | .reference isMut pat => op "&" ++ when isMut (word "mut") ++ pat.tokens
  | .paren pat => enclose .paren pat.tokens
  | .alternatives leading cases => when leading (op "|") ++ barred (patTokens cases)
  | .typed pat type => pat.tokens ++ op ":" ++ type.tokens
  | .expansion path delimiter body => path.tokens ++ op "!" ++ enclose delimiter body
  | .marked attributes pat => attributesTokens attributes ++ pat.tokens
  | .verbatim ts => ts

/-- Tokens of each pattern. -/
def patTokens : List Pat → List Tokens
  | [] => []
  | p :: rest => p.tokens :: patTokens rest

/-- Tokens of the pattern of each field. -/
def fieldPatTokens : List FieldPat → List Tokens
  | [] => []
  | f :: rest => f.tokens :: fieldPatTokens rest

/-- Tokens of the pattern of one field. -/
def FieldPat.tokens : FieldPat → Tokens
  | .mk attributes member pattern =>
    attributesTokens attributes ++
      (match member with
        | some m => memberTokens m ++ op ":"
        | none => []) ++
      pattern.tokens
end

/-- Tokens in front of a block. -/
def BlockKind.tokens : BlockKind → Tokens
  | .plain => []
  | .unsafeBlock => word "unsafe"
  | .constBlock => word "const"
  | .asyncBlock isMove => word "async" ++ when isMove (word "move")
  | .tryBlock => word "try"

/-- Tokens in front of a closure. -/
def ClosureHead.tokens (h : ClosureHead) : Tokens :=
  h.binder.tokens ++ when h.isConst (word "const") ++ when h.isStatic (word "static") ++
    when h.isAsync (word "async") ++ when h.isMove (word "move")

/-- The keyword of a jump. -/
def JumpKind.keyword : JumpKind → String
  | .breaks => "break"
  | .continues => "continue"
  | .returns => "return"
  | .yields => "yield"

/-- Tokens of a label in front of what it names. -/
def labelTokens : Option String → Tokens
  | some l => .lifetime l :: op ":"
  | none => []

mutual
/-- Tokens of an expression. -/
def Expr.tokens : Expr → Tokens
  | .literal s => if s == "true" || s == "false" then word s else [.literal s]
  | .path path => path.tokens
  | .unary c operand => [.punct c false] ++ operand.tokens
  | .binary left o right => left.tokens ++ op o ++ right.tokens
  | .range first isClosed last =>
    optTokens first ++ op (if isClosed then "..=" else "..") ++ optTokens last
  | .cast operand type => operand.tokens ++ word "as" ++ type.tokens
  | .reference isMut operand => op "&" ++ when isMut (word "mut") ++ operand.tokens
  | .address isMut operand =>
    op "&" ++ word "raw" ++ word (if isMut then "mut" else "const") ++ operand.tokens
  | .call function args trailing =>
    function.tokens ++ enclose .paren (commas trailing (exprTokens args))
  | .methodCall receiver method turbofish args trailing =>
    receiver.tokens ++ op "." ++ word method ++ turbofish.tokens ++
      enclose .paren (commas trailing (exprTokens args))
  | .field base member => base.tokens ++ op "." ++ memberTokens member
  | .index base index => base.tokens ++ enclose .bracket index.tokens
  | .attempt operand => operand.tokens ++ op "?"
  | .await operand => operand.tokens ++ op "." ++ word "await"
  | .paren inner => enclose .paren inner.tokens
  | .tuple elems trailing => enclose .paren (commas trailing (exprTokens elems))
  | .array elems trailing => enclose .bracket (commas trailing (exprTokens elems))
  | .repeated elem length => enclose .bracket (elem.tokens ++ op ";" ++ length.tokens)
  | .structure path fields trailing rest =>
    path.tokens ++
      enclose .brace (withOpenEnd (fieldTokens fields) trailing rest.tokens)
  | .closure head inputs trailing output body =>
    head.tokens ++ op "|" ++ commas trailing (patTokens inputs) ++ op "|" ++
      outputTokens output ++ body.tokens
  | .block kind label inner body =>
    labelTokens label ++ kind.tokens ++
      enclose .brace (innerAttributesTokens inner ++ stmtTokens body)
  | .condition test consequent alternative =>
    word "if" ++ test.tokens ++ enclose .brace (stmtTokens consequent) ++ alternative.tokens
  | .binds pattern value => word "let" ++ pattern.tokens ++ op "=" ++ value.tokens
  | .choice subject inner arms =>
    word "match" ++ subject.tokens ++
      enclose .brace (innerAttributesTokens inner ++ armTokens arms)
  | .loop label head inner body =>
    labelTokens label ++ head.tokens ++
      enclose .brace (innerAttributesTokens inner ++ stmtTokens body)
  | .jump kind label value =>
    word kind.keyword ++ (match label with | some l => [Token.lifetime l] | none => []) ++
      optTokens value
  | .placeholder => word "_"
  | .expansion path delimiter body => path.tokens ++ op "!" ++ enclose delimiter body
  | .marked attributes expr =>
    attributesTokens attributes ++
      if expr.isRange then enclose .paren expr.tokens else expr.tokens
  | .verbatim ts => ts

/-- Tokens of an optional expression. -/
def optTokens : Option Expr → Tokens
  | none => []
  | some e => e.tokens

/-- Tokens of what is done when a condition does not hold. -/
def ElseBranch.tokens : ElseBranch → Tokens
  | .none => []
  | .block body => word "else" ++ enclose .brace (stmtTokens body)
  | .condition test consequent alternative =>
    word "else" ++ word "if" ++ test.tokens ++ enclose .brace (stmtTokens consequent) ++
      alternative.tokens

/-- Tokens of each expression. -/
def exprTokens : List Expr → List Tokens
  | [] => []
  | e :: rest => e.tokens :: exprTokens rest

/-- Tokens of each field of a structure. -/
def fieldTokens : List FieldInit → List Tokens
  | [] => []
  | f :: rest => f.tokens :: fieldTokens rest

/-- Tokens of one field of a structure. -/
def FieldInit.tokens : FieldInit → Tokens
  | .mk attributes name shorthand value =>
    attributesTokens attributes ++
      if shorthand then word name else memberTokens name ++ op ":" ++ value.tokens

/-- Tokens of what gives the other fields. -/
def FieldRest.tokens : FieldRest → Option Tokens
  | .none => none
  | .dots => some (op "..")
  | .from value => some (op ".." ++ value.tokens)

/-- Tokens in front of the block of a loop. -/
def LoopHead.tokens : LoopHead → Tokens
  | .forever => word "loop"
  | .test test => word "while" ++ test.tokens
  | .each pattern subject => word "for" ++ pattern.tokens ++ word "in" ++ subject.tokens

/-- Tokens of the arms of a choice. -/
def armTokens : List Arm → Tokens
  | [] => []
  | a :: rest => a.tokens ++ armTokens rest

/-- Tokens of one arm. -/
def Arm.tokens : Arm → Tokens
  | .mk attributes pattern guard body comma =>
    attributesTokens attributes ++ pattern.tokens ++
      (match guard with
        | some g => word "if" ++ g.tokens
        | none => []) ++
      op "=>" ++ body.tokens ++ when comma (op ",")

/-- Tokens of the statements of a block. -/
def stmtTokens : List Stmt → Tokens
  | [] => []
  | s :: rest => s.tokens ++ stmtTokens rest

/-- Tokens of a statement. -/
def Stmt.tokens : Stmt → Tokens
  | .binding attributes pattern value otherwise =>
    attributesTokens attributes ++ word "let" ++ pattern.tokens ++
      (match value with
        | some e => op "=" ++ e.tokens
        | none => []) ++
      (match otherwise with
        | some body => word "else" ++ enclose .brace (stmtTokens body)
        | none => []) ++
      op ";"
  | .expr value semicolon => value.tokens ++ when semicolon (op ";")
  | .expansion attributes path delimiter body semicolon =>
    attributesTokens attributes ++ path.tokens ++ op "!" ++ enclose delimiter body ++
      when semicolon (op ";")
  | .item ts => ts
  | .empty => op ";"
end

end CrudScaffold.Code
