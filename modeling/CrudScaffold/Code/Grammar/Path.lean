import CrudScaffold.Code.Expr.Tokens
import CrudScaffold.Code.Grammar.Basic
import CrudScaffold.Code.Item

/-!
# Reading paths

What is read inside a path (types and bounds between angle brackets, constants) is left to a grammar
of the next level down, so that every reader here is an ordinary function.
-/

namespace CrudScaffold.Code

open Reads

/-- The readers of the parts that may stand inside one another. -/
structure Grammar where
  /-- A type; whether several bounds may be joined with a plus. -/
  type : Bool → Reads Ty
  /-- A bound; whether it may list captured parameters, and whether it may be constant. -/
  bound : Bool → Bool → Reads Bound
  /-- A pattern without alternatives. -/
  pattern : Reads Pat
  /-- An expression with operators in front of it; whether it may be a structure. -/
  operand : Bool → Reads Expr
  /-- Go on with operators that bind at least so strongly, after a first operand. -/
  climb : Bool → Nat → Expr → Reads Expr
  /-- An expression at the start of a statement or of the body of an arm. -/
  early : Reads Expr
  /-- Statements up to the end of a block. -/
  statements : Reads (List Stmt)
  /-- An item. -/
  item : Reads Item

namespace Grammar

/-- The grammar that refuses everything. -/
def refusing : Grammar where
  type _ := refuse
  bound _ _ := refuse
  pattern := refuse
  operand _ := refuse
  climb _ _ _ := refuse
  early := refuse
  statements := refuse
  item := refuse

variable (g : Grammar)

/-- An expression; whether it may be a structure. -/
def expr (structures : Bool) : Reads Expr := do
  g.climb structures 0 (← g.operand structures)

/-- The result type after an arrow. -/
def output (plus : Bool) : Reads (Option Ty) := do
  if ← tryOp "->" then return some (← g.type plus) else return none

/-! ## Paths of names -/

/-- The words that may stand for a segment besides names. -/
def segmentWords : List String := ["super", "self", "Self", "crate"]

/-- A segment of a path of names starts here. -/
def startsModSegment (ts : Tokens) : Bool := startsName ts || startsOneOf segmentWords ts

/-- Segments of a path of names. -/
def modSegments : Nat → Reads (List Segment)
  | 0 => refuse
  | fuel + 1 => do
    if !(← peek startsModSegment) then refuse
    let s := Segment.mk (← anyWord) .none
    if ← tryOp "::" then return s :: (← modSegments fuel) else return [s]

/-- A path of names without arguments. -/
def modPath : Reads Path := do
  let isGlobal ← tryOp "::"
  return .plain isGlobal (← modSegments (← rounds))

/-! ## Attributes -/

/-- The tokens between the brackets of an attribute: a path, alone or with bracketed tokens or a
value. -/
def attributeBody : Reads Tokens := do
  let path ← if ← tryWord "unsafe" then pure (Path.plain false [.mk "unsafe" .none]) else modPath
  if ← peek atEnd then return path.tokens
  if ← peek fun ts => startsOp "=" ts && !startsOp "==" ts && !startsOp "=>" ts then
    op "="
    if ← peek fun ts => startsOp "#" ts && startsOpening .bracket (ts.drop 1) then refuse
    return path.tokens ++ Token.op "=" ++ (← g.expr true).tokens
  let (d, inner) ← group
  return path.tokens ++ Token.enclose d inner

/-- An attribute in front of what it describes. -/
def outerAttribute : Reads Tokens := do
  op "#"
  enclosed .bracket g.attributeBody

/-- The attributes in front of what they describe. -/
def attributes : Reads Attributes := do manyWhile (startsOp "#") g.outerAttribute (← rounds)

/-- An attribute inside what it describes starts here. -/
def startsInner (ts : Tokens) : Bool := startsOp "#" ts && startsOp "!" (ts.drop 1)

/-- The attributes inside what they describe. -/
def innerAttributes : Reads Attributes := do
  manyWhile startsInner (do op "#"; op "!"; enclosed .bracket g.attributeBody) (← rounds)

/-! ## Constants -/

/-- A literal constant, with its sign. -/
def literalConstant : Reads Tokens := do
  if ← peek startsNegative then
    op "-"
    return Token.op "-" ++ [.literal (← literal)]
  let l ← literal
  return if l == "true" || l == "false" then [.ident l] else [.literal l]

/-- A literal, possibly with a minus, starts here. -/
def startsSignedLiteral (ts : Tokens) : Bool := startsLiteral ts || startsNegative ts

/-- A constant starts here that needs no type to stand for it. -/
def startsConstant (ts : Tokens) : Bool := startsSignedLiteral ts || startsOpening .brace ts

/-- What stands between the braces of a block that may have attributes inside. -/
def blockBody : Reads (Attributes × List Stmt) :=
  enclosed .brace do return (← g.innerAttributes, ← g.statements)

/-- A constant between angle brackets: a literal, a name or a block. -/
def constant : Reads Tokens := do
  if ← peek (startsOpening .brace) then
    let (inner, body) ← g.blockBody
    return (Expr.block .plain none inner body).tokens
  if ← peek startsSignedLiteral then literalConstant else return [.ident (← name)]

/-! ## Bounds and parameters -/

/-- Bounds with a plus between each two, up to a stop. -/
def boundsUntil (stop : Tokens → Bool) : Nat → Reads (List Bound × Bool)
  | 0 => refuse
  | fuel + 1 => do
    if ← peek stop then return ([], false)
    let b ← g.bound false true
    if ← tryOp "+" then
      if ← peek stop then return ([b], true)
      let (rest, trailing) ← boundsUntil stop fuel
      return (b :: rest, trailing)
    else return ([b], false)

/-- Lifetimes with a plus between each two, up to a stop. -/
def lifetimesUntil (stop : Tokens → Bool) : Nat → Reads (List String × Bool)
  | 0 => refuse
  | fuel + 1 => do
    if ← peek stop then return ([], false)
    let l ← lifetime
    if ← tryOp "+" then
      if ← peek stop then return ([l], true)
      let (rest, trailing) ← lifetimesUntil stop fuel
      return (l :: rest, trailing)
    else return ([l], false)

/-- The end of one member of a list between angle brackets. -/
def endsMember (ts : Tokens) : Bool := startsOp "," ts || startsOp ">" ts

/-- A parameter after its attributes; whether a placeholder may stand for its name. -/
def paramRest (blank : Bool) (attributes : Attributes) : Reads Param := do
  if ← peek startsLifetime then
    let name ← lifetime
    if ← tryOp ":" then
      let (bounds, trailing) ← lifetimesUntil endsMember (← rounds)
      return .lifetime attributes name bounds trailing
    else return .lifetime attributes name [] false
  if ← tryWord "const" then
    let name ← name
    op ":"
    let type ← g.type true
    if ← tryOp "=" then return .const attributes name type (some (← g.constant))
    else return .const attributes name type none
  if blank then
    if ← tryWord "_" then return .type attributes "_" [] false none
  let name ← name
  let (bounds, trailing) ← if ← tryOp ":" then
      g.boundsUntil (fun ts => endsMember ts || startsOp "=" ts) (← rounds)
    else pure ([], false)
  let default ← if ← tryOp "=" then some <$> g.type true else pure none
  return .type attributes name bounds trailing default

/-- Parameters between angle brackets. -/
def angleParams (blank : Bool) : Reads (List Param × Bool) := do
  op "<"
  let list ← listUntil "," (startsOp ">") (do g.paramRest blank (← g.attributes)) (← rounds)
  op ">"
  return list

/-- The parameters bound by `for`, if they come next. -/
def binder : Reads Binder := do
  if ← tryWord "for" then
    let (params, trailing) ← g.angleParams false
    return .params params trailing
  else return .none

/-! ## Segments -/

/-- Some arguments in round brackets follow. -/
def startsCall (ts : Tokens) : Bool :=
  startsOpening .paren ts || (startsOp "::" ts && startsOpening .paren (ts.drop 2))

/-- The arguments of a function trait. -/
def callArgs : Reads Args := do
  let _ ← tryOp "::"
  let (inputs, trailing) ← enclosed .paren (commaList (g.type true))
  return .call inputs trailing (← g.output false)

/-- The turbofish comes next. -/
def startsTurbofish (ts : Tokens) : Bool := startsOp "::" ts && startsOp "<" (ts.drop 2)

/-- A name with arguments, if the type is no more than that. -/
def single? : Ty → Option (String × Args)
  | .path (.plain false [.mk name .none]) => some (name, .none)
  | .path (.plain false [.mk name (.angle turbo args trailing)]) =>
    some (name, .angle turbo args trailing)
  | _ => none

/-- One argument between angle brackets. -/
def arg : Reads Arg := do
  if ← peek fun ts => startsLifetime ts && !startsOp "+" (ts.drop 1) then
    return .lifetime (← lifetime)
  if ← peek startsConstant then return .const (← g.constant)
  let type ← g.type true
  match single? type with
  | none => return .type type
  | some (name, args) =>
    if ← tryOp "=" then
      if ← peek startsConstant then return .assocConst name args (← g.constant)
      else return .assocType name args (← g.type true)
    else if ← tryOp ":" then
      let (bounds, trailing) ← g.boundsUntil endsMember (← rounds)
      return .constraint name args bounds trailing
    else return .type type

/-- The arguments between angle brackets. -/
def angleArgs (turbo : Bool) : Reads Args := do
  op "<"
  let (args, trailing) ← listUntil "," (startsOp ">") g.arg (← rounds)
  op ">"
  return .angle turbo args trailing

/-- The arguments after a turbofish. -/
def turbofish : Reads Args := do
  op "::"
  g.angleArgs true

/-- One segment. In an expression arguments need the turbofish. -/
def segment (inExpr : Bool) : Reads Segment := do
  if ← peek (startsOneOf ["super", "self", "crate", "try"]) then return .mk (← anyWord) .none
  let name ← if ← peek (startsWord "Self") then anyWord else name
  if ← peek startsTurbofish then return .mk name (← g.turbofish)
  if !inExpr then
    if ← peek fun ts => startsOp "<" ts && !startsOp "<=" ts then
      return .mk name (← g.angleArgs false)
  return .mk name .none

/-- More segments, each after a separator. -/
def moreSegments (inExpr : Bool) : Nat → Reads (List Segment)
  | 0 => refuse
  | fuel + 1 => do
    if ← peek fun ts => startsOp "::" ts && !startsOpening .paren (ts.drop 2) then
      op "::"
      let s ← g.segment inExpr
      return s :: (← moreSegments inExpr fuel)
    else return []

/-- A path without a type in front. -/
def plainPath (inExpr : Bool) : Reads Path := do
  let isGlobal ← tryOp "::"
  let first ← g.segment inExpr
  return .plain isGlobal (first :: (← g.moreSegments inExpr (← rounds)))

/-- The segments after a type in angle brackets. -/
def restSegments (inExpr : Bool) : Nat → Reads (List Segment)
  | 0 => refuse
  | fuel + 1 => do
    let s ← g.segment inExpr
    if ← tryOp "::" then return s :: (← restSegments inExpr fuel) else return [s]

/-- A path, possibly with a type in front. -/
def path (inExpr : Bool) : Reads Path := do
  if ← tryOp "<" then
    let self ← g.type true
    let trait ← if ← tryWord "as" then pure (some (← g.plainPath false)) else pure none
    op ">"
    op "::"
    let rest ← g.restSegments inExpr (← rounds)
    return match trait with
      | some t => .ofTrait self t rest
      | none => .ofType self rest
  else g.plainPath inExpr

/-! ## Function traits -/

/-- The last segment has no arguments. -/
def endsBare : List Segment → Bool
  | [] => false
  | [.mk _ .none] | [.mk _ (.angle _ [] _)] => true
  | [_] => false
  | _ :: rest => endsBare rest

/-- The arguments in round brackets after the last segment. -/
def withCall (args : Args) : List Segment → List Segment
  | [] => []
  | [.mk name _] => [.mk name args]
  | s :: rest => s :: withCall args rest

/-- The path of a trait, which may be a function trait. -/
def traitPath : Reads Path := do
  match ← g.plainPath false with
  | .plain isGlobal segments =>
    if endsBare segments && (← peek startsCall) then
      return .plain isGlobal (withCall (← g.callArgs) segments)
    else return .plain isGlobal segments
  | p => return p

end Grammar

/-- No segment of the path has arguments. -/
def Path.isModuleStyle : Path → Bool
  | .plain _ segments => segments.all fun | .mk _ .none => true | _ => false
  | _ => false

end CrudScaffold.Code
