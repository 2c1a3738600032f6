import CrudScaffold.Code.Grammar.Pattern
import CrudScaffold.Text.Pieces

/-!
# Reading expressions
-/

namespace CrudScaffold.Code

open Reads

/-! ## Operators -/

namespace Strength

/-- Strength of an assignment. -/
def assignment : Nat := 1

/-- Strength of a range. -/
def range : Nat := 2

/-- Strength of a comparison. -/
def comparison : Nat := 6

/-- Strength of a cast. -/
def cast : Nat := 13

end Strength

/-- Operators between two operands in the order in which they are tried, with their strengths. -/
def operators : List (String × Nat) :=
  [("+=", 1), ("-=", 1), ("*=", 1), ("/=", 1), ("%=", 1), ("^=", 1), ("&=", 1), ("|=", 1),
   ("<<=", 1), (">>=", 1), ("&&", 4), ("||", 3), ("<<", 10), (">>", 10), ("==", 6), ("<=", 6),
   ("!=", 6), (">=", 6), ("+", 11), ("-", 11), ("*", 12), ("/", 12), ("%", 12), ("^", 8),
   ("&", 9), ("|", 7), ("<", 6), (">", 6)]

/-- The operator between two operands that comes next. -/
def operator? (ts : Tokens) : Option (String × Nat) := operators.find? fun (o, _) => startsOp o ts

/-- The expression compares its operands. -/
def Expr.isComparison : Expr → Bool
  | .binary _ o _ => operators.lookup o == some Strength.comparison
  | _ => false

namespace Grammar

variable (g : Grammar)

/-- An operand with all operators after it that bind at least so strongly. -/
def rightOperand (structures : Bool) (strength : Nat) : Reads Expr := do
  g.climb structures strength (← g.operand structures)

/-- A range ends here without a last operand. -/
def endsOpenRange (structures : Bool) (ts : Tokens) : Bool :=
  atEnd ts || startsDot ts || (!structures && startsOpening .brace ts) || startsWord "as" ts ||
    [",", ";", "?", "=>", "=", "+", "/", "%", "^", ">", "<=", "!=", "-=", "*=", "&=", "|=", "<<="].any
      fun o => startsOp o ts

/-- A range after its first operand, if it has one. -/
def rangeRest (structures : Bool) (first : Option Expr) : Reads Expr := do
  if ← peek (startsOp "...") then refuse
  let isClosed ← tryOp "..="
  if !isClosed then op ".."
  if !isClosed && (← peek (endsOpenRange structures)) then return .range first false none
  return .range first isClosed (some (← g.rightOperand structures (Strength.range + 1)))

/-- What must not follow a cast. -/
def startsTrailer (ts : Tokens) : Bool :=
  startsDot ts || startsOp "?" ts || startsOpening .bracket ts || startsOpening .paren ts

/-- Go on with operators that bind at least so strongly, after a first operand. -/
def climbStep (structures : Bool) (least : Nat) (left : Expr) : Reads Expr := do
  if left.isEndedRange then return left
  let next : Tokens → Option (Option (String × Nat) × Tokens) := fun ts => some (operator? ts, ts)
  match ← (next : Reads _) with
  | some (o, strength) =>
    if strength < least then return left
    if strength == Strength.assignment && left.isRange then return left
    if strength == Strength.comparison && left.isComparison then refuse
    op o
    let right ← g.rightOperand structures
      (if strength == Strength.assignment then strength else strength + 1)
    g.climb structures least (.binary left o right)
  | none =>
    if least ≤ Strength.assignment && !left.isRange &&
        (← peek fun ts => startsOp "=" ts && !startsOp "=>" ts) then
      op "="
      let right ← g.rightOperand structures Strength.assignment
      g.climb structures least (.binary left "=" right)
    else if least ≤ Strength.range && (← peek (startsOp "..")) then
      g.climb structures least (← g.rangeRest structures (some left))
    else if least ≤ Strength.cast && (← peek (startsWord "as")) then
      word "as"
      let type ← g.type false
      if ← peek startsTrailer then refuse
      g.climb structures least (.cast left type)
    else return left

/-! ## Blocks -/

/-- A block in braces. -/
def block : Reads (List Stmt) := enclosed .brace g.statements

/-- Parameters of an item or binder start here, rather than the type in front of a path. -/
def startsParams (ts : Tokens) : Bool :=
  let second := ts.drop 1
  startsOp "<" ts &&
    (startsOp ">" second || startsOp "#" second || startsWord "const" second ||
      ((startsLifetime second || startsName second) &&
        (endsMember (second.drop 1) || startsColon (second.drop 1) ||
          startsOp "=" (second.drop 1))))

/-- A keyword with a block behind it starts here. -/
def startsBlockOf (keyword : String) (ts : Tokens) : Bool :=
  startsWord keyword ts && startsOpening .brace (ts.drop 1)

/-- What is done when a condition does not hold. -/
def elseBranch : Nat → Reads ElseBranch
  | 0 => refuse
  | fuel + 1 => do
    unless ← tryWord "else" do return .none
    unless ← tryWord "if" do return .block (← g.block)
    let test ← g.expr false
    let consequent ← g.block
    return .condition test consequent (← elseBranch fuel)

/-- A condition. -/
def condition : Reads Expr := do
  word "if"
  let test ← g.expr false
  let consequent ← g.block
  return .condition test consequent (← g.elseBranch (← rounds))

/-- The head of a loop. -/
def loopHead : Reads LoopHead := do
  if ← tryWord "while" then return .test (← g.expr false)
  if ← tryWord "for" then
    let pattern ← g.alternatives
    word "in"
    return .each pattern (← g.expr false)
  word "loop"
  return .forever

/-- A loop. -/
def loop (label : Option String) : Reads Expr := do
  let head ← g.loopHead
  let (inner, body) ← g.blockBody
  return .loop label head inner body

/-- A loop or a block with a label. -/
def labelled : Reads Expr := do
  let label ← lifetime
  op ":"
  if ← peek (startsOpening .brace) then
    let (inner, body) ← g.blockBody
    return .block .plain (some label) inner body
  else g.loop (some label)

/-- One arm of a choice. -/
def arm : Reads Arm := do
  let attributes ← g.attributes
  let pattern ← g.alternatives
  let guard ← if ← tryWord "if" then some <$> g.expr true else pure none
  op "=>"
  let body ← g.early
  if ← tryOp "," then return .mk attributes pattern guard body true
  if body.endsItself || (← peek atEnd) then return .mk attributes pattern guard body false
  refuse

/-- A choice. -/
def choice : Reads Expr := do
  word "match"
  let subject ← g.expr false
  enclosed .brace do
    let inner ← g.innerAttributes
    return .choice subject inner (← manyWhile (fun ts => !atEnd ts) g.arm (← rounds))

/-- An expression that is a block of some kind starts here. -/
def startsBlock (ts : Tokens) : Bool :=
  startsOneOf ["if", "while", "loop", "match", "unsafe"] ts || startsOpening .brace ts ||
    (startsWord "for" ts && !startsParams (ts.drop 1)) || startsBlockOf "try" ts ||
    startsBlockOf "const" ts || startsLifetime ts

/-- An expression that is a block of some kind. -/
def blockOperand : Reads Expr := do
  if ← peek (startsWord "if") then g.condition
  else if ← peek (startsOneOf ["while", "for", "loop"]) then g.loop none
  else if ← peek (startsWord "match") then g.choice
  else if ← tryWord "try" then return .block .tryBlock none [] (← g.block)
  else if ← peek startsLifetime then g.labelled
  else
    let kind ← if ← tryWord "unsafe" then pure BlockKind.unsafeBlock
      else if ← tryWord "const" then pure BlockKind.constBlock
      else pure BlockKind.plain
    let (inner, body) ← g.blockBody
    return .block kind none inner body

/-! ## Closures -/

/-- A pattern with attributes in front of it. One that is kept as it is written takes none. -/
def markedPattern (attributes : Attributes) : Pat → Pat
  | .verbatim ts => .verbatim ts
  | p => if attributes.isEmpty then p else .marked attributes p

/-- One input of a closure. -/
def closureInput : Reads Pat := do
  let attributes ← g.attributes
  let p ← g.pattern
  let p ← if ← tryOp ":" then pure (Pat.typed p (← g.type true)) else pure p
  return markedPattern attributes p

/-- A closure starts here. -/
def startsClosure (ts : Tokens) : Bool :=
  startsOp "|" ts || startsWord "move" ts || startsWord "static" ts ||
    (startsWord "for" ts && startsParams (ts.drop 1)) ||
    (startsWord "const" ts && !startsOpening .brace (ts.drop 1)) ||
    (startsWord "async" ts && (startsOp "|" (ts.drop 1) || startsWord "move" (ts.drop 1)))

/-- A closure. -/
def closure (structures : Bool) : Reads Expr := do
  let binder ← g.binder
  let isConst ← tryWord "const"
  let isStatic ← tryWord "static"
  let isAsync ← tryWord "async"
  let isMove ← tryWord "move"
  let head : ClosureHead := { binder, isConst, isStatic, isAsync, isMove }
  op "|"
  let (inputs, trailing) ← listUntil "," (startsOp "|") g.closureInput (← rounds)
  op "|"
  match ← g.output true with
  | some t => return .closure head inputs trailing (some t) (.block .plain none [] (← g.block))
  | none => return .closure head inputs trailing none (← g.expr structures)

/-! ## Operands -/

/-- The value of one field of a structure. -/
def fieldInit : Reads FieldInit := do
  let attributes ← g.attributes
  let m ← member
  if Token.isNumber m || (← peek (startsOp ":")) then
    op ":"
    return .mk attributes m false (← g.expr true)
  else return .mk attributes m true (.path (.plain false [.mk m .none]))

/-- The values of fields, whether a comma stands after the last one, and what gives the others. -/
def fieldInits : Nat → Reads (List FieldInit × Bool × FieldRest)
  | 0 => refuse
  | fuel + 1 => do
    if ← peek atEnd then return ([], true, .none)
    if ← tryOp ".." then
      if ← peek atEnd then return ([], true, .dots)
      return ([], true, .from (← g.expr true))
    let f ← g.fieldInit
    if ← peek atEnd then return ([f], false, .none)
    op ","
    let (fields, trailing, rest) ← fieldInits fuel
    return (f :: fields, trailing, rest)

/-- A path, an expansion or a structure. -/
def pathOperand (structures : Bool) : Reads Expr := do
  let path ← g.path true
  if path.isModuleStyle && (← peek startsBang) then
    op "!"
    let (d, body) ← group
    return .expansion path d body
  if structures && (← peek (startsOpening .brace)) then
    let (fields, trailing, rest) ← enclosed .brace do g.fieldInits (← rounds)
    return .structure path fields trailing rest
  return .path path

/-- An expression can start here. -/
def startsExpr (ts : Tokens) : Bool :=
  let starts (o : String) (others : List String) : Bool :=
    startsOp o ts && !others.any fun other => startsOp other ts
  (startsAnyWord ts && !startsWord "as" ts) || startsLiteral ts || startsLifetime ts ||
    startsOpening .paren ts || startsOpening .bracket ts || startsOpening .brace ts ||
    starts "!" ["!="] || starts "-" ["-=", "->"] || starts "*" ["*="] || starts "|" ["|="] ||
    starts "&" ["&="] || starts "<" ["<=", "<<="] || startsOp ".." ts || startsOp "::" ts ||
    startsOp "#" ts

/-- A jump out of the code around it. -/
def jump (structures : Bool) : Reads Expr := do
  if ← tryWord "break" then
    let label ← tryLifetime
    if label.isSome && (← peek (startsOp ":")) then refuse
    if ← peek fun ts => startsExpr ts && (structures || !startsOpening .brace ts) then
      return .jump .breaks label (some (← g.expr true))
    return .jump .breaks label none
  if ← tryWord "continue" then return .jump .continues (← tryLifetime) none
  let kind ← if ← tryWord "return" then pure JumpKind.returns
    else do
      word "yield"
      pure JumpKind.yields
  if ← peek startsExpr then return .jump kind none (some (← g.expr true))
  return .jump kind none none

/-- What stands between square brackets: a list, or one element with the number of its copies. -/
def arrayOperand : Reads Expr :=
  enclosed .bracket do
    if ← peek atEnd then return Expr.array [] false
    let first ← g.expr true
    if ← tryOp ";" then return .repeated first (← g.expr true)
    if ← tryOp "," then
      let (rest, trailing) ← commaList (g.expr true)
      return .array (first :: rest) (rest.isEmpty || trailing)
    return .array [first] false

/-- What stands between round brackets: one expression, or a tuple. -/
def parenOperand : Reads Expr := do
  let (elems, trailing) ← enclosed .paren (commaList (g.expr true))
  match elems, trailing with
  | [e], false => return .paren e
  | _, _ => return .tuple elems trailing

/-- An asynchronous block starts here. -/
def startsAsyncBlock (ts : Tokens) : Bool :=
  startsBlockOf "async" ts || (startsWord "async" ts && startsBlockOf "move" (ts.drop 1))

/-- A path starts an expression here. -/
def startsPathOperand (ts : Tokens) : Bool :=
  startsPath ts ||
    (startsWord "try" ts && (startsOp "!" (ts.drop 1) || startsOp "::" (ts.drop 1)))

/-- An operand without operators. -/
def atom (structures : Bool) : Reads Expr := do
  if ← peek startsLiteral then return .literal (← literal)
  else if ← peek startsAsyncBlock then
    word "async"
    let isMove ← tryWord "move"
    return .block (.asyncBlock isMove) none [] (← g.block)
  else if ← peek (startsBlockOf "try") then g.blockOperand
  else if ← peek startsClosure then g.closure structures
  else if ← peek startsBuiltin then return .verbatim (← builtin)
  else if ← peek startsPathOperand then g.pathOperand structures
  else if ← peek (startsOpening .paren) then g.parenOperand
  else if ← peek (startsOneOf ["break", "continue", "return", "yield"]) then g.jump structures
  else if ← peek (startsWord "become") then
    let (_, raw) ← taken do
      word "become"
      g.expr true
    return .verbatim raw
  else if ← peek (startsOpening .bracket) then g.arrayOperand
  else if ← tryWord "let" then
    let pattern ← g.alternatives
    op "="
    return .binds pattern (← g.rightOperand structures Strength.comparison)
  else if ← peek startsBlock then g.blockOperand
  else if ← peek (startsOp "..") then g.rangeRest structures none
  else if ← tryWord "_" then return .placeholder
  else refuse

/-! ## Trailers -/

/-- The positions that a number after a dot names, and whether it ends with a dot of its own. -/
def positions? (literal : String) : Option (List String × Bool) :=
  let parts := Text.splitAtChar '.' literal.toList
  let (parts, dotted) :=
    if parts.length > 1 && parts.getLast? == some [] then (parts.dropLast, true) else (parts, false)
  (parts.mapM fun p => (positionOf? (.ofList p)).map toString).map fun ps => (ps, dotted)

/-- Members by position, one inside the other. -/
def fields (e : Expr) (positions : List String) : Expr := positions.foldl Expr.field e

/-- What follows a dot that ends neither with a number nor with a method. -/
def memberRest (e : Expr) : Reads Expr := do
  if ← tryWord "await" then return .await e
  let m ← member
  let named := !Token.isNumber m
  let args ← if named && (← peek (startsOp "::")) then g.turbofish else pure Args.none
  if named && (← peek (startsOpening .paren)) then
    let (inputs, trailing) ← enclosed .paren (commaList (g.expr true))
    return .methodCall e m args inputs trailing
  match args with
  | .none => return .field e m
  | _ => refuse

/-- What follows a dot: positions, a member or a method. -/
def afterDot (e : Expr) : Reads Expr
  | .literal s :: rest =>
    if !Token.isNumber s then none
    else
      match positions? s with
      | some (ps, true) => g.memberRest (fields e ps) rest
      | some (ps, false) => some (fields e ps, rest)
      | none => none
  | ts => g.memberRest e ts

/-- What may follow an operand: calls, members, positions and question marks. -/
def trailers : Nat → Expr → Reads Expr
  | 0, _ => refuse
  | fuel + 1, e => do
    if ← peek (startsOpening .paren) then
      let (args, trailing) ← enclosed .paren (commaList (g.expr true))
      trailers fuel (.call e args trailing)
    else if !e.isRange && (← peek startsDot) then
      op "."
      trailers fuel (← g.afterDot e)
    else if ← peek (startsOpening .bracket) then
      trailers fuel (.index e (← enclosed .bracket (g.expr true)))
    else if !e.isRange && (← peek (startsOp "?")) then
      op "?"
      trailers fuel (.attempt e)
    else return e

/-- An expression behind the operators and attributes in front of it. -/
def operandAfter (structures : Bool) : Reads Expr := do
  if ← tryOp "&" then
    if ← peek fun ts => startsWord "raw" ts && startsOneOf ["mut", "const"] (ts.drop 1) then
      word "raw"
      let isMut ← tryWord "mut"
      if !isMut then word "const"
      return .address isMut (← g.operand structures)
    let isMut ← tryWord "mut"
    return .reference isMut (← g.operand structures)
  else if ← tryOp "*" then return .unary '*' (← g.operand structures)
  else if ← tryOp "!" then return .unary '!' (← g.operand structures)
  else if ← tryOp "-" then return .unary '-' (← g.operand structures)
  else g.trailers (← rounds) (← g.atom structures)

/-- An expression with operators in front of it; whether it may be a structure. A range that starts
with its dots takes no attributes. -/
def operandStep (structures : Bool) : Reads Expr := do
  let ((attributes, e), raw) ← taken do return (← g.attributes, ← g.operandAfter structures)
  match e with
  | .verbatim _ => return .verbatim raw
  | e => if e.isRange && !attributes.isEmpty then refuse else return e.mark attributes

/-- An expression at the start of a statement or of the body of an arm: a block ends it. -/
def earlyStep : Reads Expr := do
  let attributes ← g.attributes
  if ← peek startsBlock then
    let e ← g.blockOperand
    if ← peek fun ts => startsDot ts || startsOp "?" ts then
      let e ← g.trailers (← rounds) e
      g.climb true 0 (e.mark attributes)
    else return e.mark attributes
  else
    let e ← g.operand true
    g.climb true 0 (e.mark attributes)

end Grammar

end CrudScaffold.Code
