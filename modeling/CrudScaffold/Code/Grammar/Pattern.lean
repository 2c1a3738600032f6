import CrudScaffold.Code.Grammar.Type

/-!
# Reading patterns
-/

namespace CrudScaffold.Code

open Reads

namespace Grammar

variable (g : Grammar)

/-! ## Alternatives -/

/-- Patterns after a first one, each after a bar. -/
def morePatterns : Nat → Reads (List Pat)
  | 0 => refuse
  | fuel + 1 => do
    if ← peek startsBar then
      op "|"
      let p ← g.pattern
      return p :: (← morePatterns fuel)
    else return []

/-- A pattern, possibly with alternatives. -/
def alternatives : Reads Pat := do
  let leading ← tryOp "|"
  let first ← g.pattern
  let rest ← g.morePatterns (← rounds)
  if leading || !rest.isEmpty then return .alternatives leading (first :: rest) else return first

/-! ## Ranges -/

/-- A range has no constant at its end here. -/
def endsRange (ts : Tokens) : Bool :=
  atEnd ts || startsOp "|" ts || startsOp "=" ts || startsColon ts || startsOp "," ts ||
    startsOp ";" ts || startsWord "if" ts

/-- A constant block. -/
def constBlock : Reads Tokens := do
  word "const"
  let (inner, body) ← g.blockBody
  return (Expr.block .constBlock none inner body).tokens

/-- The constant at one end of a range. -/
def rangeLimit : Reads Tokens := do
  if ← peek startsSignedLiteral then literalConstant
  else if ← peek startsPath then return (← g.path true).tokens
  else g.constBlock

/-- The rest of a range after its first constant. -/
def rangeAfter (first : Tokens) : Reads Pat := do
  let isClosed ← if ← tryOp "..." then pure true else tryOp "..="
  if !isClosed then op ".."
  if ← peek endsRange then
    if isClosed then refuse else return .range first false []
  return .range first isClosed (← g.rangeLimit)

/-- A range without a first constant, or the rest of a list. -/
def restPattern : Reads Pat := do
  let isClosed ← tryOp "..="
  if !isClosed then op ".."
  if ← peek endsRange then
    if isClosed then refuse else return .rest
  return .range [] isClosed (← g.rangeLimit)

/-- A literal, a constant block, or a range that starts with one. -/
def constantPattern : Reads Pat := do
  if ← peek startsSignedLiteral then
    let negative ← peek startsNegative
    let first ← literalConstant
    if ← peek (startsOp "..") then g.rangeAfter first
    else return .literal negative (String.join ((first.drop (if negative then 1 else 0)).map
      Token.text))
  else
    let first ← g.constBlock
    if ← peek (startsOp "..") then g.rangeAfter first else return .constant first

/-! ## Structures -/

/-- A number of a position is a number without a suffix; its value. -/
def positionOf? (literal : String) : Option Nat :=
  let isSeparator (c : Char) : Bool := c == '_'
  let value (radix : Nat) (cs : List Char) : Option Nat :=
    let digits := cs.filter fun c => !isSeparator c
    let digit (c : Char) : Option Nat :=
      let v := if c.isDigit then c.toNat - 48 else c.toLower.toNat - 87
      if c.isAlphanum && v < radix then some v else none
    if digits.isEmpty then none
    else digits.foldl (fun n c => do return (← n) * radix + (← digit c)) (some 0)
  let n := match literal.toList with
    | '0' :: 'x' :: cs => value 16 cs
    | '0' :: 'o' :: cs => value 8 cs
    | '0' :: 'b' :: cs => value 2 cs
    | cs => value 10 cs
  n.filter (· < Nat.pow 2 32)

/-- A member: a name or the number of a position. -/
def member : Reads String
  | .literal s :: rest =>
    if Token.isNumber s then (positionOf? s).map fun n => (toString n, rest) else none
  | ts => name ts

/-- The pattern of one field after its attributes. -/
def fieldPattern (attributes : Attributes) : Reads FieldPat := do
  let ((isBox, isRef, isMut, own), raw) ← taken do
    let isBox ← tryWord "box"
    let isRef ← tryWord "ref"
    let isMut ← tryWord "mut"
    let own ← if isBox || isRef || isMut then name else member
    return (isBox, isRef, isMut, own)
  let prefixed := isBox || isRef || isMut
  if Token.isNumber own || (!prefixed && (← peek (startsOp ":"))) then
    op ":"
    return .mk attributes (some own) (← g.alternatives)
  if isBox then return .mk attributes none (.verbatim raw)
  return .mk attributes none (.binding isRef isMut own none)

/-- The patterns of fields, whether a comma stands after the last one, and the attributes of the
dots that stand for the other fields. -/
def fieldPatterns : Nat → Reads (List FieldPat × Bool × Option Attributes)
  | 0 => refuse
  | fuel + 1 => do
    if ← peek atEnd then return ([], true, none)
    let attributes ← g.attributes
    if ← tryOp ".." then return ([], true, some attributes)
    let f ← g.fieldPattern attributes
    if ← peek atEnd then return ([f], false, none)
    op ","
    let (rest, trailing, dots) ← fieldPatterns fuel
    return (f :: rest, trailing, dots)

/-! ## Patterns -/

/-- A name is the start of a path here, not a binding. -/
def continuesPath (ts : Tokens) : Bool :=
  startsOp "::" ts || startsOp "!" ts || startsOpening .brace ts || startsOpening .paren ts ||
    startsOp ".." ts

/-- A pattern that is a path, or starts with one, starts here. -/
def startsPathPattern (ts : Tokens) : Bool :=
  (startsName ts && continuesPath (ts.drop 1)) ||
    (startsWord "self" ts && startsOp "::" (ts.drop 1)) ||
    startsOp "::" ts || startsOp "<" ts || startsOneOf ["Self", "super", "crate"] ts

/-- A pattern that starts with a path. -/
def pathPattern : Reads Pat := do
  let path ← g.path true
  if path.isModuleStyle && (← peek startsBang) then
    op "!"
    let (d, body) ← group
    return .expansion path d body
  if ← peek (startsOpening .brace) then
    let (fields, trailing, rest) ← enclosed .brace do g.fieldPatterns (← rounds)
    return .structure path fields trailing rest
  if ← peek (startsOpening .paren) then
    let (elems, trailing) ← enclosed .paren (commaList g.alternatives)
    return .tupleStruct path elems trailing
  if ← peek (startsOp "..") then g.rangeAfter path.tokens else return .path path

/-- A pattern in round brackets: a single one without a comma stands for itself. -/
def parenPattern : Reads Pat := do
  let (elems, trailing) ← enclosed .paren (commaList g.alternatives)
  match elems, trailing with
  | [.rest], false => return .tuple elems false
  | [p], false => return .paren p
  | _, _ => return .tuple elems trailing

/-- An element of a slice; an open range needs round brackets. -/
def slicePattern : Reads Pat := do
  let p ← g.alternatives
  match p with
  | .range [] _ _ | .range _ _ [] => refuse
  | _ => return p

/-- A name that is bound, possibly to what matches another pattern. -/
def bindingPattern : Reads Pat := do
  let isRef ← tryWord "ref"
  let isMut ← tryWord "mut"
  let own ← if ← peek (startsWord "self") then anyWord else name
  if ← tryOp "@" then return .binding isRef isMut own (some (← g.pattern))
  else return .binding isRef isMut own none

/-- A pattern without alternatives. -/
def patternStep : Reads Pat := do
  if ← peek startsPathPattern then g.pathPattern
  else if ← tryWord "_" then return .wild
  else if ← peek (startsWord "box") then
    let (_, raw) ← taken do
      word "box"
      g.pattern
    return .verbatim raw
  else if ← peek fun ts => startsOp "-" ts || startsLiteral ts || startsWord "const" ts then
    g.constantPattern
  else if ← peek fun ts => startsName ts || startsOneOf ["ref", "mut", "self"] ts then
    g.bindingPattern
  else if ← tryOp "&" then
    let isMut ← tryWord "mut"
    return .reference isMut (← g.pattern)
  else if ← peek (startsOpening .paren) then g.parenPattern
  else if ← peek (startsOpening .bracket) then
    let (elems, trailing) ← enclosed .bracket (commaList g.slicePattern)
    return .slice elems trailing
  else if ← peek fun ts => startsOp ".." ts && !startsOp "..." ts then g.restPattern
  else refuse

end Grammar

end CrudScaffold.Code
