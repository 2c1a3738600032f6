import CrudScaffold.Code.Grammar.Path

/-!
# Reading bounds and types
-/

namespace CrudScaffold.Code

open Reads

namespace Grammar

variable (g : Grammar)

/-! ## Bounds -/

/-- The parameters that a hidden type uses. -/
def captured : Reads Bound := do
  word "use"
  op "<"
  let param : Reads Token := do
    if ← peek startsLifetime then return .lifetime (← lifetime)
    if ← peek (startsWord "Self") then return .ident (← anyWord) else return .ident (← name)
  let (params, trailing) ← listUntil "," (startsOp ">") param (← rounds)
  op ">"
  return .captured params trailing

/-- A bound that names a trait. One that is constant is read, but not taken apart. -/
def traitBound (inParens consts : Bool) : Reads (Option Bound) := do
  let before ← g.binder
  let isConst ← if ← peek (startsOpening .bracket) then
      enclosed .bracket (word "const")
      pure true
    else tryWord "const"
  if isConst && !consts then refuse
  let relaxed ← tryOp "?"
  match before, relaxed with
  | .none, true =>
    let .none ← g.binder | refuse
    let path ← g.traitPath
    return if isConst then none else some (.trait inParens true .none path)
  | .params .., true => refuse
  | _, false =>
    let path ← g.traitPath
    return if isConst then none else some (.trait inParens false before path)

/-- One bound. -/
def boundStep (captures consts : Bool) : Reads Bound := do
  if ← peek startsLifetime then return .lifetime (← lifetime)
  if ← peek (startsWord "use") then
    if captures then captured else refuse
  else
    let (b, raw) ← taken do
      if ← peek (startsOpening .paren) then enclosed .paren (g.traitBound true consts)
      else g.traitBound false consts
    return b.getD (.verbatim raw)

/-- Another bound may follow a plus here. -/
def startsBound (consts : Bool) (ts : Tokens) : Bool :=
  startsAnyWord ts || startsOp "::" ts || startsOp "?" ts || startsLifetime ts ||
    startsOpening .paren ts || (consts && startsOpening .bracket ts)

/-- Bounds with a plus between each two, where a plus is allowed. -/
def boundList (plus captures consts : Bool) : Nat → Reads (List Bound × Bool)
  | 0 => refuse
  | fuel + 1 => do
    let b ← g.bound captures consts
    if plus && (← peek (startsOp "+")) then
      op "+"
      if ← peek (startsBound consts) then
        let (rest, trailing) ← boundList plus captures consts fuel
        return (b :: rest, trailing)
      else return ([b], true)
    return ([b], false)

/-- A bound names a trait. -/
def isTrait : Bound → Bool
  | .trait .. | .verbatim _ => true
  | .lifetime _ | .captured .. => false

/-- Bounds of a type, one of which must name a trait. -/
def traitBounds (plus captures consts : Bool) : Reads (List Bound × Bool) := do
  let (bounds, trailing) ← g.boundList plus captures consts (← rounds)
  if bounds.any isTrait then return (bounds, trailing) else refuse

/-- Bounds that follow a first one, each after a plus. -/
def moreBounds : Nat → Reads (List Bound)
  | 0 => refuse
  | fuel + 1 => do
    if ← tryOp "+" then
      let b ← g.bound false false
      return b :: (← moreBounds fuel)
    else return []

/-! ## Types in round brackets -/

/-- The trait bound in round brackets that a type in round brackets stands for. -/
def boundOfParen? : Ty → Option Bound
  | .path (.plain isGlobal segments) => some (.trait true false .none (.plain isGlobal segments))
  | .object false [.trait _ relaxed binder path] false => some (.trait true relaxed binder path)
  | .object false [.lifetime l] false => some (.lifetime l)
  | _ => none

/-- What stands between round brackets: a tuple, a type, or the relaxed bound that starts an object
type. -/
def insideParens : Reads (Ty ⊕ Bound) := do
  if ← peek atEnd then return .inl (.tuple [] false)
  if ← peek startsLifetime then
    let (bounds, trailing) ← g.traitBounds true false false
    return .inl (.paren (.object false bounds trailing))
  if ← peek (startsOp "?") then
    match ← g.bound true true with
    | .trait _ relaxed binder path => return .inr (.trait true relaxed binder path)
    | b => return .inr b
  let first ← g.type true
  if ← tryOp "," then
    let (rest, trailing) ← commaList (g.type true)
    return .inl (.tuple (first :: rest) (rest.isEmpty || trailing))
  else return .inl (.paren first)

/-- A type in round brackets, a tuple, or an object type whose first bound is in round brackets. -/
def parenType (plus : Bool) : Reads Ty := do
  match ← enclosed .paren g.insideParens with
  | .inr b => return .object false (b :: (← g.moreBounds (← rounds))) false
  | .inl (.paren inner) =>
    if plus && (← peek (startsOp "+")) then
      if let some b := boundOfParen? inner then
        return .object false (b :: (← g.moreBounds (← rounds))) false
    return .paren inner
  | .inl type => return type

/-! ## Function types -/

/-- A calling convention. -/
def abi : Reads (Option (Option String)) := do
  if ← tryWord "extern" then
    if ← peek startsText then return some (some (← literal)) else return some none
  else return none

/-- A name and a colon start here. -/
def startsNamed (words : List String) (ts : Tokens) : Bool :=
  (startsName ts || startsOneOf words ts) && startsColon (ts.drop 1)

/-- The open end of the inputs of a function type starts here. -/
def startsOpenEnd (ts : Tokens) : Bool :=
  startsOp "..." ts || (startsNamed ["_"] ts && startsOp "..." (ts.drop 2))

/-- The open end of the inputs of a function type. -/
def openEnd (attributes : Attributes) : Reads OpenEnd := do
  let name ← if ← tryOp "..." then pure none
    else do
      let name ← anyWord
      op ":"
      op "..."
      pure (some name)
  return { attributes, name, comma := ← tryOp "," }

/-- One input of a function type after its attributes; the first one may be the value itself. -/
def inputRest (first : Bool) (attributes : Attributes) : Reads Input := do
  let rest : Reads (Option (Option String × Ty)) := do
    let isMut := first && (← peek fun ts => startsWord "mut" ts && startsWord "self" (ts.drop 1))
    if isMut then word "mut"
    let name ← if ← peek (startsNamed (if first then ["_", "self"] else ["_"])) then
        let n ← anyWord
        op ":"
        pure (some n)
      else pure none
    let ownMut ← peek fun ts => startsWord "mut" ts && startsWord "self" (ts.drop 1)
    if first && name != some "self" && ownMut then
      word "mut"
      word "self"
      return none
    else if isMut && name.isNone then
      word "self"
      return none
    else
      let type ← g.type true
      return if isMut then none else some (name, type)
  let (rest, raw) ← taken rest
  match rest with
  | some (name, type) => return .mk attributes name type
  | none => return .mk attributes none (.verbatim raw)

/-- The inputs of a function type, whether a comma stands after the last one, and the open end. -/
def inputs (first : Bool) : Nat → Reads (List Input × Bool × Option OpenEnd)
  | 0 => refuse
  | fuel + 1 => do
    if ← peek atEnd then return ([], true, none)
    let attributes ← g.attributes
    if ← peek startsOpenEnd then return ([], true, some (← openEnd attributes))
    let i ← g.inputRest first attributes
    if ← peek atEnd then return ([i], false, none)
    op ","
    let (rest, trailing, last) ← inputs false fuel
    return (i :: rest, trailing, last)

/-- A function type. -/
def functionType (binder : Binder) : Reads Ty := do
  let isUnsafe ← tryWord "unsafe"
  let abi ← abi
  word "fn"
  let (inputs, trailing, last) ← enclosed .paren do g.inputs true (← rounds)
  return .function binder isUnsafe abi inputs trailing last (← g.output false)

/-! ## Types -/

/-- A path starts here. -/
def startsPath (ts : Tokens) : Bool :=
  startsName ts || startsOp "::" ts || startsOp "<" ts || startsOneOf segmentWords ts

/-- Bounds after a path that turns out to be the first bound of an object type. -/
def objectBounds : Nat → Reads (List Bound × Bool)
  | 0 => refuse
  | fuel + 1 => do
    if ← tryOp "+" then
      if ← peek (startsBound false) then
        let b ← g.bound false false
        let (rest, trailing) ← objectBounds fuel
        return (b :: rest, trailing)
      else return ([], true)
    else return ([], false)

/-- A type that starts with a path. -/
def pathType (binder : Binder) (plus : Bool) : Reads Ty := do
  let path ← g.path false
  match path with
  | .plain .. =>
    if path.isModuleStyle && (← peek startsBang) then
      op "!"
      let (d, body) ← group
      return .expansion path d body
    let bound := match binder with
      | .none => false
      | .params .. => true
    if bound || (plus && (← peek (startsOp "+"))) then
      let first := Bound.trait false false binder path
      if plus then
        let (rest, trailing) ← g.objectBounds (← rounds)
        return .object false (first :: rest) trailing
      else return .object false [first] false
    return .path path
  | path => return .path path

/-- A construct of the compiler itself starts here. -/
def startsBuiltin (ts : Tokens) : Bool := startsWord "builtin" ts && startsOp "#" (ts.drop 1)

/-- A construct of the compiler itself. -/
def builtin : Reads Tokens := do
  let (_, raw) ← taken do
    word "builtin"
    op "#"
    let _ ← name
    let (d, _) ← group
    if d != .paren then refuse
  return raw

/-- An object type after its keyword. -/
def objectType (plus : Bool) : Reads Ty := do
  let (bounds, raw) ← taken do
    word "dyn"
    let star ← tryOp "*"
    let bounds ← g.traitBounds plus false false
    return if star then none else some bounds
  match bounds with
  | some (bounds, trailing) => return .object true bounds trailing
  | none => return .verbatim raw

/-- What may stand behind a binder in a type. -/
def startsBoundType (ts : Tokens) : Bool :=
  startsName ts || startsOneOf ("fn" :: "unsafe" :: "extern" :: segmentWords) ts

/-- A type; whether several bounds may be joined with a plus. -/
def typeStep (plus : Bool) : Reads Ty := do
  let binder ← g.binder
  if let .params .. := binder then
    if !(← peek startsBoundType) then refuse
  if ← peek (startsOpening .paren) then g.parenType plus
  else if ← peek (startsOneOf ["fn", "unsafe", "extern"]) then g.functionType binder
  else if ← peek startsBuiltin then return .verbatim (← builtin)
  else if ← peek startsPath then g.pathType binder plus
  else if ← peek (startsWord "dyn") then g.objectType plus
  else if ← peek (startsOpening .bracket) then
    enclosed .bracket do
      let elem ← g.type true
      if ← tryOp ";" then return .array elem (← g.expr true).tokens else return .slice elem
  else if ← tryOp "*" then
    let isMut ← tryWord "mut"
    if !isMut then word "const"
    return .pointer isMut (← g.type false)
  else if ← tryOp "&" then
    let tick ← tryLifetime
    let isMut ← tryWord "mut"
    return .reference tick isMut (← g.type false)
  else if ← tryOp "!" then return .never
  else if ← tryWord "impl" then
    let (bounds, trailing) ← g.traitBounds plus true true
    return .existential bounds trailing
  else if ← tryWord "_" then return .infer
  else if ← peek startsLifetime then
    let (bounds, trailing) ← g.traitBounds true false false
    return .object false bounds trailing
  else refuse

end Grammar

end CrudScaffold.Code
