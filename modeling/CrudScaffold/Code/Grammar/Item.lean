import CrudScaffold.Code.Grammar.Statement

/-!
# Reading items

A reader of what an item declares gives nothing for an item that is kept as it is written: it must
still be well formed.
-/

namespace CrudScaffold.Code

open Reads

/-- What an item declares, with the attributes inside it; nothing for one that is kept as it is
written. -/
abbrev Declaration := Option (Attributes × ItemKind)

/-- A declaration without attributes inside it. -/
def Declaration.ofKind (kind : ItemKind) : Declaration := some ([], kind)

namespace Grammar

variable (g : Grammar)

/-! ## Visibility, parameters and conditions -/

/-- The round brackets behind the keyword narrow the visibility. -/
def narrows (ts : Tokens) : Bool :=
  let inside := ts.drop 1
  startsOpening .paren ts &&
    (startsWord "in" inside ||
      (startsOneOf ["crate", "self", "super"] inside && atEnd (inside.drop 1)))

/-- A visibility. -/
def visibility : Reads Visibility := do
  if ← tryWord "pub" then
    if ← peek narrows then
      enclosed .paren do
        let hasIn ← tryWord "in"
        return Visibility.within hasIn (← modPath)
    else return .everywhere
  else return .inherited

/-- The parameters of an item, and whether there are brackets for them. -/
def generics : Reads (Generics × Bool) := do
  if ← peek (startsOp "<") then
    let (params, trailing) ← g.angleParams true
    return ({ params, trailing }, true)
  else return ({}, false)

/-- No bound stands here any more in a condition. -/
def endsCondition (ts : Tokens) : Bool :=
  atEnd ts || startsOpening .brace ts || startsOp "," ts || startsOp ";" ts || startsColon ts ||
    startsOp "=" ts

/-- A condition on parameters. -/
def wherePredicate : Reads WherePredicate := do
  if ← peek fun ts => startsLifetime ts && startsOp ":" (ts.drop 1) then
    let name ← lifetime
    op ":"
    let ends (ts : Tokens) : Bool := endsCondition ts || startsOp ":" ts
    let (bounds, trailing) ← lifetimesUntil ends (← rounds)
    return .lifetime name bounds trailing
  let binder ← g.binder
  let type ← g.type true
  op ":"
  let (bounds, trailing) ← g.boundsUntil endsCondition (← rounds)
  return .type binder type bounds trailing

/-- Conditions with commas between them. -/
def wherePredicates : Nat → Reads (List WherePredicate × Bool)
  | 0 => refuse
  | fuel + 1 => do
    if ← peek endsCondition then return ([], false)
    let first ← g.wherePredicate
    if ← tryOp "," then
      let (rest, trailing) ← wherePredicates fuel
      return (first :: rest, rest.isEmpty || trailing)
    else return ([first], false)

/-- The conditions on parameters, and whether there is a keyword for them. -/
def conditions (generics : Generics) : Reads (Generics × Bool) := do
  if ← tryWord "where" then
    if ← peek startsParams then refuse
    let (conditions, conditionsTrailing) ← g.wherePredicates (← rounds)
    return ({ generics with conditions, conditionsTrailing }, true)
  else return (generics, false)

/-! ## Functions -/

/-- The stream behind a word, if it starts with it. -/
def skipWord (w : String) (ts : Tokens) : Tokens := if startsWord w ts then ts.drop 1 else ts

/-- The signature of a function starts here; whether it may be marked as safe. -/
def startsSignature (safe : Bool) (ts : Tokens) : Bool :=
  let ts := skipWord "async" (skipWord "const" ts)
  let ts := if safe && startsWord "safe" ts then ts.drop 1 else skipWord "unsafe" ts
  let ts := if startsWord "extern" ts then
      if startsText (ts.drop 1) then ts.drop 2 else ts.drop 1
    else ts
  startsWord "fn" ts

/-- The value itself as the first input of a function, after its attributes. -/
def receiver (attributes : Attributes) : Reads FunctionInput := do
  let reference ← if ← tryOp "&" then some <$> tryLifetime else pure none
  let isMut ← tryWord "mut"
  word "self"
  let type ← if reference.isNone && (← peek (startsOp ":")) then do
      op ":"
      some <$> g.type true
    else pure none
  return .receiver attributes reference isMut type

/-- An input of a function, or the open end of its inputs, after the attributes; only the first
input may be the value itself. -/
def functionInput (first : Bool) (attributes : Attributes) :
    Reads (FunctionInput ⊕ Option Pat) := do
  match ← tryRead (g.receiver attributes) with
  | some own => if first then return .inl own else refuse
  | none =>
    if ← peek fun ts => startsName ts && startsOp "<" (ts.drop 1) then
      return .inl (.typed attributes .wild (← g.type true))
    let pattern ← g.pattern
    op ":"
    if ← tryOp "..." then return .inr (some pattern)
    return .inl (.typed attributes pattern (← g.type true))

/-- The open end of the inputs of a function. -/
def openInput (attributes : Attributes) (pattern : Option Pat) : Reads OpenInput := do
  if ← peek atEnd then return { attributes, pattern, comma := false }
  op ","
  return { attributes, pattern, comma := true }

/-- The inputs of a function, whether a comma stands after the last one, and the open end. -/
def functionInputs (first : Bool) : Nat → Reads (List FunctionInput × Bool × Option OpenInput)
  | 0 => refuse
  | fuel + 1 => do
    if ← peek atEnd then return ([], true, none)
    let attributes ← g.attributes
    if ← tryOp "..." then return ([], true, some (← openInput attributes none))
    match ← g.functionInput first attributes with
    | .inr pattern => return ([], true, some (← openInput attributes pattern))
    | .inl i =>
      if ← peek atEnd then return ([i], false, none)
      op ","
      let (rest, trailing, last) ← functionInputs false fuel
      return (i :: rest, trailing, last)

/-- The signature of a function, and whether it is marked as safe. -/
def signature (safe : Bool) : Reads (Signature × Bool) := do
  let isConst ← tryWord "const"
  let isAsync ← tryWord "async"
  let isUnsafe ← tryWord "unsafe"
  let isSafe ← if safe && !isUnsafe then tryWord "safe" else pure false
  let abi ← abi
  word "fn"
  let name ← name
  let (generics, _) ← g.generics
  let (inputs, trailing, openEnd) ← enclosed .paren do g.functionInputs true (← rounds)
  let output ← g.output true
  let (generics, _) ← g.conditions generics
  return ({ isConst, isAsync, isUnsafe, abi, name, generics, inputs, trailing, openEnd, output },
    isSafe)

/-- A function that must have a body; without one it is kept as it is written. -/
def function (isDefault : Bool) : Reads Declaration := do
  let (signature, _) ← g.signature false
  if ← tryOp ";" then return none
  let (inner, body) ← g.blockBody
  return some (inner, .function isDefault signature (some body))

/-- A function that may be without a body. -/
def declaredFunction : Reads Declaration := do
  let (signature, _) ← g.signature false
  if ← tryOp ";" then return Declaration.ofKind (.function false signature none)
  let (inner, body) ← g.blockBody
  return some (inner, .function false signature (some body))

/-! ## Constants and types -/

/-- A constant. One with parameters or conditions is kept as it is written, and so is one without a
value where that is needed. -/
def constantItem (isDefault needsValue : Bool) : Reads Declaration := do
  word "const"
  let name ← nameOrBlank
  let (generics, hasParams) ← g.generics
  op ":"
  let type ← g.type true
  let value ← if ← tryOp "=" then some <$> g.expr true else pure none
  let (_, hasConditions) ← g.conditions generics
  op ";"
  if hasParams || hasConditions || (needsValue && value.isNone) then return none
  return Declaration.ofKind (.constant isDefault name type value)

/-- A static value; one without a type or a value is kept as it is written. -/
def staticItem : Reads Declaration := do
  word "static"
  let isMut ← tryWord "mut"
  let name ← name
  if ← tryOp "=" then
    let _ ← g.expr true
    op ";"
    return none
  op ":"
  let type ← g.type true
  if ← tryOp ";" then return none
  op "="
  let value ← g.expr true
  op ";"
  return Declaration.ofKind (.static isMut name type (some value))

/-- The parts of a type declaration. -/
structure TypeParts where
  name : String
  generics : Generics
  hasColon : Bool
  bounds : List Bound
  trailing : Bool
  definition : Option Ty

/-- A type declaration; whether conditions may stand in front of the definition or behind it. -/
def typeParts (before after : Bool) : Reads TypeParts := do
  word "type"
  let name ← name
  let (generics, _) ← g.generics
  let ends (ts : Tokens) : Bool := startsWord "where" ts || startsOp "=" ts || startsOp ";" ts
  let hasColon ← tryOp ":"
  let (bounds, trailing) ← if hasColon then g.boundsUntil ends (← rounds) else pure ([], false)
  let (generics, found) ← if before then g.conditions generics else pure (generics, false)
  let definition ← if ← tryOp "=" then some <$> g.type true else pure none
  let (generics, _) ← if after && !found then g.conditions generics else pure (generics, false)
  op ";"
  return { name, generics, hasColon, bounds, trailing, definition }

/-- A type of another name. -/
def aliasItem : Reads Declaration := do
  let parts ← g.typeParts true false
  match parts.definition with
  | some type =>
    return if parts.hasColon then none
      else Declaration.ofKind (.synonym parts.name parts.generics type)
  | none => return none

/-- A type that belongs to a trait. -/
def traitType : Reads Declaration := do
  let parts ← g.typeParts false true
  return Declaration.ofKind
    (.associated false parts.name parts.generics parts.bounds parts.trailing parts.definition)

/-- A type that belongs to an implementation. -/
def implementedType (isDefault : Bool) : Reads Declaration := do
  let parts ← g.typeParts false true
  if parts.hasColon || parts.definition.isNone then return none
  return Declaration.ofKind
    (.associated isDefault parts.name parts.generics [] false parts.definition)

/-- A type that is defined elsewhere. -/
def foreignType : Reads Declaration := do
  let parts ← g.typeParts true true
  if parts.hasColon || parts.definition.isSome then return none
  return Declaration.ofKind (.associated false parts.name parts.generics [] false none)

/-! ## Structures and variants -/

/-- A field with a name, or with a placeholder for one; the type of such a field may be a structure or
union without a name. -/
def namedField : Nat → Reads FieldItem
  | 0 => refuse
  | fuel + 1 => do
    let attributes ← g.attributes
    let visibility ← visibility
    let name ← nameOrBlank
    op ":"
    let nameless ← peek fun ts => startsBlockOf "struct" ts || startsBlockOf "union" ts
    if name == "_" && nameless then
      let (_, raw) ← taken do
        let _ ← anyWord
        enclosed .brace (commaList (namedField fuel))
      return { attributes, visibility, name := some name, type := .verbatim raw }
    else return { attributes, visibility, name := some name, type := ← g.type true }

/-- A field without a name. -/
def unnamedField : Reads FieldItem := do
  let attributes ← g.attributes
  let visibility ← visibility
  return { attributes, visibility, name := none, type := ← g.type true }

/-- Fields in braces. -/
def namedFields : Reads Fields := do
  let (fields, trailing) ← enclosed .brace do commaList (g.namedField (← rounds))
  return .named fields trailing

/-- Fields between round brackets. -/
def unnamedFields : Reads Fields := do
  let (fields, trailing) ← enclosed .paren (commaList g.unnamedField)
  return .unnamed fields trailing

/-- A structure. -/
def structureItem : Reads Declaration := do
  word "struct"
  let name ← name
  let (generics, _) ← g.generics
  if ← peek (startsOpening .paren) then
    let fields ← g.unnamedFields
    let (generics, _) ← g.conditions generics
    op ";"
    return Declaration.ofKind (.structure false name generics fields)
  let (generics, _) ← g.conditions generics
  if ← tryOp ";" then return Declaration.ofKind (.structure false name generics .unit)
  return Declaration.ofKind (.structure false name generics (← g.namedFields))

/-- A union. -/
def unionItem : Reads Declaration := do
  word "union"
  let name ← name
  let (generics, _) ← g.generics
  let (generics, _) ← g.conditions generics
  return Declaration.ofKind (.structure true name generics (← g.namedFields))

/-- A variant; a visibility in front of it is dropped. -/
def variant : Reads Variant := do
  let attributes ← g.attributes
  let _ ← visibility
  let name ← name
  let fields ← if ← peek (startsOpening .brace) then g.namedFields
    else if ← peek (startsOpening .paren) then g.unnamedFields
    else pure .unit
  let discriminant ← if ← tryOp "=" then some <$> g.expr true else pure none
  return { attributes, name, fields, discriminant }

/-- An enumeration. -/
def enumerationItem : Reads Declaration := do
  word "enum"
  let name ← name
  let (generics, _) ← g.generics
  let (generics, _) ← g.conditions generics
  let (variants, trailing) ← enclosed .brace (commaList g.variant)
  return Declaration.ofKind (.enumeration name generics variants trailing)

/-! ## Expansions -/

/-- An expansion as an item; whether it may declare a name. -/
def expansionItem (named : Bool) : Reads Declaration := do
  let path ← modPath
  op "!"
  let name ← if named && (← peek fun ts => startsName ts || startsWord "try" ts) then
      some <$> anyWord
    else pure none
  let (d, body) ← group
  if d != .brace then op ";"
  return Declaration.ofKind (.expansion path name d body)

/-- A path of names starts here. -/
def startsModPath (ts : Tokens) : Bool :=
  startsName ts || startsOneOf ["self", "super", "crate"] ts || startsOp "::" ts

/-! ## Members -/

/-- An item after its attributes and visibility, put together. -/
def assemble (before : Reads (Attributes × Visibility × Declaration)) : Reads Item := do
  let ((attributes, visibility, declaration), raw) ← taken before
  match declaration with
  | some (inner, kind) => return .mk attributes inner visibility kind
  | none => return .mk [] [] .inherited (.verbatim raw)

/-- Nothing is said about who can see an item. -/
def isInherited : Visibility → Bool
  | .inherited => true
  | .everywhere | .within .. => false

/-- A member of a trait. One with a visibility or a default mark is kept as it is written. -/
def traitMember : Reads Item := assemble do
  let attributes ← g.attributes
  let visibility ← visibility
  let isDefault ← tryWord "default"
  let plain := isInherited visibility && !isDefault
  let declaration ←
    if ← peek (startsSignature false) then g.declaredFunction
    else if ← peek (startsWord "const") then g.constantItem false false
    else if ← peek (startsWord "type") then g.traitType
    else if plain && (← peek startsModPath) then expansionItem false
    else refuse
  return (attributes, .inherited, if plain then declaration else none)

/-- A member of an implementation. -/
def implementedMember : Reads Item := assemble do
  let attributes ← g.attributes
  let visibility ← visibility
  let isDefault ← if ← peek fun ts => startsWord "default" ts && !startsOp "!" (ts.drop 1) then
      tryWord "default"
    else pure false
  let declaration ←
    if ← peek (startsSignature false) then g.function isDefault
    else if ← peek (startsWord "const") then g.constantItem isDefault true
    else if ← peek (startsWord "type") then g.implementedType isDefault
    else if isInherited visibility && !isDefault && (← peek startsModPath) then
      expansionItem false
    else refuse
  return (attributes, visibility, declaration)

/-- A function that is defined elsewhere; one with a body or a safe mark is kept as it is written. -/
def foreignFunction : Reads Declaration := do
  let (signature, isSafe) ← g.signature true
  if ← peek (startsOpening .brace) then
    let _ ← g.blockBody
    return none
  op ";"
  return if isSafe then none else Declaration.ofKind (.function false signature none)

/-- A static value that is defined elsewhere; one with a value or a mark is kept as it is written. -/
def foreignStatic : Reads Declaration := do
  let isMarked ← if ← tryWord "unsafe" then pure true else tryWord "safe"
  word "static"
  let isMut ← tryWord "mut"
  let name ← name
  op ":"
  let type ← g.type true
  let value ← if ← tryOp "=" then some <$> g.expr true else pure none
  op ";"
  if isMarked || value.isSome then return none
  return Declaration.ofKind (.static isMut name type none)

/-- A member of a foreign block. -/
def foreignMember : Reads Item := assemble do
  let attributes ← g.attributes
  let visibility ← visibility
  let declaration ←
    if ← peek (startsSignature true) then g.foreignFunction
    else if ← peek fun ts => startsWord "static" ts ||
        (startsOneOf ["unsafe", "safe"] ts && startsWord "static" (ts.drop 1)) then
      g.foreignStatic
    else if ← peek (startsWord "type") then g.foreignType
    else if isInherited visibility && (← peek startsModPath) then expansionItem false
    else refuse
  return (attributes, visibility, declaration)

/-- Members in braces, behind the attributes inside. -/
def members (member : Reads Item) : Reads (Attributes × List Item) :=
  enclosed .brace do
    return (← g.innerAttributes, ← manyWhile (fun ts => !atEnd ts) member (← rounds))

/-! ## Traits and implementations -/

/-- A trait, or a name for bounds. -/
def traitItem : Reads Declaration := do
  let isUnsafe ← tryWord "unsafe"
  let isAuto ← tryWord "auto"
  word "trait"
  let name ← name
  let (generics, _) ← g.generics
  if !isUnsafe && !isAuto && (← peek (startsOp "=")) then
    op "="
    let ends (ts : Tokens) : Bool := startsWord "where" ts || startsOp ";" ts
    let (bounds, trailing) ← g.boundsUntil ends (← rounds)
    let (generics, _) ← g.conditions generics
    op ";"
    return Declaration.ofKind (.traitAlias name generics bounds trailing)
  let ends (ts : Tokens) : Bool := startsWord "where" ts || startsOpening .brace ts
  let (bounds, trailing) ← if ← tryOp ":" then g.boundsUntil ends (← rounds)
    else pure ([], false)
  let (generics, _) ← g.conditions generics
  let (inner, items) ← g.members g.traitMember
  return some (inner, .trait isUnsafe isAuto name generics bounds trailing items)

/-- An implementation. One that is constant, has a visibility or names no trait by a path is kept as it
is written. -/
def implementationItem (visible : Bool) : Reads Declaration := do
  let isDefault ← tryWord "default"
  let isUnsafe ← tryWord "unsafe"
  word "impl"
  let (generics, _) ← if ← peek startsParams then g.generics else pure ({}, false)
  let isConst ← if ← peek fun ts => startsOp "?" ts && startsWord "const" (ts.drop 1) then do
      op "?"
      tryWord "const"
    else tryWord "const"
  let ((isNegative, first), raw) ← taken do
    let isNegative ← if ← peek fun ts => startsOp "!" ts && !startsOpening .brace (ts.drop 1) then
        tryOp "!"
      else pure false
    return (isNegative, ← g.type true)
  let (kept, implemented, self) ← if ← tryWord "for" then do
      let self ← g.type true
      match first with
      | .path (.plain isGlobal segments) =>
        pure (false, some (isNegative, Path.plain isGlobal segments), self)
      | _ => pure (true, none, self)
    else pure (false, none, if isNegative then .verbatim raw else first)
  let (generics, _) ← g.conditions generics
  let (inner, items) ← g.members g.implementedMember
  if visible || isConst || kept then return none
  return some (inner, .implementation isDefault isUnsafe generics implemented self items)

/-! ## Modules and imports -/

/-- A module. -/
def moduleItem : Reads Declaration := do
  let isUnsafe ← tryWord "unsafe"
  word "mod"
  let name ← if ← peek (startsWord "try") then anyWord else name
  if ← tryOp ";" then return Declaration.ofKind (.submodule isUnsafe name none)
  let (inner, items) ← g.members g.item
  return some (inner, .submodule isUnsafe name (some items))

/-- A block of items that are defined elsewhere. -/
def foreignItem : Reads Declaration := do
  let isUnsafe ← tryWord "unsafe"
  let some abi ← abi | refuse
  let (inner, items) ← g.members g.foreignMember
  return some (inner, .foreign isUnsafe abi items)

/-- A crate that is brought in. -/
def externCrateItem : Reads Declaration := do
  word "extern"
  word "crate"
  let name ← if ← peek (startsWord "self") then anyWord else name
  let other ← if ← tryWord "as" then some <$> nameOrBlank else pure none
  op ";"
  return Declaration.ofKind (.externCrate name other)

/-- What an import brings in; nothing if a part of it starts with a separator, which is allowed where
no path stands in front of it. -/
def useTree (atRoot : Bool) : Nat → Reads (Option UseTree)
  | 0 => refuse
  | fuel + 1 => do
    if ← tryOp "*" then return some .glob
    if ← peek (startsOpening .brace) then
      let part : Reads (Option UseTree) := do
        let isGlobal ← if atRoot then tryOp "::" else pure false
        let tree ← useTree (atRoot && !isGlobal) fuel
        return if isGlobal then none else tree
      let (trees, trailing) ← enclosed .brace (commaList part)
      return (trees.mapM id).map fun trees => .group trees trailing
    if !(← peek fun ts => startsName ts || startsOneOf ["self", "super", "crate", "try"] ts) then
      refuse
    let name ← anyWord
    if ← tryOp "::" then return (← useTree false fuel).map (.path name)
    if ← tryWord "as" then return some (.rename name (← nameOrBlank))
    return some (.name name)

/-- An import. -/
def useItem : Reads Declaration := do
  word "use"
  let isGlobal ← tryOp "::"
  let tree ← useTree (!isGlobal) (← rounds)
  op ";"
  return tree.map fun tree => ([], .use isGlobal tree)

/-- A declared macro of the newer kind, which is kept as it is written. -/
def keptExpansion : Reads Declaration := do
  word "macro"
  let _ ← name
  if ← peek (startsOpening .paren) then
    let _ ← group
  if !(← peek (startsOpening .brace)) then refuse
  let _ ← group
  return none

/-! ## Items -/

/-- What an item with an unsafe mark declares. -/
def unsafeItem (visibility : Visibility) : Reads Declaration := do
  let second := (← get).drop 1
  if startsWord "trait" second ||
      (startsWord "auto" second && startsWord "trait" (second.drop 1)) then g.traitItem
  else if startsWord "impl" second then g.implementationItem (!isInherited visibility)
  else if startsWord "extern" second && isInherited visibility then g.foreignItem
  else if startsWord "mod" second then g.moduleItem
  else refuse

/-- What an item declares. -/
def declaration (visibility : Visibility) : Reads Declaration := do
  if ← peek (startsSignature false) then g.function false
  else if ← peek (startsWord "extern") then
    if ← peek fun ts => startsWord "crate" (ts.drop 1) then externCrateItem
    else if isInherited visibility then g.foreignItem
    else refuse
  else if ← peek (startsWord "use") then useItem
  else if ← peek (startsWord "static") then g.staticItem
  else if ← peek (startsWord "const") then g.constantItem false true
  else if ← peek (startsWord "unsafe") then g.unsafeItem visibility
  else if ← peek (startsWord "mod") then g.moduleItem
  else if ← peek (startsWord "type") then g.aliasItem
  else if ← peek (startsWord "struct") then g.structureItem
  else if ← peek (startsWord "enum") then g.enumerationItem
  else if ← peek fun ts => startsWord "union" ts && startsName (ts.drop 1) then g.unionItem
  else if ← peek fun ts => startsWord "trait" ts ||
      (startsWord "auto" ts && startsWord "trait" (ts.drop 1)) then g.traitItem
  else if ← peek fun ts => startsWord "impl" ts ||
      (startsWord "default" ts && !startsOp "!" (ts.drop 1)) then
    g.implementationItem (!isInherited visibility)
  else if ← peek (startsWord "macro") then keptExpansion
  else if isInherited visibility && (← peek startsModPath) then expansionItem true
  else refuse

/-- An item. -/
def itemStep : Reads Item := assemble do
  let attributes ← g.attributes
  let visibility ← visibility
  return (attributes, visibility, ← g.declaration visibility)

end Grammar

end CrudScaffold.Code
