import CrudScaffold.Code.Expr.Tokens
import CrudScaffold.Code.Item

/-!
# Tokens of items

Parameters and conditions that are listed empty leave no tokens behind.
-/

namespace CrudScaffold.Code

open Token

/-- Tokens of a visibility. -/
def Visibility.tokens : Visibility → Tokens
  | .inherited => []
  | .everywhere => word "pub"
  | .within hasIn path => word "pub" ++ enclose .paren (when hasIn (word "in") ++ path.tokens)

/-- Tokens of a condition. -/
def WherePredicate.tokens : WherePredicate → Tokens
  | .lifetime name bounds trailing =>
    [.lifetime name] ++ op ":" ++ pluses trailing (bounds.map fun b => [.lifetime b])
  | .type binder bounded bounds trailing =>
    binder.tokens ++ bounded.tokens ++ op ":" ++ pluses trailing (boundTokens bounds)

namespace Generics

/-- Tokens of the parameters. -/
def paramTokens (g : Generics) : Tokens := paramsTokens g.params g.trailing

/-- Tokens of the conditions. -/
def whereTokens (g : Generics) : Tokens :=
  when (!g.conditions.isEmpty)
    (word "where" ++ commas g.conditionsTrailing (g.conditions.map WherePredicate.tokens))

end Generics

/-- Tokens of a field. -/
def FieldItem.tokens (f : FieldItem) : Tokens :=
  attributesTokens f.attributes ++ f.visibility.tokens ++ namedTokens f.name ++ f.type.tokens

/-- Tokens of fields. -/
def Fields.tokens : Fields → Tokens
  | .unit => []
  | .named fields trailing => enclose .brace (commas trailing (fields.map FieldItem.tokens))
  | .unnamed fields trailing => enclose .paren (commas trailing (fields.map FieldItem.tokens))

/-- Tokens of a variant. -/
def Variant.tokens (v : Variant) : Tokens :=
  attributesTokens v.attributes ++ word v.name ++ v.fields.tokens ++
    match v.discriminant with
    | some e => op "=" ++ e.tokens
    | none => []

/-- Tokens of an input of a function. -/
def FunctionInput.tokens : FunctionInput → Tokens
  | .receiver attributes reference isMut type =>
    attributesTokens attributes ++
      (match reference with
        | some (some l) => op "&" ++ [.lifetime l]
        | some none => op "&"
        | none => []) ++
      when isMut (word "mut") ++ word "self" ++
      match type with
      | some t => op ":" ++ t.tokens
      | none => []
  | .typed attributes pattern type =>
    attributesTokens attributes ++ pattern.tokens ++ op ":" ++ type.tokens

/-- Tokens of the open end of inputs. -/
def OpenInput.tokens (o : OpenInput) : Tokens :=
  attributesTokens o.attributes ++
    (match o.pattern with
      | some p => p.tokens ++ op ":"
      | none => []) ++
    op "..." ++ when o.comma (op ",")

/-- Tokens of a signature. -/
def Signature.tokens (s : Signature) : Tokens :=
  when s.isConst (word "const") ++ when s.isAsync (word "async") ++
    when s.isUnsafe (word "unsafe") ++ abiTokens s.abi ++ word "fn" ++ word s.name ++
    s.generics.paramTokens ++
    enclose .paren
      (withOpenEnd (s.inputs.map FunctionInput.tokens) s.trailing
        (s.openEnd.map OpenInput.tokens)) ++
    outputTokens s.output ++ s.generics.whereTokens

mutual
/-- Tokens of what an import brings in. -/
def UseTree.tokens : UseTree → Tokens
  | .path first tree => word first ++ op "::" ++ tree.tokens
  | .name own => word own
  | .rename own other => word own ++ word "as" ++ word other
  | .glob => op "*"
  | .group trees trailing => enclose .brace (commas trailing (useTokens trees))

/-- Tokens of each part of an import. -/
def useTokens : List UseTree → List Tokens
  | [] => []
  | t :: rest => t.tokens :: useTokens rest
end

/-- Tokens of an optional value. -/
def valueTokens : Option Expr → Tokens
  | some e => op "=" ++ e.tokens
  | none => []

mutual
/-- Tokens of an item. -/
def Item.tokens : Item → Tokens
  | .mk attributes inner visibility kind =>
    attributesTokens attributes ++ kind.tokens visibility.tokens (innerAttributesTokens inner)

/-- Tokens of what an item declares, with its visibility in front and the attributes inside. -/
def ItemKind.tokens (visibility inner : Tokens) : ItemKind → Tokens
  | .structure isUnion name generics fields =>
    visibility ++ word (if isUnion then "union" else "struct") ++ word name ++
      generics.paramTokens ++
      (match fields with
        | .named .. => generics.whereTokens ++ fields.tokens
        | .unnamed .. | .unit => fields.tokens ++ generics.whereTokens ++ op ";")
  | .enumeration name generics variants trailing =>
    visibility ++ word "enum" ++ word name ++ generics.paramTokens ++ generics.whereTokens ++
      enclose .brace (commas trailing (variants.map Variant.tokens))
  | .synonym name generics type =>
    visibility ++ word "type" ++ word name ++ generics.paramTokens ++ generics.whereTokens ++
      op "=" ++ type.tokens ++ op ";"
  | .associated isDefault name generics bounds trailing definition =>
    visibility ++ when isDefault (word "default") ++ word "type" ++ word name ++
      generics.paramTokens ++
      when (!bounds.isEmpty) (op ":" ++ pluses trailing (boundTokens bounds)) ++
      (match definition with
        | some t => op "=" ++ t.tokens
        | none => []) ++
      generics.whereTokens ++ op ";"
  | .trait isUnsafe isAuto name generics bounds trailing members =>
    visibility ++ when isUnsafe (word "unsafe") ++ when isAuto (word "auto") ++ word "trait" ++
      word name ++ generics.paramTokens ++
      when (!bounds.isEmpty) (op ":" ++ pluses trailing (boundTokens bounds)) ++
      generics.whereTokens ++ enclose .brace (inner ++ itemTokens members)
  | .traitAlias name generics bounds trailing =>
    visibility ++ word "trait" ++ word name ++ generics.paramTokens ++ op "=" ++
      pluses trailing (boundTokens bounds) ++ generics.whereTokens ++ op ";"
  | .implementation isDefault isUnsafe generics implemented self members =>
    when isDefault (word "default") ++ when isUnsafe (word "unsafe") ++ word "impl" ++
      generics.paramTokens ++
      (match implemented with
        | some (isNegative, path) => when isNegative (op "!") ++ path.tokens ++ word "for"
        | none => []) ++
      self.tokens ++ generics.whereTokens ++ enclose .brace (inner ++ itemTokens members)
  | .function isDefault signature body =>
    visibility ++ when isDefault (word "default") ++ signature.tokens ++
      (match body with
        | some stmts => enclose .brace (inner ++ stmtTokens stmts)
        | none => op ";")
  | .constant isDefault name type value =>
    visibility ++ when isDefault (word "default") ++ word "const" ++ word name ++ op ":" ++
      type.tokens ++ valueTokens value ++ op ";"
  | .static isMut name type value =>
    visibility ++ word "static" ++ when isMut (word "mut") ++ word name ++ op ":" ++
      type.tokens ++ valueTokens value ++ op ";"
  | .submodule isUnsafe name items =>
    visibility ++ when isUnsafe (word "unsafe") ++ word "mod" ++ word name ++
      (match items with
        | some items => enclose .brace (inner ++ itemTokens items)
        | none => op ";")
  | .foreign isUnsafe abi members =>
    when isUnsafe (word "unsafe") ++ abiTokens (some abi) ++
      enclose .brace (inner ++ itemTokens members)
  | .externCrate name other =>
    visibility ++ word "extern" ++ word "crate" ++ word name ++
      (match other with
        | some o => word "as" ++ word o
        | none => []) ++
      op ";"
  | .use isGlobal tree =>
    visibility ++ word "use" ++ when isGlobal (op "::") ++ tree.tokens ++ op ";"
  | .expansion path name delimiter body =>
    path.tokens ++ op "!" ++
      (match name with
        | some n => word n
        | none => []) ++
      enclose delimiter body ++ when (delimiter != .brace) (op ";")
  | .verbatim ts => ts

/-- Tokens of items. -/
def itemTokens : List Item → Tokens
  | [] => []
  | i :: rest => i.tokens ++ itemTokens rest
end

end CrudScaffold.Code
