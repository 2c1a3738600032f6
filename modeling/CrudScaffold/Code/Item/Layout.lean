import CrudScaffold.Code.Expr.Layout
import CrudScaffold.Code.Item

/-!
# Layout of items

Every item ends its last line, and no empty lines stand between items.
-/

namespace CrudScaffold.Code

open Layout

/-! ## Parts of items -/

/-- A text if a condition holds. -/
def textWhen (condition : Bool) (s : String) : Layout := if condition then text s else []

/-- A narrowed visibility is written without its keyword below these names. -/
def isNearby (p : Path) : Bool := ["self", "super", "crate"].contains p.modText

/-- Layout of a visibility. -/
def Visibility.layout : Visibility → Layout
  | .inherited => []
  | .everywhere => text "pub "
  | .within _ path =>
    text "pub(" ++ textWhen (!isNearby path) "in " ++ text path.modText ++ text ") "

/-- A list that is indented by what stands around it. -/
def outerList (items : Layout) : Layout := together 0 (cut ++ items)

/-- Layout of a condition. -/
def WherePredicate.layout (e : Embedding) : WherePredicate → Layout
  | .lifetime name bounds _ =>
    let parts := bounds.map lifetimeLayout
    lifetimeLayout name ++ text ":" ++
      filled step (parts.zipIdx.flatMap fun (part, i) =>
        (if i == 0 then text " " else space ++ text "+ ") ++ part)
  | .type binder bounded bounds _ =>
    binder.layout e ++ bounded.layout e ++ text ":" ++
      filled (if bounds.length == 1 then 0 else step) (boundsLayout e " " true bounds)

namespace Generics

/-- Layout of the parameters. -/
def paramLayout (e : Embedding) (g : Generics) : Layout :=
  if g.params.isEmpty then []
  else
    text "<" ++ outerList (commaItems (sortedLayouts (paramLayouts e g.params))) ++ text ">"

/-- Layout of the conditions, each on a line of its own, in front of a body. -/
def whereLines (e : Embedding) (g : Generics) : Layout :=
  if g.conditions.isEmpty then text " "
  else
    takeBack lineEnd ++ text "where" ++ lineEnd ++
      takeBack (g.conditions.flatMap fun c => c.layout e ++ text "," ++ lineEnd)

/-- Layout of the conditions, each on a line of its own, with a semicolon at the end. -/
def whereLinesEnd (e : Embedding) (g : Generics) : Layout :=
  if g.conditions.isEmpty then text ";"
  else
    takeBack lineEnd ++ text "where" ++ lineEnd ++
      between (text "," ++ lineEnd) (g.conditions.map (WherePredicate.layout e)) ++ text ";"

/-- Layout of the conditions on one line if they fit, in front of a definition. -/
def whereLine (e : Embedding) (g : Generics) : Layout :=
  if g.conditions.isEmpty then text " "
  else
    takeBack space ++ text "where" ++ space ++
      takeBack (fieldItems (g.conditions.map (WherePredicate.layout e)) none)

/-- Layout of the conditions on one line if they fit, with a semicolon at the end. -/
def whereLineEnd (e : Embedding) (g : Generics) : Layout :=
  if g.conditions.isEmpty then text ";"
  else
    takeBack space ++ text "where" ++ space ++
      separated (text ";") (g.conditions.map (WherePredicate.layout e))

end Generics

/-- Layout of a field. -/
def FieldItem.layout (e : Embedding) (f : FieldItem) : Layout :=
  attributesLayout e f.attributes ++ f.visibility.layout ++ namedLayout f.name ++ f.type.layout e

/-- Layout of fields between round brackets. -/
def unnamedFields (e : Embedding) (fields : List FieldItem) : Layout :=
  text "(" ++ takeBack (cut ++ separated (gap { before := "," }) (fields.map (FieldItem.layout e))) ++
    text ")"

/-- Lines of members, each with a comma. -/
def commaLines (members : List Layout) : Layout :=
  members.flatMap fun m => m ++ text "," ++ lineEnd

/-- Members in braces behind a head, one to a line. -/
def bodyLayout (head lines : Layout) : Layout :=
  together step (head ++ text "\x7b" ++ takeBack (innerLineEnd ++ lines)) ++ text "\x7d"

/-- Layout of a variant. -/
def Variant.layout (e : Embedding) (v : Variant) : Layout :=
  attributesLayout e v.attributes ++ text v.name ++
    (match v.fields with
      | .unit => []
      | .named fields _ =>
        text " " ++ text "\x7b" ++
          together step
            (takeBack (space ++ fieldItems (fields.map (FieldItem.layout e)) none)) ++
          text "\x7d"
      | .unnamed fields _ => together step (unnamedFields e fields)) ++
    match v.discriminant with
    | some value => text " = " ++ value.layout e .inside
    | none => []

/-- Layout of an input of a function. -/
def FunctionInput.layout (e : Embedding) : FunctionInput → Layout
  | .receiver attributes reference isMut type =>
    attributesLayout e attributes ++
      (match reference with
        | some (some l) => text "&" ++ lifetimeLayout l ++ text " "
        | some none => text "&"
        | none => []) ++
      textWhen isMut "mut " ++ text "self" ++
      match type with
      | some t => text ": " ++ t.layout e
      | none => []
  | .typed attributes pattern type =>
    attributesLayout e attributes ++ pattern.layout e ++ text ": " ++ type.layout e

/-- Layout of the open end of the inputs of a function. -/
def OpenInput.layout (e : Embedding) (o : OpenInput) : Layout :=
  attributesLayout e o.attributes ++
    (match o.pattern with
      | some p => p.layout e ++ text ": "
      | none => []) ++
    text "..."

/-- Layout of a signature without its conditions. -/
def Signature.layout (e : Embedding) (s : Signature) : Layout :=
  textWhen s.isConst "const " ++ textWhen s.isAsync "async " ++ textWhen s.isUnsafe "unsafe " ++
    abiLayout s.abi ++ text "fn " ++ text s.name ++ s.generics.paramLayout e ++ text "(" ++ glue ++
    (if s.inputs.isEmpty && s.openEnd.isNone then []
     else outerList
      (openList (s.inputs.map (FunctionInput.layout e)) (s.openEnd.map (OpenInput.layout e)))) ++
    text ")" ++ together (-step) (outputLayout e s.output)

mutual
/-- Layout of what an import brings in. -/
def UseTree.layout : UseTree → Layout
  | .path first tree => text first ++ text "::" ++ tree.layout
  | .name own => text own
  | .rename own other => text own ++ text " as " ++ text other
  | .glob => text "*"
  | .group trees _ =>
    text "\x7b" ++
      together step (cut ++ filled 0 (useLayouts trees) ++ takeBack (gap { before := "," })) ++
      text "\x7d"

/-- Layouts of the parts of an import; the line ends behind a part that is a group itself. -/
def useLayouts : List UseTree → Layout
  | [] => []
  | t :: rest =>
    t.layout ++
      (if rest.isEmpty then [] else text "," ++ if t.endsInGroup then lineEnd else space) ++
      useLayouts rest

/-- A part of an import is a group, possibly below a path. -/
def UseTree.endsInGroup : UseTree → Bool
  | .path _ tree => tree.endsInGroup
  | .group .. => true
  | .name _ | .rename .. | .glob => false
end

/-- Layout of an optional value behind a type. -/
def valueLayout (e : Embedding) : Option Expr → Layout
  | some value => text " = " ++ glue ++ value.layout e .inside
  | none => []

/-! ## Items -/

mutual
/-- Layout of an item; `isForeign` for one that is only declared because it is defined elsewhere. -/
def Item.layout (e : Embedding) (isForeign : Bool) : Item → Layout
  | .mk attributes inner visibility kind =>
    attributesLayout e attributes ++
      kind.layout e isForeign visibility.layout (innerAttributesLayout e inner) ++ lineEnd

/-- Layout of what an item declares, with its visibility in front and the attributes inside. -/
def ItemKind.layout (e : Embedding) (isForeign : Bool) (visibility inner : Layout) :
    ItemKind → Layout
  | .structure isUnion name generics fields =>
    let head := visibility ++ text (if isUnion then "union " else "struct ") ++ text name ++
      generics.paramLayout e
    match fields with
    | .named fields _ =>
      bodyLayout (head ++ generics.whereLines e) (commaLines (fields.map (FieldItem.layout e)))
    | .unnamed fields _ =>
      together step (head ++ unnamedFields e fields ++ generics.whereLinesEnd e)
    | .unit => together step (head ++ generics.whereLinesEnd e)
  | .enumeration name generics variants _ =>
    bodyLayout
      (visibility ++ text "enum " ++ text name ++ generics.paramLayout e ++ generics.whereLines e)
      (commaLines (variants.map (Variant.layout e)))
  | .synonym name generics type =>
    together step (visibility ++ text "type " ++ text name ++ generics.paramLayout e ++
      generics.whereLine e ++ text "= " ++ glue ++ filled (-step) (type.layout e) ++ text ";")
  | .associated isDefault name generics bounds _ definition =>
    let head := visibility ++ textWhen isDefault "default " ++ text "type " ++ text name ++
      generics.paramLayout e
    if isForeign then together 0 (head ++ text ";")
    else
      together step
        (head ++ boundsLayout e ": " true bounds ++
          (match definition with
            | some t => text " = " ++ glue ++ filled (-step) (t.layout e)
            | none => []) ++
          generics.whereLineEnd e)
  | .trait isUnsafe isAuto name generics bounds _ members =>
    let above := boundLayouts e bounds
    bodyLayout
      (visibility ++ textWhen isUnsafe "unsafe " ++ textWhen isAuto "auto " ++ text "trait " ++
        text name ++ generics.paramLayout e ++
        (if above.isEmpty then [] else text ": " ++ joined " + " above) ++ generics.whereLines e)
      (inner ++ itemLayouts e false members)
  | .traitAlias name generics bounds _ =>
    together step
      (visibility ++ text "trait " ++ text name ++ generics.paramLayout e ++ text " = " ++ glue ++
        boundsLayout e "" true bounds ++ generics.whereLinesEnd e)
  | .implementation isDefault isUnsafe generics implemented self members =>
    bodyLayout
      (filled (-step)
        (together step
          (textWhen isDefault "default " ++ textWhen isUnsafe "unsafe " ++ text "impl" ++
            generics.paramLayout e) ++
          text " " ++
          (match implemented with
            | some (isNegative, path) =>
              textWhen isNegative "!" ++ path.layout e .inType ++ space ++ text "for "
            | none => []) ++
          self.layout e) ++
        generics.whereLines e)
      (inner ++ itemLayouts e false members)
  | .function isDefault signature body =>
    let head := visibility ++ textWhen isDefault "default " ++ signature.layout e
    match body with
    | some stmts => bodyLayout (head ++ signature.generics.whereLines e) (inner ++ stmtLayouts e stmts)
    | none => together step (head ++ signature.generics.whereLinesEnd e)
  | .constant isDefault name type value =>
    together 0
      (visibility ++ textWhen isDefault "default " ++ text "const " ++ text name ++ text ": " ++
        type.layout e ++ valueLayout e value ++ text ";")
  | .static isMut name type value =>
    together 0
      (visibility ++ text "static " ++ textWhen isMut "mut " ++ text name ++ text ": " ++
        type.layout e ++ valueLayout e value ++ text ";")
  | .submodule isUnsafe name items =>
    let head := visibility ++ textWhen isUnsafe "unsafe " ++ text "mod " ++ text name
    match items with
    | some items => bodyLayout (head ++ text " ") (inner ++ itemLayouts e false items)
    | none => together step (head ++ text ";")
  | .foreign isUnsafe abi members =>
    bodyLayout
      (textWhen isUnsafe "unsafe " ++ abiLayout (some abi))
      (inner ++ itemLayouts e true members)
  | .externCrate name other =>
    visibility ++ text "extern crate " ++ text name ++
      (match other with
        | some o => text " as " ++ text o
        | none => []) ++
      text ";"
  | .use isGlobal tree =>
    visibility ++ text "use " ++ textWhen isGlobal "::" ++ tree.layout ++ text ";"
  | .expansion path name d body => Expansion.layout path.modText name d body (d != .brace)
  | .verbatim _ => unprintable

/-- Layouts of items. -/
def itemLayouts (e : Embedding) (isForeign : Bool) : List Item → Layout
  | [] => []
  | i :: rest => i.layout e isForeign ++ itemLayouts e isForeign rest
end

end CrudScaffold.Code
