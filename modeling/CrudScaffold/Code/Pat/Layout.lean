import CrudScaffold.Code.Expr
import CrudScaffold.Code.Tree.Layout

/-!
# Layout of patterns
-/

namespace CrudScaffold.Code

open Layout

/-- A pattern that may share a line with other alternatives. -/
def Pat.fillsLines : Pat → Bool
  | .literal .. | .wild => true
  | .marked _ (.literal ..) | .marked _ .wild => true
  | _ => false

/-- Layout of a path whose type in front is left out. -/
def Path.tailLayout (e : Embedding) : Path → Layout
  | .ofType _ rest => text "::" ++ joined "::" (segmentLayouts e .inExpr rest)
  | .ofTrait _ (.plain isGlobal segments) rest =>
    (if isGlobal then text "::" else []) ++
      joined "::" (segmentLayouts e .inExpr (segments ++ rest))
  | path => path.layout e .inExpr

mutual
/-- Layout of a pattern. -/
def Pat.layout (e : Embedding) : Pat → Layout
  | .wild => text "_"
  | .rest => text ".."
  | .literal negative s => text (if negative then "-" ++ s else s)
  | .constant block => e.constant block
  | .range first isClosed last =>
    let limit (ts : Tokens) : Layout := if ts.isEmpty then [] else e.constant ts
    limit first ++ text (if isClosed then "..=" else "..") ++ limit last
  | .binding isRef isMut name sub =>
    text ((if isRef then "ref " else "") ++ (if isMut then "mut " else "") ++ name) ++
      match sub with
      | some p => text " @ " ++ p.layout e
      | none => []
  | .path path => path.layout e .inExpr
  | .tuple [p] trailing =>
    text "(" ++
      together step (cut ++ p.layout e ++ (if trailing then text "," else []) ++ takeBack cut) ++
      text ")"
  | .tuple elems _ => text "(" ++ commaList (patLayouts e elems) ++ text ")"
  | .tupleStruct path elems _ =>
    path.tailLayout e ++ text "(" ++ commaList (patLayouts e elems) ++ text ")"
  | .structure path fields _ rest =>
    together step
      (path.tailLayout e ++ text " \x7b" ++
        takeBack (gap { blanks := 1, inner := true } ++
          fieldItems (fieldPatLayouts e fields)
            (rest.map fun attributes => attributesLayout e attributes ++ text ".."))) ++
      text "\x7d"
  | .slice elems _ => text "[" ++ separated (gap { before := "," }) (patLayouts e elems) ++ text "]"
  | .reference isMut pat => text (if isMut then "&mut " else "&") ++ pat.layout e
  | .paren pat => text "(" ++ pat.layout e ++ text ")"
  | .alternatives _ cases =>
    let style := if cases.all Pat.fillsLines then Style.inconsistent else .consistent
    [.group style 0 none (barLayouts e true cases)]
  | .typed pat type => pat.layout e ++ text ": " ++ type.layout e
  | .expansion path d body => expansionLayout path d body false
  | .marked attributes pat => attributesLayout e attributes ++ pat.layout e
  | .verbatim _ => unprintable

/-- Layouts of patterns. -/
def patLayouts (e : Embedding) : List Pat → List Layout
  | [] => []
  | p :: rest => p.layout e :: patLayouts e rest

/-- Alternatives, each but the first after a bar. -/
def barLayouts (e : Embedding) (first : Bool) : List Pat → Layout
  | [] => []
  | p :: rest =>
    (if first then [] else space ++ text "| ") ++ p.layout e ++ barLayouts e false rest

/-- Layouts of the patterns of fields. -/
def fieldPatLayouts (e : Embedding) : List FieldPat → List Layout
  | [] => []
  | f :: rest => f.layout e :: fieldPatLayouts e rest

/-- Layout of the pattern of one field. -/
def FieldPat.layout (e : Embedding) : FieldPat → Layout
  | .mk attributes member pattern =>
    attributesLayout e attributes ++ namedLayout member ++ pattern.layout e
end

end CrudScaffold.Code
