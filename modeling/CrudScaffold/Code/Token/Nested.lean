import CrudScaffold.Code.Token

/-!
# Nested tokens

A stream with every bracketed part as one unit. A lifetime is taken apart into its tick and its name.
-/

namespace CrudScaffold.Code

/-- A token that is no bracket, or a bracketed part. -/
inductive Nested where
  | leaf (token : Token)
  | group (delimiter : Delimiter) (body : List Nested)

namespace Nested

/-- The units of a stream up to the bracket that closes the part it stands in, and those of the parts
around it, the inner ones first. -/
def unitsFrom : Tokens → List Nested × List (List Nested)
  | [] => ([], [])
  | t :: rest =>
    let (units, outer) := unitsFrom rest
    match t with
    | .closing _ => ([], units :: outer)
    | .opening d => (.group d units :: outer.headD [], outer.drop 1)
    | .lifetime name => (.leaf (.punct '\'' true) :: .leaf (.ident name) :: units, outer)
    | t => (.leaf t :: units, outer)

/-- The units of a stream. -/
def ofTokens (ts : Tokens) : List Nested := (unitsFrom ts).1

end Nested

end CrudScaffold.Code
