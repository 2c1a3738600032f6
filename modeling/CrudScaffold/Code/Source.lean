import CrudScaffold.Code.Item.Layout
import CrudScaffold.Code.Reading
import CrudScaffold.Layout.Lines

/-!
# Source text of items
-/

namespace CrudScaffold.Code

open Layout

/-- How embedded parts are set: their tokens are read again, parts inside them with one level of
nesting less. -/
def Embedding.ofNesting : Nat → Embedding
  | 0 => { constant := fun ts => text (Token.render ts), item := fun ts => text (Token.render ts) }
  | depth + 1 =>
    let inner := ofNesting depth
    { constant := fun ts =>
        match Expr.ofTokens? ts with
        | some e => e.layout inner .inside
        | none => text (Token.render ts)
      item := fun ts =>
        match Item.ofTokens? ts with
        | some i => i.layout inner false
        | none => text (Token.render ts) }

/-- The source text of items in which parts are nested at most so deep, if every part of them can be
printed. -/
def Item.source? (items : List Item) (nesting : Nat) : Option String :=
  Layout.toText? (together 0 (itemLayouts (.ofNesting nesting) false items))

end CrudScaffold.Code
