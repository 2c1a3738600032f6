import CrudScaffold.Code.Grammar.Item
import CrudScaffold.Code.Lexer

/-!
# Reading generated code

Whole streams and texts as types, paths, expressions, names and items. What stands inside a part is
read by the grammar of the next level down; there are levels enough for every stream, since a level is
left at the latest after every few tokens.
-/

namespace CrudScaffold.Code

open Reads

namespace Grammar

/-- The grammar one level up. -/
def next (g : Grammar) : Grammar where
  type := g.typeStep
  bound := g.boundStep
  pattern := g.patternStep
  operand := g.operandStep
  climb := g.climbStep
  early := g.earlyStep
  statements := do g.statementList (← rounds)
  item := g.itemStep

/-- The grammar with so many levels. -/
def level : Nat → Grammar
  | 0 => refusing
  | n + 1 => (level n).next

/-- The grammar for a stream. -/
def forTokens (ts : Tokens) : Grammar := level (4 * ts.length + 8)

end Grammar

/-- The type that a stream spells. -/
def Ty.ofTokens? (ts : Tokens) : Option Ty := whole? ((Grammar.forTokens ts).type true) ts

/-- The path that a stream spells. -/
def Path.ofTokens? (ts : Tokens) : Option Path := whole? ((Grammar.forTokens ts).plainPath false) ts

/-- The expression that a stream spells. -/
def Expr.ofTokens? (ts : Tokens) : Option Expr := whole? ((Grammar.forTokens ts).expr true) ts

/-- The item that a stream spells. -/
def Item.ofTokens? (ts : Tokens) : Option Item := whole? (Grammar.forTokens ts).item ts

/-- The items that a stream spells. -/
def Item.listOfTokens? (ts : Tokens) : Option (List Item) :=
  whole? (do manyWhile (fun ts => !atEnd ts) (Grammar.forTokens ts).item (← rounds)) ts

/-- The type that a text spells. -/
def Ty.ofText? (s : String) : Option Ty := Tokens.ofText? s >>= Ty.ofTokens?

/-- The path that a text spells. -/
def Path.ofText? (s : String) : Option Path := Tokens.ofText? s >>= Path.ofTokens?

/-- The name that a text spells; keywords are none. -/
def nameOfText? (s : String) : Option String := Tokens.ofText? s >>= whole? name

end CrudScaffold.Code
