/-!
# Tokens of generated code

A stream of tokens with its brackets in balance. The plain text of a stream puts one space between
each two tokens, none after an opening round or square bracket and none around the characters of one
operator.
-/

namespace CrudScaffold.Code

/-- The kinds of brackets. -/
inductive Delimiter where
  | paren
  | brace
  | bracket
  deriving DecidableEq, Repr, Inhabited

/-- Text of an opening bracket. -/
def Delimiter.openText : Delimiter → String
  | .paren => "("
  | .brace => "\x7b "
  | .bracket => "["

/-- Text of a closing bracket, after an empty stream or not. -/
def Delimiter.closeText (empty : Bool) : Delimiter → String
  | .paren => ")"
  | .brace => if empty then "\x7d" else " \x7d"
  | .bracket => "]"

/-- One token. -/
inductive Token where
  /-- A name or keyword. -/
  | ident (text : String)
  /-- A lifetime, without its tick. -/
  | lifetime (name : String)
  /-- One character of an operator; `joint` when the operator goes on with the next token. -/
  | punct (char : Char) (joint : Bool)
  /-- A literal as it is written. -/
  | literal (text : String)
  | opening (delimiter : Delimiter)
  | closing (delimiter : Delimiter)
  deriving DecidableEq, Repr, Inhabited

/-- A stream of tokens. -/
abbrev Tokens := List Token

namespace Token

/-- The tokens of an operator. -/
def operator : List Char → Tokens
  | [] => []
  | [c] => [.punct c false]
  | c :: rest => .punct c true :: operator rest

/-- The tokens of an operator that is given as a text. -/
def op (s : String) : Tokens := operator s.toList

/-- The token of a keyword or name. -/
def word (s : String) : Tokens := [.ident s]

/-- A stream between brackets. -/
def enclose (d : Delimiter) (inner : Tokens) : Tokens := .opening d :: inner ++ [.closing d]

/-- The streams with a comma between each two, and after the last one if asked for. -/
def commas (trailing : Bool) : List Tokens → Tokens
  | [] => []
  | [t] => if trailing then t ++ op "," else t
  | t :: rest => t ++ op "," ++ commas trailing rest

/-- A literal is a number: it starts with a digit. -/
def isNumber (literal : String) : Bool := (literal.toList.head?.map Char.isDigit).getD false

/-- The text of a token itself. -/
def text : Token → String
  | .ident s => s
  | .lifetime s => "'" ++ s
  | .punct c _ => c.toString
  | .literal s => s
  | .opening d => d.openText
  | .closing d => d.closeText false

/-- The text of a stream; `fresh` when nothing must stand in front of the next token. -/
def renderFrom (fresh : Bool) : Tokens → List String
  | [] => []
  | .opening d :: .closing e :: rest =>
    (if fresh then "" else " ") :: d.openText :: e.closeText true :: renderFrom false rest
  | .closing d :: rest => d.closeText false :: renderFrom false rest
  | t :: rest =>
    let glue := match t with
      | .punct _ joint => joint
      | .opening _ => true
      | _ => false
    (if fresh then "" else " ") :: t.text :: renderFrom glue rest

/-- The text of a stream. -/
def render (ts : Tokens) : String := String.join (renderFrom true ts)

end Token

end CrudScaffold.Code
