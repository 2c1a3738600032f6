import CrudScaffold.Code.Tree.Tokens
import CrudScaffold.Text.Quoted

/-!
# Phrases of generated code

Streams of tokens that recur in generated code.
-/

namespace CrudScaffold.Code.Phrase

open Token

/-- Parts with a path separator between each two. -/
def qualified (parts : List Tokens) : Tokens := segmentsTokens parts

/-- A path of plain names. -/
def namePath (names : List String) : Tokens := qualified (names.map word)

/-- A member of a value. -/
def member (base : Tokens) (name : String) : Tokens := base ++ op "." ++ word name

/-- A call. -/
def call (function : Tokens) (args : List Tokens) : Tokens :=
  function ++ enclose .paren (commas false args)

/-- A call of a method. -/
def method (receiver : Tokens) (name : String) (args : List Tokens) : Tokens :=
  call (member receiver name) args

/-- Arguments between angle brackets. -/
def angled (args : List Tokens) : Tokens := op "<" ++ commas false args ++ op ">"

/-- A type with arguments. -/
def applied (head : Tokens) (args : List Tokens) : Tokens := head ++ angled args

/-- An expression with type arguments. -/
def turbofish (head : Tokens) (args : List Tokens) : Tokens := head ++ op "::" ++ angled args

/-- A reference to a value. -/
def refer (value : Tokens) : Tokens := op "&" ++ value

/-- A closure of one named input. -/
def closure (input : String) (body : Tokens) : Tokens := op "|" ++ word input ++ op "|" ++ body

/-- A statement that binds a name. -/
def bind (name value : Tokens) : Tokens := word "let" ++ name ++ op "=" ++ value ++ op ";"

/-- A block in braces. -/
def braced (body : Tokens) : Tokens := enclose .brace body

/-- A text as a literal. -/
def text (s : String) : Tokens := [.literal (Text.quoteLiteral s)]

/-- An attribute. -/
def attr (inner : Tokens) : Tokens := op "#" ++ enclose .bracket inner

/-- The attribute of a line of documentation. -/
def docLine (line : String) : Tokens := attr (word "doc" ++ op "=" ++ text line)

/-- The attribute of a line of documentation that never changes. -/
def fixedDocLine (line : String) : Tokens :=
  attr (word "doc" ++ op "=" ++ [.literal ("r\"" ++ line ++ "\"")])

/-- The attribute that derives traits. -/
def derive (traits : List Tokens) : Tokens :=
  attr (call (word "derive") traits)

/-- Streams one after the other. -/
def all (parts : List Tokens) : Tokens := parts.flatten

end CrudScaffold.Code.Phrase
