import CrudScaffold.Code.Token.Nested
import CrudScaffold.Code.Tree
import CrudScaffold.Layout.Doc
import CrudScaffold.Text.Blank
import CrudScaffold.Text.Pieces
import CrudScaffold.Text.Quoted

/-!
# Layout of attributes

A documentation attribute is set as a comment: one line if it holds no line end, else a block if it
could be closed nowhere too early. A comment attribute is set as a plain comment in the same way. The
line may end behind any other attribute.
-/

namespace CrudScaffold.Code

open Layout

/-- How parts that are kept as their tokens are set. -/
structure Embedding where
  /-- A constant. -/
  constant : Tokens → Layout
  /-- An item inside a block. -/
  item : Tokens → Layout

namespace Attribute

/-! ## Tokens in brackets -/

/-- What stands in front of a token of an attribute. -/
inductive Before where
  | word
  | operator
  /-- The comma behind the last unit, which stands only in a broken list. -/
  | comma
  deriving DecidableEq, Repr

/-- Layout of a word behind another token. -/
def wordLayout (before : Before) (s : String) : Layout :=
  (if before == .word then space else []) ++ text s

/-- Layout of a character of an operator behind another token. -/
def operatorLayout (before : Before) (c : Char) : Layout :=
  (if before == .word && c == '=' then text " " else []) ++ text c.toString ++
    if c == '=' then text " " else if c == ',' then space else []

/-- The end of a list between round brackets. -/
def listEnd (before : Before) : Layout := if before == .comma then [] else cut

/-- Layout of a bracketed part, around what stands in it. -/
def bracketed (d : Delimiter) (inner : Layout) : Layout :=
  match d with
  | .paren => text "(" ++ together step (takeBack (cut ++ inner)) ++ text ")"
  | .brace => text "\x7b" ++ inner ++ text "\x7d"
  | .bracket => text "[" ++ inner ++ text "]"

/-- What stands in front of the token behind a unit. -/
def after : Nested → Before
  | .leaf (.punct _ _) | .group _ _ => .operator
  | .leaf _ => .word

/-- A unit is a comma. -/
def isComma : Nested → Bool
  | .leaf (.punct ',' _) => true
  | _ => false

mutual
/-- Layout of units behind a token; `listed` between round brackets. -/
def unitsLayout (listed : Bool) (before : Before) : List Nested → Layout
  | [] => if listed then listEnd before else []
  | u :: rest =>
    if isComma u && rest.isEmpty then gap { before := "," } ++ if listed then listEnd .comma else []
    else unitLayout before u ++ unitsLayout listed (after u) rest

/-- Layout of a unit behind a token. -/
def unitLayout (before : Before) : Nested → Layout
  | .leaf (.punct c _) => operatorLayout before c
  | .leaf t => wordLayout before t.text
  | .group d body => bracketed d (unitsLayout (d == .paren) .operator body)
end

/-! ## Attributes that are set as they are written -/

variable (e : Embedding)

/-- Layout of what stands between the brackets of an attribute: a path, alone or with a list or a
value. -/
def innerLayout : Tokens → Layout
  | [] => []
  | .punct '=' _ :: value => text " = " ++ e.constant value
  | .opening d :: rest =>
    match Nested.ofTokens (.opening d :: rest) with
    | [.group d body] => bracketed d (unitsLayout (d == .paren) .operator body)
    | _ => []
  | t :: rest => text t.text ++ innerLayout rest

/-- Layout of an attribute that is set as it is written, behind its sign. -/
def plainLayout (sign : String) (ts : Tokens) : Layout :=
  text sign ++ text "[" ++ innerLayout e ts ++ text "]" ++ space

/-! ## Comments -/

/-- The text that an attribute of this name gives. -/
def textOf? (name : String) : Tokens → Option String
  | [.ident n, .punct '=' _, .literal s] => if n == name then Text.literalText? s else none
  | _ => none

/-- Block comments inside the text are opened and closed in turn, beginning with so many open. -/
def commentsBalanced : Nat → List Char → Bool
  | depth, '/' :: '*' :: r => commentsBalanced (depth + 1) r
  | 0, '*' :: '/' :: _ => false
  | depth + 1, '*' :: '/' :: r => commentsBalanced depth r
  | depth, _ :: r => commentsBalanced depth r
  | depth, [] => depth == 0

/-- Drop the blanks at the end. -/
def trimBlanks (cs : List Char) : List Char := Text.dropEndWhile (· == ' ') cs

/-- Drop the blanks at the end of every line but the last. -/
def trimInnerLines (cs : List Char) : List Char :=
  let lines := Text.splitAtChar '\n' cs
  Text.join ['\n'] (lines.dropLast.map trimBlanks ++ lines.getLast?.toList)

/-- How a kind of comment is written. -/
structure CommentStyle where
  line : String
  block : String
  /-- The starts of a text that no line comment can have. -/
  lineStarts : List Char
  /-- The starts of a text that no block comment can have. -/
  blockStarts : List Char

/-- Documentation of what follows. -/
def outerDoc : CommentStyle := ⟨"///", "/**", ['/'], ['*', '/']⟩

/-- Documentation of what it stands in. -/
def innerDoc : CommentStyle := ⟨"//!", "/*!", [], []⟩

/-- A plain comment. -/
def plainComment : CommentStyle := ⟨"//", "/*", [], ['*', '!']⟩

/-- Layout of a text as a comment, if it can be one. -/
def commentLayout? (style : CommentStyle) (s : String) : Option Layout :=
  let cs := s.toList
  let startsIn (starts : List Char) : Bool := cs.head?.any starts.contains
  if !cs.contains '\n' && !startsIn style.lineStarts then
    some (text style.line ++ text (.ofList (trimBlanks cs)) ++ lineEnd)
  else if commentsBalanced 0 cs && !startsIn style.blockStarts then
    some (text style.block ++ text (.ofList (trimInnerLines cs)) ++ text "*/" ++ lineEnd)
  else none

/-! ## Attributes -/

/-- Layout of an attribute with its sign; documentation is set in the given style. -/
def layout (sign : String) (doc : CommentStyle) (ts : Tokens) : Layout :=
  let comment := match textOf? "doc" ts with
    | some s => commentLayout? doc s
    | none => textOf? "comment" ts >>= commentLayout? plainComment
  comment.getD (plainLayout e sign ts)

end Attribute

variable (e : Embedding)

/-- Layout of the attributes in front of what they describe. -/
def attributesLayout (attributes : Attributes) : Layout :=
  attributes.flatMap (Attribute.layout e "#" Attribute.outerDoc)

/-- Layout of the attributes inside what they describe. -/
def innerAttributesLayout (attributes : Attributes) : Layout :=
  attributes.flatMap (Attribute.layout e "#!" Attribute.innerDoc)

end CrudScaffold.Code
