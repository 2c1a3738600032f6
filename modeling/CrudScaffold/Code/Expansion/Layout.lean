import CrudScaffold.Code.Token.Nested
import CrudScaffold.Layout.Doc

/-!
# Layout of expansions

The tokens between the brackets of an expansion are not read. Blanks between them follow from the
tokens themselves: a call has none in front of its brackets, a member none around its dot, a name that
stands for a matched part none behind its dollar sign. Only the rules of a declared expansion must
have their form: where they do not, they cannot be printed.
-/

namespace CrudScaffold.Code.Expansion

open Layout

/-- What has just been written. -/
inductive State where
  | start
  | dollar
  /-- The name of a matched part. -/
  | matched
  /-- The colon behind the name of a matched part. -/
  | matchedColon
  /-- A repeated part. -/
  | repeated
  /-- What separates the repetitions. -/
  | separator
  | pound
  | poundBang
  | dot
  | colon
  | separatorColons
  | name
  | nameBang
  | group
  | other
  deriving DecidableEq, Repr

/-- Words behind which brackets stand apart. -/
def apart : List String :=
  ["as", "async", "await", "box", "break", "const", "continue", "crate", "dyn", "else", "enum",
   "extern", "fn", "for", "if", "impl", "in", "let", "loop", "macro", "match", "mod", "move", "mut",
   "pub", "ref", "return", "static", "struct", "trait", "type", "unsafe", "use", "where", "while",
   "yield"]

/-- Whether a blank stands in front of a bracketed part, and the state behind it. -/
def beforeGroup : State → Delimiter → Bool × State
  | .dollar, .paren => (false, .repeated)
  | .pound, .bracket | .poundBang, .bracket => (false, .other)
  | .name, .paren | .name, .bracket => (false, .group)
  | .nameBang, .paren | .nameBang, .bracket => (false, .other)
  | _, .paren | _, .bracket => (true, .group)
  | _, .brace => (true, .other)

/-- Whether a blank stands in front of a character of an operator, and the state behind it; `matcher`
where parts are named. -/
def beforePunct (matcher : Bool) (state : State) (c : Char) (joint : Bool) : Bool × State :=
  match state, c, joint with
  | .matched, ':', false => (false, .matchedColon)
  | .repeated, '+', false | .repeated, '*', false | .repeated, '?', false => (false, .other)
  | .repeated, _, true => (false, .repeated)
  | .repeated, _, false => (false, .separator)
  | .separator, '+', _ | .separator, '*', _ => (false, .other)
  | .pound, '!', _ => (false, .poundBang)
  | .name, '!', false => (false, .nameBang)
  | .colon, ':', _ => (false, .separatorColons)
  | _, ',', _ | _, ';', _ => (false, .other)
  | state, '.', _ =>
    if matcher then (true, .other) else (state != .name && state != .group, .dot)
  | state, ':', true => (state != .name, .colon)
  | _, '$', _ => (true, .dollar)
  | _, '#', _ => (true, .pound)
  | _, _, _ => (true, .other)

/-- Whether a blank stands in front of a word, and the state behind it. -/
def beforeWord (matcher : Bool) (state : State) (w : String) : Bool × State :=
  match state with
  | .dollar => (false, if w == "crate" then .name else if matcher then .matched else .other)
  | .matchedColon => (false, .other)
  | .repeated => (false, .separator)
  | state =>
    if apart.contains w then (true, .other) else (state != .dot && state != .separatorColons, .name)

/-- Whether a blank stands in front of a literal, and the state behind it. -/
def beforeLiteral : State → Bool × State
  | .repeated => (false, .separator)
  | state => (state != .dot, .name)

/-- Whether a blank stands in front of a token, and the state behind it. -/
def beforeToken (matcher : Bool) (state : State) : Token → Bool × State
  | .punct c joint => beforePunct matcher state c joint
  | .ident w => beforeWord matcher state w
  | _ => beforeLiteral state

/-- Whether a blank stands in front of a unit, and the state behind it. -/
def beforeUnit (matcher : Bool) (state : State) : Nested → Bool × State
  | .leaf t => beforeToken matcher state t
  | .group d _ => beforeGroup state d

/-- The next unit is written directly behind this one. -/
def isJoint : Nested → Bool
  | .leaf (.punct c joint) => joint || c == '$'
  | _ => false

/-- What stands in front of a token: a place for a blank, or in front of a dot one for a line end. -/
def gapBefore (joint spaced isDot : Bool) : Layout :=
  if joint then [] else if spaced then space else if isDot then cut else []

/-- The sign of an opening bracket. -/
def openingSign : Delimiter → String
  | .paren => "("
  | .brace => "\x7b"
  | .bracket => "["

/-- The sign of a closing bracket. -/
def closingSign : Delimiter → String
  | .paren => ")"
  | .brace => "\x7d"
  | .bracket => "]"

mutual
/-- Layout of units in a state; `joint` when the last one goes on in the next. -/
def unitsLayout (matcher : Bool) (state : State) (joint : Bool) : List Nested → Layout
  | [] => []
  | u :: rest =>
    let (spaced, next) := beforeUnit matcher state u
    unitLayout matcher joint spaced u ++ unitsLayout matcher next (isJoint u) rest

/-- Layout of a unit, in front of which a blank may stand. -/
def unitLayout (matcher joint spaced : Bool) : Nested → Layout
  | .leaf t => gapBefore joint spaced (t matches .punct '.' _) ++ text t.text
  | .group d body =>
    let edge := if d == .brace && !body.isEmpty then space else []
    gapBefore joint spaced false ++ text (openingSign d) ++ edge ++
      unitsLayout matcher .start true body ++ edge ++ text (closingSign d)
end

/-- Layout of the tokens between brackets; `matcher` where parts are named. -/
def tokensLayout (matcher : Bool) (units : List Nested) : Layout :=
  filled 0 (unitsLayout matcher .start true units)

/-- What has been set of a rule. -/
inductive RulePart where
  | nothing
  | pattern
  /-- The first character of the arrow. -/
  | halfArrow
  | arrow
  | whole
  deriving DecidableEq, Repr

/-- Layout of the rules of a declared expansion, each a pattern and what stands for it. -/
def rulesLayout : RulePart → List Nested → Layout
  | .nothing, [] => []
  | .whole, [] => text ";" ++ lineEnd
  | _, [] => lineEnd
  | .nothing, .group d pattern :: rest =>
    text (openingSign d) ++
      (if pattern.isEmpty then []
       else together step (cut ++ tokensLayout true pattern ++ takeBack cut)) ++
      text (closingSign d) ++ rulesLayout .pattern rest
  | .pattern, .leaf (.punct '=' true) :: rest => text " =" ++ rulesLayout .halfArrow rest
  | .halfArrow, .leaf (.punct '>' false) :: rest => text ">" ++ rulesLayout .arrow rest
  | .arrow, .group _ body :: rest =>
    text " \x7b" ++ glue ++
      (if body.isEmpty then []
       else together step (lineEnd ++ tokensLayout false body ++ takeBack lineEnd)) ++
      text "\x7d" ++ rulesLayout .whole rest
  | .whole, .leaf (.punct ';' false) :: rest => text ";" ++ lineEnd ++ rulesLayout .nothing rest
  | _, _ :: _ => unprintable

/-- Layout of an expansion that declares rules under a name. -/
def declarationLayout (name : String) (body : Tokens) : Layout :=
  text "macro_rules! " ++ text name ++ text " \x7b" ++
    together step (takeBack (innerLineEnd ++ rulesLayout .nothing (Nested.ofTokens body))) ++ text "\x7d"

/-- Layout of an expansion, given the text of its path. -/
def layout (path : String) (name : Option String) (d : Delimiter) (body : Tokens)
    (semicolon : Bool) : Layout :=
  match path, name with
  | "macro_rules", some n => declarationLayout n body
  | path, name =>
    let (first, edge) := match d with
      | .brace => (" \x7b", lineEnd)
      | d => (openingSign d, cut)
    text path ++ text "!" ++ (match name with | some n => text " " ++ text n | none => []) ++
      text first ++
      (if body.isEmpty then []
       else together step (edge ++ tokensLayout false (Nested.ofTokens body) ++ takeBack edge)) ++
      text (closingSign d) ++ if semicolon then text ";" else []

end CrudScaffold.Code.Expansion
