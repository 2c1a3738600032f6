import CrudScaffold.Code.Expr.Tokens
import CrudScaffold.Code.Grammar.Expr
import CrudScaffold.Code.Pat.Layout

/-!
# Layout of expressions and statements

Members and calls on a value form a chain: when a chain does not fit on its line, every link gets a
line of its own. Every statement ends its last line.
-/

namespace CrudScaffold.Code

open Layout

/-- Where an expression stands. -/
inductive ExprPlace where
  | inside
  /-- At the start of a line. -/
  | lineStart
  /-- In front of a link of a chain, which itself stands at the start of a line or not. -/
  | link (lineStart : Bool)
  /-- Behind the arrow of an arm, where braces around a single expression may be left out. -/
  | arm (unwraps : Bool)
  deriving DecidableEq, Repr

namespace ExprPlace

/-- The place is at the start of a line. -/
def atLineStart : ExprPlace → Bool
  | .lineStart | .link true | .arm _ => true
  | .inside | .link false => false

/-- The place is in front of a link. -/
def isLink : ExprPlace → Bool
  | .link _ => true
  | .inside | .lineStart | .arm _ => false

/-- The place is behind the arrow of an arm. -/
def arm? : ExprPlace → Option Bool
  | .arm unwraps => some unwraps
  | _ => none

/-- The place of what a longer expression starts with. -/
def leftmost : ExprPlace → ExprPlace
  | .arm _ => .lineStart
  | place => place

/-- What stands in front of a link and is no link itself is not indented with the chain. -/
def unlink (place : ExprPlace) (d : Layout) : Layout :=
  if place.isLink then together (-step) d else d

/-- A chain is indented from its first link on. -/
def chain (place : ExprPlace) (d : Layout) : Layout :=
  if place.isLink then d else together step d

end ExprPlace

/-! ## Kinds of expressions -/

/-- Nothing is done when no condition holds. -/
def ElseBranch.isOpen : ElseBranch → Bool
  | .none => true
  | .block _ => false
  | .condition _ _ alternative => alternative.isOpen

namespace Expr

/-- A name so short that a chain may go on behind it. -/
def isShortName : Expr → Bool
  | .path (.plain false [.mk name .none]) => name.utf8ByteSize ≤ 4
  | _ => false

/-- The expression brings its own brackets and may stand directly inside those of a call. -/
def isBlocklike : Expr → Bool
  | .array .. | .block .. | .closure .. | .structure .. | .tuple .. => true
  | _ => false

/-- A closure may have this body without a block around it, whatever its width. -/
def isClosureBody : Expr → Bool
  | .choice .. | .call .. => true
  | e => e.isBlocklike

/-- The operator changes its left operand. -/
def isAssignment (operator : String) : Bool :=
  operator == "=" || operators.lookup operator == some Strength.assignment

/-- The expression is a block without a keyword. -/
def isPlainBlock : Expr → Bool
  | .block .plain .. => true
  | _ => false

/-- The expression without blocks around it that hold nothing else. -/
def unwrapped : Expr → Expr
  | .block .plain none [] [.expr x false] => x.unwrapped
  | e => e

/-- A statement of this expression gets a semicolon even where it ends a block. -/
def wantsSemicolon (e : Expr) : Bool :=
  match e.bare with
  | .jump .. => true
  | .binary _ o _ => isAssignment o
  | _ => false

/-- A statement of this expression loses its semicolon. -/
def dropsSemicolon : Expr → Bool
  | .loop _ (.test _) _ _ | .loop _ (.each _ _) _ _ => true
  | .condition _ _ alternative => alternative.isOpen
  | .marked _ e => e.dropsSemicolon
  | _ => false

/-- A line may end behind the expression when it is the subject of a block. -/
def breaksBeforeBlock : Expr → Bool
  | .binary .. | .cast .. | .field .. | .index .. | .methodCall .. | .await _ => true
  | .call f _ _ => f.breaksBeforeBlock
  | .binds _ e | .paren e | .range _ _ (some e) | .reference _ e | .address _ e | .attempt e
  | .unary _ e | .marked _ e => e.breaksBeforeBlock
  | .jump .continues _ _ => false
  | .jump _ _ (some e) => e.breaksBeforeBlock
  | _ => false

/-- Braces around the expression make it one statement: no block that it starts with ends it. -/
def fitsStatement : Expr → Bool
  | .binary left "=" _ => left.fitsStatement
  | .binary left _ _ | .cast left _ | .call left _ _ | .index left _ | .range (some left) _ _ =>
    !left.isStatement && left.fitsStatement
  | .await e | .field e _ | .methodCall e _ _ _ _ | .attempt e | .marked _ e => e.fitsStatement
  | _ => true

end Expr

/-- The text of a literal is that of a whole number. -/
def isInteger (literal : String) : Bool :=
  match literal.toList with
  | '0' :: 'x' :: _ | '0' :: 'o' :: _ | '0' :: 'b' :: _ => true
  | c :: cs =>
    let rest := (c :: cs).dropWhile fun c => c.isDigit || c == '_'
    c.isDigit &&
      match rest with
      | '.' :: _ => false
      | 'e' :: rest | 'E' :: rest =>
        !(rest.dropWhile (· == '_')).head?.any fun c => c.isDigit || c == '+' || c == '-'
      | _ => true
  | [] => false

/-- A literal that can share a line with others of a list: a character, a byte, a whole number or a
truth value. -/
def fillsLines (literal : String) : Bool :=
  literal == "true" || literal == "false" || literal.startsWith "'" || literal.startsWith "b'" ||
    isInteger literal

/-- All elements are literals that can fill lines. -/
def isPlainList (elems : List Expr) : Bool :=
  elems.all fun e =>
    match e.bare with
    | .literal s => fillsLines s
    | _ => false

/-! ## Parts of expressions -/

/-- A line may end between a link and what stands in front of it, unless that is a short name at the
start of a line. A dot in front of the link keeps a blank. -/
def linkCut (lineStart : Bool) (base : Expr) (before : Layout) : Layout :=
  if lineStart && base.isShortName then []
  else gap { instead := if endsWith '.' before then " " else "" }

/-- The subject of a block, followed by a blank. -/
def subjectLayout (breaks : Bool) (subject : Layout) : Layout :=
  together 0 (subject ++ if breaks then space else text " ")

/-- Members with commas between them. -/
def plainItems (items : List Layout) : Layout := separated [] items

/-- A body in brackets that stand only where the line ends. -/
def bracedWhenBroken (opening closing ending instead : String) (body : Layout) : Layout :=
  together step
    (gap { before := opening } ++ body ++
      gap { shift := -step, before := ending, after := closing, instead })

/-- A body in braces that stand only where the line ends, or in round brackets where braces would
change what it means. -/
def wrappedWhenBroken (e : Expr) (comma : Bool) (body : Layout) : Layout :=
  let after := if comma then "," else ""
  if e.fitsStatement then
    bracedWhenBroken "\x7b" "\x7d" (if e.wantsSemicolon then ";" else "") after body
  else bracedWhenBroken "(" (")" ++ after) "" after body

/-- The body of an arm with a given layout. A block has its own lines; any other body is wrapped in
braces where it does not fit on the line. -/
def armBody (e : Expr) (body : Layout) : Layout :=
  match e.unwrapped with
  | .tuple [] _ => body
  | x =>
    if x.bare.isPlainBlock then body
    else glue ++ wrappedWhenBroken x (!x.endsItself) body

/-- Layout of a label in front of what it names. -/
def labelLayout : Option String → Layout
  | some l => lifetimeLayout l ++ text ": "
  | none => []

/-- Two dots in front of a layout; a dot behind them keeps a blank. -/
def dotsBefore (l : Layout) : Layout := text (if startsWith '.' l then ".. " else "..") ++ l

/-- Layout of a range. A dot in front of it keeps a blank. -/
def rangeLayout (first : Layout) (isClosed : Bool) (last : Layout) : Layout :=
  first ++ (if endsWith '.' first then text " " else []) ++
    if isClosed then text "..=" ++ last else dotsBefore last

/-- Layout of the keywords in front of a closure. -/
def ClosureHead.layout (e : Embedding) (h : ClosureHead) : Layout :=
  let word (given : Bool) (s : String) : Layout := if given then text s else []
  h.binder.layout e ++ word h.isConst "const " ++ word h.isStatic "static " ++
    word h.isAsync "async " ++ word h.isMove "move "

/-- Layout of the keywords in front of a block. -/
def BlockKind.layout : BlockKind → Layout
  | .plain => []
  | .unsafeBlock => text "unsafe "
  | .constBlock => text "const "
  | .asyncBlock isMove => text (if isMove then "async move " else "async ")
  | .tryBlock => text "try "

/-- Layout of a block behind the arrow of an arm. -/
def armBlock (label : Option String) (lines : Layout) : Layout :=
  labelLayout label ++ text "\x7b" ++
    (if lines.isEmpty then [] else together step (takeBack (lineEnd ++ lines))) ++ text "\x7d"

/-- Lines in braces, if there are any. -/
def linesInBraces (lines : Layout) : Layout := together step (takeBack (innerLineEnd ++ lines))

/-! ## Expressions and statements -/

mutual
/-- Layout of an expression. -/
def Expr.layout (e : Embedding) (place : ExprPlace) : Expr → Layout
  | .literal s => place.unlink (text s)
  | .path path => place.unlink (path.layout e .inExpr)
  | .unary c operand => place.unlink (text c.toString ++ operand.layout e .inside)
  | .binary left "=" right =>
    place.unlink (filled 0
      (left.layout e .inside ++ text " = " ++ glue ++ right.layout e .inside))
  | .binary left o right =>
    place.unlink (filled step
      (filled (-step) (left.layout e .inside) ++ space ++ text o ++ text " " ++
        right.layout e .inside))
  | .range first isClosed last =>
    place.unlink (rangeLayout (optLayout e first) isClosed (optLayout e last))
  | .cast operand type =>
    place.unlink (filled step
      (filled (-step) (operand.layout e .inside) ++ space ++ text "as " ++ type.layout e))
  | .reference isMut operand =>
    place.unlink (text (if isMut then "&mut " else "&") ++ operand.layout e .inside)
  | .address isMut operand =>
    place.unlink (text (if isMut then "&raw mut " else "&raw const ") ++ operand.layout e .inside)
  | .call function args _ =>
    function.layout e (if place.isLink then .link false else place.leftmost) ++
      text "(" ++ callArgs e args ++ text ")"
  | .methodCall receiver method turbofish args _ =>
    let start := place.atLineStart
    let outdented := !place.isLink && start && receiver.isShortName
    let before := receiver.layout e (.link start)
    place.chain
      (before ++ linkCut start receiver before ++ text "." ++ text method ++
        turbofish.layout e .inExpr ++
        together (if outdented then -step else 0)
          (text "(" ++ callArgs e args ++ text ")"))
  | .field base member =>
    let start := place.atLineStart
    let before := base.layout e (.link start)
    place.chain (before ++ linkCut start base before ++ text "." ++ text member)
  | .await operand =>
    let start := place.atLineStart
    let before := operand.layout e (.link start)
    place.chain (before ++ linkCut start operand before ++ text ".await")
  | .index base index => base.layout e place.leftmost ++ text "[" ++ index.layout e .inside ++ text "]"
  | .attempt operand => operand.layout e place.leftmost ++ text "?"
  | .paren inner => place.unlink (text "(" ++ inner.layout e .inside ++ text ")")
  | .tuple [] _ => place.unlink (text (if place.arm?.isSome then "\x7b\x7d" else "()"))
  | .tuple elems _ => place.unlink (text "(" ++ tupleList (exprLayouts e elems) ++ text ")")
  | .array elems _ =>
    place.unlink
      (if elems.isEmpty then text "[]"
      else if isPlainList elems then
        together step
          (text "[" ++ cut ++ filled 0 (plainItems (exprLayouts e elems)) ++ lastComma ++ text "]")
      else text "[" ++ commaList (exprLayouts e elems) ++ text "]")
  | .repeated elem length =>
    place.unlink (text "[" ++ elem.layout e .inside ++ text "; " ++ length.layout e .inside ++
      text "]")
  | .structure path fields _ rest =>
    place.unlink
      (atMost 34 step
        (filled (-step) (path.layout e .inExpr) ++ text " \x7b" ++
          takeBack (gap { blanks := 1, inner := true } ++
            fieldItems (fieldLayouts e fields) (rest.layout e))) ++
        text "\x7d")
  | .closure head inputs _ output body =>
    let items := plainItems (patLayouts e inputs)
    let inputs := if inputs.isEmpty then [] else cut ++ items
    place.unlink <| filled 0 <|
      head.layout e ++
      match output with
      | none =>
        together step (text "|" ++ inputs ++ text "|" ++ takeBack space) ++ glue ++
          if body.isClosureBody then body.layout e .inside
          else wrappedWhenBroken body false (body.layout e .inside)
      | some t =>
        together step (text "|" ++ inputs ++ (if inputs.isEmpty then [] else lastComma) ++
          text "|") ++
          text " -> " ++ t.layout e ++ text " " ++ glue ++ body.layout e .inside
  | .block kind label inner body =>
    match place.arm?, kind with
    | some unwraps, .plain =>
      if unwraps && label.isNone && inner.isEmpty then armStmts e body
      else armBlock label (innerAttributesLayout e inner ++ stmtLayouts e body)
    | _, _ => place.unlink (labelLayout label ++ kind.layout ++ together step (smallBlock e inner body))
  | .condition test consequent alternative =>
    place.unlink (together step
      (text "if " ++
        together (-step) (subjectLayout test.breaksBeforeBlock (test.layout e .inside)) ++
        match alternative with
        | .none =>
          if consequent.isEmpty then text "\x7b\x7d"
          else text "\x7b" ++ takeBack (lineEnd ++ stmtLayouts e consequent) ++ text "\x7d"
        | other => smallBlock e [] consequent ++ other.layout e))
  | .binds pattern value =>
    place.unlink (text "let " ++ filled 0 (pattern.layout e) ++ text " = " ++ glue ++
      filled 0 (value.layout e .inside))
  | .choice subject inner arms =>
    place.unlink (filled 0
      (text "match " ++
        subjectLayout subject.breaksBeforeBlock (subject.layout e .inside) ++ text "\x7b" ++ glue ++
        linesInBraces (innerAttributesLayout e inner ++ armLayouts e arms) ++ text "\x7d"))
  | .loop label head inner body =>
    let lines := linesInBraces (innerAttributesLayout e inner ++ stmtLayouts e body) ++ text "\x7d"
    place.unlink
      (match head with
      | .forever => labelLayout label ++ text "loop \x7b" ++ lines
      | .test test =>
        labelLayout label ++ text "while " ++
          subjectLayout test.breaksBeforeBlock (test.layout e .inside) ++ text "\x7b" ++ glue ++
          lines
      | .each pattern subject =>
        filled 0
          (labelLayout label ++ text "for " ++ pattern.layout e ++ text " in " ++ glue ++
            subjectLayout subject.breaksBeforeBlock (subject.layout e .inside) ++ text "\x7b" ++
            glue ++ lines))
  | .jump kind label value =>
    place.unlink
      (text kind.keyword ++
        (match label with
          | some l => text " " ++ lifetimeLayout l
          | none => []) ++
        match value with
        | some v => text " " ++ v.layout e .inside
        | none => [])
  | .placeholder => place.unlink (text "_")
  | .expansion path d body => place.unlink (expansionLayout path d body false)
  | .marked attributes inner =>
    if place.arm?.isSome && inner.isPlainBlock then inner.layout e (.arm false)
    else attributesLayout e attributes ++ inner.layout e place.leftmost
  -- A stray semicolon stands for an expression without tokens.
  | .verbatim ts => if ts.isEmpty then place.unlink (text "") else unprintable

/-- Layout of an optional expression. -/
def optLayout (e : Embedding) : Option Expr → Layout
  | none => []
  | some x => x.layout e .inside

/-- Layouts of expressions. -/
def exprLayouts (e : Embedding) : List Expr → List Layout
  | [] => []
  | x :: rest => x.layout e .inside :: exprLayouts e rest

/-- The arguments of a call. -/
def callArgs (e : Embedding) : List Expr → Layout
  | [] => []
  | [x] => if x.isBlocklike then x.layout e .inside else commaList [x.layout e .inside]
  | x :: rest => commaList (x.layout e .inside :: exprLayouts e rest)

/-- Layouts of the fields of a structure. -/
def fieldLayouts (e : Embedding) : List FieldInit → List Layout
  | [] => []
  | f :: rest => f.layout e :: fieldLayouts e rest

/-- Layout of one field of a structure. -/
def FieldInit.layout (e : Embedding) : FieldInit → Layout
  | .mk attributes name shorthand value =>
    attributesLayout e attributes ++ text name ++
      if shorthand then [] else text ": " ++ filled 0 (value.layout e .inside)

/-- Layout of what gives the other fields; dots alone are left out. -/
def FieldRest.layout (e : Embedding) : FieldRest → Option Layout
  | .none | .dots => none
  | .from value => some (dotsBefore (value.layout e .inside))

/-- Layout of the arms of a choice, one to a line. -/
def armLayouts (e : Embedding) : List Arm → Layout
  | [] => []
  | a :: rest => a.layout e ++ lineEnd ++ armLayouts e rest

/-- Layout of one arm. -/
def Arm.layout (e : Embedding) : Arm → Layout
  | .mk attributes pattern guard body _ =>
    attributesLayout e attributes ++
      filled 0
        (pattern.layout e ++
          (match guard with
            | some g => text " if " ++ g.layout e .inside
            | none => []) ++
          text " => " ++ armBody body (body.layout e (.arm true)))

/-- Layout of a plain block behind the arrow of an arm. A single expression stands there without
braces. -/
def armStmts (e : Embedding) : List Stmt → Layout
  | [] => armBlock none []
  | [.expr x false] => x.layout e (.arm true)
  | s :: rest => armBlock none (s.layout e ++ stmtLayouts e rest)

/-- Layout of what is done when a condition does not hold. -/
def ElseBranch.layout (e : Embedding) : ElseBranch → Layout
  | .none => []
  | .block body => text " else " ++ smallBlock e [] body
  | .condition test consequent alternative =>
    text " else if " ++
      together (-step) (subjectLayout test.breaksBeforeBlock (test.layout e .inside)) ++
      smallBlock e [] consequent ++ alternative.layout e

/-- A block that may stand on one line. -/
def smallBlock (e : Embedding) (inner : Attributes) : List Stmt → Layout
  | [] =>
    text "\x7b" ++
      (if inner.isEmpty then [] else takeBack (space ++ innerAttributesLayout e inner)) ++
      text "\x7d"
  | [.expr x false] =>
    text "\x7b" ++ space ++ innerAttributesLayout e inner ++ filled 0 (x.layout e .lineStart) ++
      takeBack space ++ text "\x7d"
  | s :: rest =>
    text "\x7b" ++
      takeBack (space ++ innerAttributesLayout e inner ++ s.layout e ++ stmtLayouts e rest) ++
      text "\x7d"

/-- Layout of statements. -/
def stmtLayouts (e : Embedding) : List Stmt → Layout
  | [] => []
  | s :: rest => s.layout e ++ stmtLayouts e rest

/-- Layout of a statement. -/
def Stmt.layout (e : Embedding) : Stmt → Layout
  | .binding attributes pattern value otherwise =>
    let init := match value with
      | some v => text " = " ++ glue ++ v.layout e .inside
      | none => []
    let head := text "let " ++ pattern.layout e ++ init
    attributesLayout e attributes ++
      (match otherwise with
        | some body =>
          filled 0 (head ++ space ++ text "else ") ++ glue ++ together step (smallBlock e [] body)
        | none => filled 0 head) ++
      text ";" ++ lineEnd
  | .expr x semicolon =>
    let ended := if semicolon then !x.dropsSemicolon else x.wantsSemicolon
    filled 0 (x.layout e .lineStart ++ if ended then text ";" else []) ++ lineEnd
  | .expansion attributes path d body semicolon =>
    attributesLayout e attributes ++ expansionLayout path d body semicolon ++ lineEnd
  | .item ts => e.item ts
  | .empty => []
end

end CrudScaffold.Code
