import CrudScaffold.Code.Token
import CrudScaffold.Text.Blank
import CrudScaffold.Text.CharClass
import CrudScaffold.Text.Pieces
import CrudScaffold.Text.Quoted

/-!
# Reading tokens

A text is cut into tokens: names and keywords, lifetimes, literals, operator characters and brackets.
Spaces and comments separate tokens and leave none, but a documentation comment stands for an
attribute. Nothing is read from a text with a character that starts no token, an unfinished literal
or comment, or brackets out of balance.
-/

namespace CrudScaffold.Code.Lexer

open Text

/-- What was read from the front of a text, and the rest. -/
abbrev Scan (α : Type) := List Char → Option (α × List Char)

/-! ## Comments and spaces -/

/-- The rest after a block comment that starts here; comments may nest. -/
def blockComment : Nat → List Char → Option (List Char)
  | depth, '/' :: '*' :: r => blockComment (depth + 1) r
  | depth, '*' :: '/' :: r =>
    match depth with
    | 0 => none
    | 1 => some r
    | d + 2 => blockComment (d + 1) r
  | depth, _ :: r => blockComment depth r
  | _, [] => none

/-- The rest from the line end on; a carriage return before it belongs to the line end. -/
def untilLineEnd : List Char → List Char × List Char
  | [] => ([], [])
  | '\n' :: r => ([], '\n' :: r)
  | '\r' :: '\n' :: r => ([], '\r' :: '\n' :: r)
  | c :: r =>
    let (line, rest) := untilLineEnd r
    (c :: line, rest)

/-- Spaces between tokens, the directional marks included. -/
def isGap (c : Char) : Bool := isSpace c || c == '\u200e' || c == '\u200f'

/-- Whether a line comment that is no documentation starts here. -/
def isLineComment (cs : List Char) : Bool :=
  startsWith ['/', '/'] cs && !startsWith ['/', '/', '!'] cs &&
    (!startsWith ['/', '/', '/'] cs || startsWith ['/', '/', '/', '/'] cs)

/-- Whether a block comment that is no documentation starts here. -/
def isBlockComment (cs : List Char) : Bool :=
  startsWith ['/', '*'] cs && !startsWith ['/', '*', '!'] cs &&
    (!startsWith ['/', '*', '*'] cs || startsWith ['/', '*', '*', '*'] cs ||
      startsWith ['/', '*', '*', '/'] cs)

/-- Skip spaces and comments; an unfinished comment is left standing. -/
def skipGaps : Nat → List Char → List Char
  | 0, cs => cs
  | fuel + 1, cs =>
    if isLineComment cs then skipGaps fuel (untilLineEnd cs).2
    else if isBlockComment cs then
      match blockComment 0 cs with
      | some rest => skipGaps fuel rest
      | none => cs
    else
      match cs with
      | c :: r => if isGap c then skipGaps fuel r else cs
      | [] => []

/-- Every carriage return is part of a line end. -/
def lineEndsOnly : List Char → Bool
  | [] => true
  | '\r' :: '\n' :: r => lineEndsOnly r
  | '\r' :: _ => false
  | _ :: r => lineEndsOnly r

/-- A documentation comment: its text, and whether it documents what it stands in. -/
def docComment (cs : List Char) : Option ((Bool × List Char) × List Char) :=
  let found :=
    match cs with
    | '/' :: '/' :: '!' :: r => let (line, rest) := untilLineEnd r; some ((true, line), rest)
    | '/' :: '*' :: '!' :: _ => do
      let rest ← blockComment 0 cs
      some ((true, (cs.drop 3).take (cs.length - rest.length - 5)), rest)
    | '/' :: '/' :: '/' :: r =>
      if startsWith ['/'] r then none
      else let (line, rest) := untilLineEnd r; some ((false, line), rest)
    | '/' :: '*' :: '*' :: r =>
      if startsWith ['*'] r then none
      else do
        let rest ← blockComment 0 cs
        some ((false, (cs.drop 3).take (cs.length - rest.length - 5)), rest)
    | _ => none
  found.filter fun ((_, text), _) => lineEndsOnly text

/-! ## Names -/

/-- A name without the mark of a raw one. -/
def plainName : Scan (List Char)
  | c :: r =>
    if isIdentifierStart c then
      let rest := r.dropWhile isIdentifierContinue
      some (c :: r.take (r.length - rest.length), rest)
    else none
  | [] => none

/-- The names that cannot be written raw. -/
def neverRaw : List String := ["_", "super", "self", "Self", "crate"]

/-- A name, raw or not. -/
def anyName : Scan String
  | 'r' :: '#' :: r => do
    let (name, rest) ← plainName r
    let name := String.ofList name
    if neverRaw.contains name then none else some ("r#" ++ name, rest)
  | cs => (plainName cs).map fun (name, rest) => (.ofList name, rest)

/-- The starts of literals that a name must not have. -/
def literalStarts : List (List Char) :=
  ["r\"", "r#\"", "r##", "b\"", "b'", "br\"", "br#", "c\"", "cr\"", "cr#"].map String.toList

/-- A name that does not look like the start of a literal. -/
def name (cs : List Char) : Option (String × List Char) :=
  if literalStarts.any fun start => startsWith start cs then none else anyName cs

/-! ## Literals -/

/-- The rest after a suffix, if a literal has one. -/
def afterSuffix (cs : List Char) : List Char :=
  match plainName cs with
  | some (_, rest) => rest
  | none => cs

/-- Hexadecimal digits. -/
def isHex (c : Char) : Bool :=
  c.isDigit || ('a' ≤ c && c ≤ 'f') || ('A' ≤ c && c ≤ 'F')

/-- The rest after a two-digit escape of a character below 128. -/
def hexEscape : List Char → Option (List Char)
  | h :: l :: r => if '0' ≤ h && h ≤ '7' && isHex l then some r else none
  | _ => none

/-- The rest after a two-digit escape of a byte. -/
def byteEscape : List Char → Option (List Char)
  | h :: l :: r => if isHex h && isHex l then some r else none
  | _ => none

/-- The value of hexadecimal digits. -/
def hexNumber (ds : List Char) : Nat :=
  ds.foldl (fun n c =>
    n * 16 + (if c.isDigit then c.toNat - 48 else if c ≤ 'F' then c.toNat - 55 else c.toNat - 87)) 0

/-- The code point in an escape of a character, and the rest. -/
def unicodeEscape : List Char → Option (Nat × List Char)
  | '\x7b' :: r =>
    let body := r.takeWhile (· != '\x7d')
    let digits := body.filter (· != '_')
    let code := hexNumber digits
    if body.head? != some '_' && !digits.isEmpty && digits.length ≤ 6 && digits.all isHex &&
        (code < 0xD800 || (0xDFFF < code && code ≤ 0x10FFFF)) then
      match r.drop body.length with
      | _ :: rest => some (code, rest)
      | [] => none
    else none
  | _ => none

/-- The kinds of quoted literals, which differ in the characters and escapes they may hold. -/
inductive QuoteKind where
  | text
  | bytes
  | terminated
  deriving DecidableEq

/-- Skip the spaces that open the line after a backslash at a line end. -/
def afterJoin : List Char → Option (List Char)
  | [] => none
  | '\r' :: '\n' :: r => afterJoin r
  | '\r' :: _ => none
  | c :: r => if c == ' ' || c == '\n' || c == '\t' then afterJoin r else some (c :: r)

/-- The rest after the body of a quoted literal and its suffix. -/
def quotedBody (kind : QuoteKind) : Nat → List Char → Option (List Char)
  | 0, _ => none
  | fuel + 1, cs =>
    match cs with
    | [] => none
    | '"' :: r => some (afterSuffix r)
    | '\r' :: '\n' :: r => quotedBody kind fuel r
    | '\r' :: _ => none
    | '\\' :: 'x' :: r => do
      let rest ← if kind = .text then hexEscape r else byteEscape r
      if kind = .terminated && r.take 2 == ['0', '0'] then none
      quotedBody kind fuel rest
    | '\\' :: 'u' :: r => do
      let (code, rest) ← unicodeEscape r
      if kind = .bytes || (kind = .terminated && code = 0) then none
      quotedBody kind fuel rest
    | '\\' :: '\r' :: '\n' :: r => do quotedBody kind fuel (← afterJoin r)
    | '\\' :: '\n' :: r => do quotedBody kind fuel (← afterJoin r)
    | '\\' :: c :: r =>
      if c == 'n' || c == 'r' || c == 't' || c == '\\' || c == '\'' || c == '"' ||
          (c == '0' && kind != .terminated) then
        quotedBody kind fuel r
      else none
    | c :: r =>
      if kind = .bytes && 128 ≤ c.toNat then none
      else if kind = .terminated && c.toNat = 0 then none
      else quotedBody kind fuel r

/-- The hashes that a raw literal has at most. -/
def mostHashes : Nat := 255

/-- The rest after a raw literal, from its opening hashes on. -/
def rawBody (kind : QuoteKind) (cs : List Char) : Option (List Char) :=
  let hashes := cs.takeWhile (· == '#')
  match cs.drop hashes.length with
  | '"' :: r => if hashes.length ≤ mostHashes then go hashes (r.length + 1) r else none
  | _ => none
where
  /-- Look for the closing quote with its hashes. -/
  go (hashes : List Char) : Nat → List Char → Option (List Char)
    | 0, _ => none
    | fuel + 1, cs =>
      match cs with
      | [] => none
      | '"' :: r =>
        if startsWith hashes r then some (afterSuffix (r.drop hashes.length)) else go hashes fuel r
      | '\r' :: '\n' :: r => go hashes fuel r
      | '\r' :: _ => none
      | c :: r =>
        if kind = .bytes && 128 ≤ c.toNat then none
        else if kind = .terminated && c.toNat = 0 then none
        else go hashes fuel r

/-- The rest after a quoted character, from behind its opening quote on. -/
def characterBody (bytes : Bool) (cs : List Char) : Option (List Char) := do
  let rest ←
    match cs with
    | '\\' :: 'x' :: r => if bytes then byteEscape r else hexEscape r
    | '\\' :: 'u' :: r => if bytes then none else (unicodeEscape r).map (·.2)
    | '\\' :: c :: r => if ['n', 'r', 't', '\\', '0', '\'', '"'].contains c then some r else none
    | '\\' :: [] => none
    | c :: r => if bytes && 128 ≤ c.toNat then none else some r
    | [] => none
  match rest with
  | '\'' :: r => some (afterSuffix r)
  | _ => none

/-- A number ends where no name goes on. -/
def numberEnd (cs : List Char) : Option (List Char) :=
  let rest := match cs with
    | c :: _ => if isIdentifierStart c then afterSuffix cs else cs
    | [] => cs
  match rest with
  | c :: _ => if isIdentifierContinue c then none else some rest
  | [] => some rest

/-- Digits with underscores among them. -/
def isDigitOrGap (c : Char) : Bool := c.isDigit || c == '_'

/-- The rest after an exponent, from behind its letter on. -/
def exponentRest (cs : List Char) : Option (List Char) :=
  let body := cs.dropWhile (· == '_')
  let body := match body with
    | '+' :: r | '-' :: r => r
    | _ => body
  if startsWith ['+'] body || startsWith ['-'] body then none
  else
    let run := body.takeWhile isDigitOrGap
    if run.any Char.isDigit then some (body.drop run.length) else none

/-- The rest after the digits of a floating-point number. -/
def floatDigits (cs : List Char) : Option (List Char) :=
  match cs with
  | c :: _ =>
    if !c.isDigit then none
    else
      let afterWhole := cs.dropWhile isDigitOrGap
      match afterWhole with
      | '.' :: r =>
        let next := r.head?
        if next == some '.' || next.any isIdentifierStart then none
        else
          let afterFraction := r.dropWhile isDigitOrGap
          match afterFraction with
          | e :: r' =>
            if e == 'e' || e == 'E' then some ((exponentRest r').getD afterFraction)
            else some afterFraction
          | [] => some []
      | e :: r => if e == 'e' || e == 'E' then exponentRest r else none
      | [] => none
  | [] => none

/-- The rest after the digits of a whole number. -/
def intDigits (cs : List Char) : Option (List Char) :=
  match cs with
  | '0' :: 'x' :: r => based 16 r
  | '0' :: 'o' :: r => based 8 r
  | '0' :: 'b' :: r => based 2 r
  | _ => if startsWith ['_'] cs then none else based 10 cs
where
  /-- Digits of a base; a decimal digit outside it is an error, a letter outside it ends the
  number. -/
  based (base : Nat) (cs : List Char) : Option (List Char) :=
    let value (c : Char) : Nat := hexNumber [c]
    let run := cs.takeWhile fun c => c == '_' || c.isDigit || (isHex c && value c < base)
    let digits := run.filter (· != '_')
    if digits.isEmpty || digits.any fun c => base ≤ value c then none
    else some (cs.drop run.length)

/-- The rest after a literal. -/
def literalRest (cs : List Char) : Option (List Char) :=
  let quoted :=
    match cs with
    | '"' :: r => quotedBody .text (r.length + 1) r
    | 'r' :: r => rawBody .text r
    | 'b' :: '"' :: r => quotedBody .bytes (r.length + 1) r
    | 'b' :: 'r' :: r => rawBody .bytes r
    | 'b' :: '\'' :: r => characterBody true r
    | 'c' :: '"' :: r => quotedBody .terminated (r.length + 1) r
    | 'c' :: 'r' :: r => rawBody .terminated r
    | '\'' :: r => characterBody false r
    | _ => none
  quoted <|> ((floatDigits cs).bind numberEnd) <|> ((intDigits cs).bind numberEnd)

/-- A literal. -/
def literal (cs : List Char) : Option (String × List Char) :=
  (literalRest cs).map fun rest => (.ofList (cs.take (cs.length - rest.length)), rest)

/-! ## Operators and streams -/

/-- A character of an operator. -/
def operatorChar (cs : List Char) : Option (Char × List Char) :=
  if startsWith ['/', '/'] cs || startsWith ['/', '*'] cs then none
  else
    match cs with
    | c :: r => if "~!@#$%^&*-=+|;:,<.>/?'".toList.contains c then some (c, r) else none
    | [] => none

/-- A lifetime, from behind its tick on. -/
def lifetimeName (cs : List Char) : Option (String × List Char) := do
  let (name, rest) ← anyName cs
  if startsWith ['\''] rest || (startsWith ['#'] rest && !startsWith ['r', '#'] cs) then none
  else some (name, rest)

/-- One token that is no bracket. -/
def leaf (cs : List Char) : Option (Token × List Char) :=
  match literal cs with
  | some (text, rest) => some (.literal text, rest)
  | none =>
    match operatorChar cs with
    | some ('\'', r) => (lifetimeName r).map fun (name, rest) =>
      if (literal r).isSome then (.punct '\'' true, r) else (.lifetime name, rest)
    | some (c, r) => some (.punct c (operatorChar r).isSome, r)
    | none => (name cs).map fun (name, rest) => (.ident name, rest)

/-- The bracket that a character opens. -/
def opened : Char → Option Delimiter
  | '(' => some .paren
  | '[' => some .bracket
  | '\x7b' => some .brace
  | _ => none

/-- The bracket that a character closes. -/
def closed : Char → Option Delimiter
  | ')' => some .paren
  | ']' => some .bracket
  | '\x7d' => some .brace
  | _ => none

/-- The attribute that a documentation comment stands for. -/
def docTokens (inner : Bool) (text : List Char) : Tokens :=
  Token.op "#" ++ (if inner then Token.op "!" else []) ++
    Token.enclose .bracket
      ([.ident "doc"] ++ Token.op "=" ++ [.literal (Text.quoteLiteral (.ofList text))])

/-- The mark of a part that could not be read; it is a literal of its own. -/
def unreadable : String := "(/*ERROR*/)"

/-- The rest after the mark of an unreadable part, if it starts here. -/
def afterUnreadable? (cs : List Char) : Option (List Char) :=
  if startsWith unreadable.toList cs then some (cs.drop unreadable.length) else none

/-- The tokens of a text inside the brackets that are open, the innermost first. -/
def scan : Nat → List Delimiter → List Char → Option Tokens
  | 0, _, _ => none
  | fuel + 1, openOnes, cs =>
    let cs := skipGaps cs.length cs
    match docComment cs with
    | some ((inner, text), rest) => (scan fuel openOnes rest).map (docTokens inner text ++ ·)
    | none =>
      match cs with
      | [] => if openOnes.isEmpty then some [] else none
      | c :: r =>
        match opened c, closed c with
        | some d, _ =>
          match afterUnreadable? cs with
          | some rest => (scan fuel openOnes rest).map (.literal unreadable :: ·)
          | none => (scan fuel (d :: openOnes) r).map (.opening d :: ·)
        | none, some d =>
          match openOnes with
          | e :: outer => if d = e then (scan fuel outer r).map (.closing d :: ·) else none
          | [] => none
        | none, none => do
          let (t, rest) ← leaf cs
          (scan fuel openOnes rest).map (t :: ·)

end Lexer

/-- The tokens of a text, `none` when it cannot be cut into tokens. A byte order mark in front is no
part of the text. -/
def Tokens.ofText? (s : String) : Option Tokens :=
  let cs := match s.toList with
    | '\uFEFF' :: rest => rest
    | cs => cs
  Lexer.scan (s.length + 1) [] cs

end CrudScaffold.Code
