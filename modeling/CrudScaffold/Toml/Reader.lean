import CrudScaffold.Text.Blank
import CrudScaffold.Toml.Node

/-!
# Reading a document

A document is a text of statements, one to a line: pairs of a key and a value, headers that open a
table and headers that open the next item of a list of tables. A reader of one construct gives what
it read and the rest of the text, or nothing when the text does not start with that construct.
-/

namespace CrudScaffold.Toml

/-- A reader of one construct. -/
abbrev Reader (α : Type) := List Char → Option (α × List Char)

/-- Blanks within a line. -/
def isBlankChar (c : Char) : Bool := c == ' ' || c == '\t'

/-- Characters that may stand in a comment. -/
def isCommentChar (c : Char) : Bool := c == '\t' || (0x20 ≤ c.toNat && c.toNat ≠ 0x7F)

/-- Skip the blanks in front. -/
def skipBlanks (cs : List Char) : List Char := cs.dropWhile isBlankChar

/-- Line ends count as single line feeds, within strings too. -/
def unifyLineEnds : List Char → List Char
  | '\r' :: '\n' :: r => '\n' :: unifyLineEnds r
  | c :: r => c :: unifyLineEnds r
  | [] => []

/-- Skip a comment, if one starts here. -/
def skipComment : List Char → List Char
  | '#' :: r => r.dropWhile isCommentChar
  | cs => cs

/-- Read blanks, a comment and the end of the line or of the text. -/
def lineRest (cs : List Char) : Option (List Char) :=
  match skipComment (skipBlanks cs) with
  | [] => some []
  | '\n' :: r => some r
  | _ => none

/-- Skip blanks, comments and line ends; every step of the fuel goes over one comment or line end. -/
def skipLines : Nat → List Char → List Char
  | 0, cs => cs
  | fuel + 1, cs =>
    match skipComment (skipBlanks cs) with
    | '\n' :: r => skipLines fuel r
    | rest => rest

/-! ## Strings -/

/-- The value of a hexadecimal digit. -/
def hexValue (c : Char) : Option Nat :=
  if '0' ≤ c ∧ c ≤ '9' then some (c.toNat - '0'.toNat)
  else if 'a' ≤ c ∧ c ≤ 'f' then some (c.toNat - 'a'.toNat + 10)
  else if 'A' ≤ c ∧ c ≤ 'F' then some (c.toNat - 'A'.toNat + 10)
  else none

/-- Read exactly this many hexadecimal digits. -/
def hexDigits : Nat → Nat → Reader Nat
  | 0, acc, cs => some (acc, cs)
  | n + 1, acc, c :: r => do hexDigits n (acc * 16 + (← hexValue c)) r
  | _ + 1, _, [] => none

/-- The character of a code point that is one. -/
def charOf? (code : Nat) : Option Char :=
  if code < 0xD800 ∨ (0xDFFF < code ∧ code ≤ 0x10FFFF) then some (Char.ofNat code) else none

/-- Read what follows a backslash. -/
def escape : Reader Char
  | 'b' :: r => some ('\x08', r)
  | 't' :: r => some ('\t', r)
  | 'n' :: r => some ('\n', r)
  | 'f' :: r => some ('\x0c', r)
  | 'r' :: r => some ('\r', r)
  | '"' :: r => some ('"', r)
  | '\\' :: r => some ('\\', r)
  | 'u' :: r => do
    let (code, r) ← hexDigits 4 0 r
    some (← charOf? code, r)
  | 'U' :: r => do
    let (code, r) ← hexDigits 8 0 r
    some (← charOf? code, r)
  | _ => none

/-- Read the inside of a basic string and its closing quote. -/
def basicBody : Nat → List Char → Reader (List Char)
  | 0, _, _ => none
  | fuel + 1, acc, cs =>
    match cs with
    | '"' :: r => some (acc.reverse, r)
    | '\\' :: r => do
      let (c, r) ← escape r
      basicBody fuel (c :: acc) r
    | c :: r => if isCommentChar c then basicBody fuel (c :: acc) r else none
    | [] => none

/-- Read the inside of a literal string and its closing quote. -/
def literalBody (cs : List Char) : Option (List Char × List Char) :=
  let body := cs.takeWhile fun c => isCommentChar c && c != '\''
  match cs.drop body.length with
  | '\'' :: r => some (body, r)
  | _ => none

/-- Drop the line end right after an opening delimiter. -/
def dropFirstLineEnd : List Char → List Char
  | '\n' :: r => r
  | cs => cs

/-- Read the closing delimiter of a string over several lines: three quotes, with up to two more
before them that belong to the text. -/
def closingQuotes (quote : Char) (acc cs : List Char) : Option (List Char × List Char) :=
  let run := (cs.takeWhile (· == quote)).length
  if run ≤ 5 then some ((List.replicate (run - 3) quote ++ acc).reverse, cs.drop run) else none

/-- Skip the blanks and line ends after a backslash at the end of a line. -/
def skipJoinedLines (cs : List Char) : List Char :=
  cs.dropWhile fun c => isBlankChar c || c == '\n'

/-- Read the inside of a basic string over several lines. -/
def basicBlock : Nat → List Char → Reader (List Char)
  | 0, _, _ => none
  | fuel + 1, acc, cs =>
    match cs with
    | '"' :: '"' :: '"' :: _ => closingQuotes '"' acc cs
    | '\\' :: r =>
      match skipBlanks r with
      | '\n' :: r' => basicBlock fuel acc (skipJoinedLines r')
      | _ => do
        let (c, r) ← escape r
        basicBlock fuel (c :: acc) r
    | c :: r => if isCommentChar c || c == '\n' then basicBlock fuel (c :: acc) r else none
    | [] => none

/-- Read the inside of a literal string over several lines. -/
def literalBlock : Nat → List Char → Reader (List Char)
  | 0, _, _ => none
  | fuel + 1, acc, cs =>
    match cs with
    | '\'' :: '\'' :: '\'' :: _ => closingQuotes '\'' acc cs
    | c :: r => if isCommentChar c || c == '\n' then literalBlock fuel (c :: acc) r else none
    | [] => none

/-- Read a string that stays on its line. -/
def quotedOnLine : Reader String
  | '"' :: r => do
    let (s, r) ← basicBody (r.length + 1) [] r
    some (.ofList s, r)
  | '\'' :: r => do
    let (s, r) ← literalBody r
    some (.ofList s, r)
  | _ => none

/-- Read a string of any kind. -/
def quoted : Reader String
  | '"' :: '"' :: '"' :: r => do
    let (s, r) ← basicBlock (r.length + 1) [] (dropFirstLineEnd r)
    some (.ofList s, r)
  | '\'' :: '\'' :: '\'' :: r => do
    let (s, r) ← literalBlock (r.length + 1) [] (dropFirstLineEnd r)
    some (.ofList s, r)
  | cs => quotedOnLine cs

/-! ## Numbers -/

/-- The number that decimal digits stand for. -/
def digitsValue (ds : List Char) : Nat := ds.foldl (fun n c => n * 10 + (c.toNat - '0'.toNat)) 0

/-- Read digits with single underscores between them; gives the digits alone. -/
def underscored (isDigit : Char → Bool) : List Char → List Char × List Char
  | [] => ([], [])
  | '_' :: c :: r =>
    if isDigit c then
      let (ds, rest) := underscored isDigit r
      (c :: ds, rest)
    else ([], '_' :: c :: r)
  | c :: r =>
    if isDigit c then
      let (ds, rest) := underscored isDigit r
      (c :: ds, rest)
    else ([], c :: r)

/-- Read digits, the first of which is no underscore. -/
def digitRun (isDigit : Char → Bool) : Reader (List Char)
  | [] => none
  | c :: r =>
    if isDigit c then
      let (ds, rest) := underscored isDigit r
      some (c :: ds, rest)
    else none

/-- Read a sign; `true` for a minus. -/
def sign : List Char → Bool × List Char
  | '-' :: r => (true, r)
  | '+' :: r => (false, r)
  | cs => (false, cs)

/-- Read the whole part of a decimal number: no zero in front of another digit. -/
def wholePart : Reader (List Char)
  | '0' :: r => some (['0'], r)
  | cs => digitRun Char.isDigit cs

/-- Read a fraction. -/
def fraction : Reader (List Char)
  | '.' :: r => digitRun Char.isDigit r
  | _ => none

/-- Read an exponent. -/
def exponent : Reader Int
  | c :: r =>
    if c == 'e' || c == 'E' then do
      let (negative, r) := sign r
      let (ds, r) ← digitRun Char.isDigit r
      let n : Int := digitsValue ds
      some (if negative then -n else n, r)
    else none
  | [] => none

/-- A positive number beyond the largest binary fraction. -/
def Real.overflows : Real → Bool
  | .finite false digits exponent =>
    let (num, den) := Decimal.powRatio 10 exponent
    (Decimal.nearest (digits * num) den).isNone
  | _ => false

/-- Read a floating-point number. -/
def real : Reader Real := fun cs =>
  let (negative, r) := sign cs
  match r with
  | 'i' :: 'n' :: 'f' :: r => some (.infinite negative, r)
  | 'n' :: 'a' :: 'n' :: r => some (.nan, r)
  | r => do
    let (whole, r) ← wholePart r
    let (value, r) ←
      match fraction r with
      | some (frac, r) =>
        let (e, r) := (exponent r).getD (0, r)
        some (Real.finite negative (digitsValue (whole ++ frac)) (e - frac.length), r)
      | none => do
        let (e, r) ← exponent r
        some (Real.finite negative (digitsValue whole) e, r)
    if value.overflows then none else some (value, r)

/-- A whole number of 64 bits. -/
def fitsWord (n : Int) : Bool :=
  -Int.ofNat (Nat.pow 2 63) ≤ n && n < Int.ofNat (Nat.pow 2 63)

/-- Read a whole number in another base. -/
def based (base : Nat) (isDigit : Char → Bool) (cs : List Char) : Option (Int × List Char) := do
  let (ds, r) ← digitRun isDigit cs
  let n := ds.foldl (fun n c => n * base + (hexValue c).getD 0) 0
  if fitsWord n then some (n, r) else none

/-- Read a whole number. -/
def integer : Reader Int
  | '0' :: 'x' :: r => based 16 (fun c => (hexValue c).isSome) r
  | '0' :: 'o' :: r => based 8 (fun c => '0' ≤ c && c ≤ '7') r
  | '0' :: 'b' :: r => based 2 (fun c => c == '0' || c == '1') r
  | cs => do
    let (negative, r) := sign cs
    let (ds, r) ← wholePart r
    let n : Int := digitsValue ds
    let n := if negative then -n else n
    if fitsWord n then some (n, r) else none

/-! ## Dates and times -/

/-- What an attempt at a construct with a distinctive start gives: it is not that construct, or it is
broken, or it was read. -/
inductive Attempt (α : Type) where
  | other
  | broken
  | done (value : α) (rest : List Char)

/-- Read exactly this many decimal digits. -/
def fixedDigits (n : Nat) (cs : List Char) : Option (Nat × List Char) :=
  let ds := cs.take n
  if ds.length = n ∧ ds.all Char.isDigit then some (digitsValue ds, cs.drop n) else none

/-- Read two digits within bounds. -/
def twoDigits (low high : Nat) (cs : List Char) : Option (Nat × List Char) := do
  let (n, r) ← fixedDigits 2 cs
  if low ≤ n ∧ n ≤ high then some (n, r) else none

/-- The number of days of a month. -/
def daysIn (year month : Nat) : Nat :=
  if month = 2 then
    if year % 4 = 0 ∧ (year % 100 ≠ 0 ∨ year % 400 = 0) then 29 else 28
  else if month ∈ [4, 6, 9, 11] then 30
  else 31

/-- Read the character that must come next. -/
def exactly (c : Char) : List Char → Option (List Char)
  | d :: r => if d = c then some r else none
  | [] => none

/-- A number in decimal digits, filled up with zeros. -/
def padded (width n : Nat) : List Char :=
  let ds := Nat.toDigits 10 n
  List.replicate (width - ds.length) '0' ++ ds

/-- Read a date. -/
def date (cs : List Char) : Attempt (List Char) :=
  match fixedDigits 4 cs with
  | some (year, '-' :: r) =>
    let rest := do
      let (month, r) ← twoDigits 1 12 r
      let r ← exactly '-' r
      let (day, r) ← twoDigits 1 31 r
      if day ≤ daysIn year month then
        some (padded 4 year ++ ['-'] ++ padded 2 month ++ ['-'] ++ padded 2 day, r)
      else none
    match rest with
    | some (text, r) => .done text r
    | none => .broken
  | _ => .other

/-- The digits of a fraction of a second down to the billionth, without zeros at the end. -/
def secondFraction (ds : List Char) : List Char :=
  match Text.dropEndWhile (· == '0') (ds.take 9) with
  | [] => []
  | kept => '.' :: kept

/-- Read a time of day. -/
def timeOfDay (cs : List Char) : Attempt (List Char) :=
  match twoDigits 0 23 cs with
  | some (hour, ':' :: r) =>
    let rest := do
      let (minute, r) ← twoDigits 0 59 r
      let r ← exactly ':' r
      let (second, r) ← twoDigits 0 60 r
      let text := padded 2 hour ++ [':'] ++ padded 2 minute ++ [':'] ++ padded 2 second
      match r with
      | '.' :: r' =>
        match r'.takeWhile Char.isDigit with
        | [] => some (text, r)
        | ds => some (text ++ secondFraction ds, r'.drop ds.length)
      | _ => some (text, r)
    match rest with
    | some (text, r) => .done text r
    | none => .broken
  | _ => .other

/-- Read the offset of a time, if there is one; no offset at all is positive. -/
def offset : List Char → Attempt (List Char)
  | c :: r =>
    if c == 'Z' || c == 'z' then .done ['Z'] r
    else if c == '+' || c == '-' then
      let rest := do
        let (hours, r) ← twoDigits 0 23 r
        let r ← exactly ':' r
        let (minutes, r) ← twoDigits 0 59 r
        let sign := if hours = 0 ∧ minutes = 0 then '+' else c
        some (sign :: padded 2 hours ++ [':'] ++ padded 2 minutes, r)
      match rest with
      | some (text, r) => .done text r
      | none => .broken
    else .done [] (c :: r)
  | [] => .done [] []

/-- Read a date, a time or both, and give it in its standard spelling. -/
def moment (cs : List Char) : Attempt (List Char) :=
  match date cs with
  | .broken => .broken
  | .done day r =>
    match r with
    | d :: r' =>
      if d == 'T' || d == 't' || d == ' ' then
        match timeOfDay r' with
        | .done time r'' =>
          match offset r'' with
          | .done zone r => .done (day ++ ['T'] ++ time ++ zone) r
          | .broken => .broken
          | .other => .other
        | .broken => .broken
        | .other => .done day r
      else .done day r
    | [] => .done day []
  | .other => timeOfDay cs

/-! ## Keys and values -/

/-- Characters of a key without quotes. -/
def isBareKeyChar (c : Char) : Bool :=
  c.isAlphanum || c == '_' || c == '-'

/-- Read one part of a key. -/
def keyPart : Reader String
  | [] => none
  | c :: r =>
    if c == '"' || c == '\'' then quotedOnLine (c :: r)
    else
      let name := (c :: r).takeWhile isBareKeyChar
      if name.isEmpty then none else some (.ofList name, (c :: r).drop name.length)

/-- Parts that a dotted key may have at most. -/
def keyPartLimit : Nat := 79

/-- Read the parts of a dotted key, at most so many: the parts before the last one, and the last
one. Blanks may surround every part. -/
def keyParts : Nat → Reader (List String × String)
  | 0, _ => none
  | fuel + 1, cs => do
    let (part, r) ← keyPart (skipBlanks cs)
    match skipBlanks r with
    | '.' :: r => do
      let ((path, last), r) ← keyParts fuel r
      some ((part :: path, last), r)
    | r => some (([], part), r)

/-- Read a dotted key. -/
def dottedKey : Reader (List String × String) := keyParts keyPartLimit

/-- Read a number, date or time. -/
def number (cs : List Char) : Option (Value × List Char) :=
  match moment cs with
  | .broken => none
  | .done text r => some (.datetime (.ofList text), r)
  | .other =>
    match real cs with
    | some (x, r) => some (.float x, r)
    | none => (integer cs).map fun (n, r) => (.integer n, r)

/-- How deep values may nest. -/
def depthLimit : Nat := 79

mutual
/-- Read a value. Each call uses up one unit of fuel; `depth` more levels may open. -/
def value : Nat → Nat → Reader Value
  | 0, _, _ => none
  | fuel + 1, depth, cs =>
    match cs with
    | [] => none
    | '"' :: _ | '\'' :: _ => (quoted cs).map fun (s, r) => (.string s, r)
    | '[' :: r =>
      match depth with
      | 0 => none
      | depth + 1 => items fuel depth [] (skipLines r.length r)
    | '{' :: r =>
      match depth with
      | 0 => none
      | depth + 1 =>
        match skipBlanks r with
        | '}' :: r => some (.table [], r)
        | r => do
          let (pairs, r) ← inlinePairs fuel depth r
          some (← inlineTable pairs, r)
    | 't' :: 'r' :: 'u' :: 'e' :: r => some (.boolean true, r)
    | 'f' :: 'a' :: 'l' :: 's' :: 'e' :: r => some (.boolean false, r)
    | 'i' :: 'n' :: 'f' :: r => some (.float (.infinite false), r)
    | 'n' :: 'a' :: 'n' :: r => some (.float .nan, r)
    | c :: _ => if c == '+' || c == '-' || c.isDigit then number cs else none

/-- Read the items of a list up to the closing bracket. -/
def items : Nat → Nat → List Value → Reader Value
  | 0, _, _, _ => none
  | fuel + 1, depth, acc, cs =>
    match cs with
    | ']' :: r => some (.array acc.reverse, r)
    | cs => do
      let (v, r) ← value fuel depth cs
      match skipLines r.length r with
      | ',' :: r => items fuel depth (v :: acc) (skipLines r.length r)
      | ']' :: r => some (.array (v :: acc).reverse, r)
      | _ => none

/-- Read the pairs of an inline table up to the closing brace. -/
def inlinePairs : Nat → Nat → Reader (List (List String × String × Value))
  | 0, _, _ => none
  | fuel + 1, depth, cs => do
    let ((path, key), r) ← dottedKey cs
    let r ← exactly '=' r
    let (v, r) ← value fuel depth (skipBlanks r)
    match skipBlanks r with
    | ',' :: r => do
      let (rest, r) ← inlinePairs fuel depth r
      some ((path, key, v) :: rest, r)
    | '}' :: r => some ([(path, key, v)], r)
    | _ => none
end

/-! ## Documents -/

/-- Read a statement that starts at the first character of the text. -/
def statement (cs : List Char) : Option (Statement × List Char) :=
  match cs with
  | '[' :: '[' :: r => do
    let ((path, key), r) ← dottedKey r
    let r ← exactly ']' r
    let r ← exactly ']' r
    some (.itemHeader path key, r)
  | '[' :: r => do
    let ((path, key), r) ← dottedKey r
    let r ← exactly ']' r
    some (.header path key, r)
  | cs => do
    let ((path, key), r) ← dottedKey cs
    let r ← exactly '=' r
    let (v, r) ← value (2 * r.length + 2) depthLimit (skipBlanks r)
    some (.pair path key v, r)

/-- Read the statements of a text, one to a line. -/
def statements : Nat → List Char → Option (List Statement)
  | 0, _ => none
  | fuel + 1, cs =>
    match skipComment (skipBlanks cs) with
    | [] => some []
    | '\n' :: r => statements fuel r
    | cs' => do
      if (skipBlanks cs).head? = some '#' then none
      let (s, r) ← statement cs'
      let r ← lineRest r
      some (s :: (← statements fuel r))

/-- Read a document, `none` when the text is none. A byte order mark in front does not count. -/
def parse (text : String) : Option Entries := do
  let cs := match text.toList with
    | '\uFEFF' :: r => r
    | cs => cs
  let cs := unifyLineEnds cs
  documentOf (← statements (cs.length + 1) cs)

end CrudScaffold.Toml
