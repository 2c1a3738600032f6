import CrudScaffold.Code.Token

/-!
# Reading from a token stream

A reader takes tokens from the front of a stream or refuses. Operators are matched character by
character: all but the last one must be joined to the next. A keyword is no name, unless it is
written as a raw name.
-/

namespace CrudScaffold.Code

/-- A reader of token streams. -/
abbrev Reads := StateT Tokens Option

namespace Reads

/-- Refuse. -/
def refuse {α : Type} : Reads α := fun _ => none

/-- Words that are not names. -/
def keywords : List String :=
  ["_", "abstract", "as", "async", "await", "become", "box", "break", "const", "continue", "crate",
   "do", "dyn", "else", "enum", "extern", "false", "final", "fn", "for", "if", "impl", "in", "let",
   "loop", "macro", "match", "mod", "move", "mut", "override", "priv", "pub", "ref", "return",
   "Self", "self", "static", "struct", "super", "trait", "true", "try", "type", "typeof", "unsafe",
   "unsized", "use", "virtual", "where", "while", "yield"]

/-! ## Looking ahead -/

/-- The stream starts with an operator. -/
def startsOperator : List Char → Tokens → Bool
  | [], _ => true
  | [c], .punct d _ :: _ => c == d
  | c :: rest, .punct d joint :: ts => c == d && joint && startsOperator rest ts
  | _, _ => false

/-- The stream starts with an operator that is given as a text. -/
def startsOp (s : String) (ts : Tokens) : Bool := startsOperator s.toList ts

/-- The stream starts with a word. -/
def startsWord (s : String) : Tokens → Bool
  | .ident w :: _ => w == s
  | _ => false

/-- The stream starts with a name. -/
def startsName : Tokens → Bool
  | .ident w :: _ => !keywords.contains w
  | _ => false

/-- The stream starts with a name or keyword. -/
def startsAnyWord : Tokens → Bool
  | .ident _ :: _ => true
  | _ => false

/-- The stream starts with a lifetime. -/
def startsLifetime : Tokens → Bool
  | .lifetime _ :: _ => true
  | _ => false

/-- The stream starts with an opening bracket. -/
def startsOpening (d : Delimiter) : Tokens → Bool
  | .opening e :: _ => d == e
  | _ => false

/-- The stream starts with a literal; the truth values are literals. -/
def startsLiteral : Tokens → Bool
  | .literal _ :: _ => true
  | .ident w :: _ => w == "true" || w == "false"
  | _ => false

/-- The stream starts with the minus of a number. -/
def startsNegative : Tokens → Bool
  | .punct '-' _ :: .literal s :: _ => Token.isNumber s
  | _ => false

/-- The stream starts with a text literal, raw or not. -/
def startsText : Tokens → Bool
  | .literal s :: _ => s.toList.head? == some '"' || s.toList.head? == some 'r'
  | _ => false

/-- The stream starts with any of some words. -/
def startsOneOf (words : List String) : Tokens → Bool
  | .ident w :: _ => words.contains w
  | _ => false

/-- A plain separator between names starts here. -/
def startsColon (ts : Tokens) : Bool := startsOp ":" ts && !startsOp "::" ts

/-- A member access starts here. -/
def startsDot (ts : Tokens) : Bool := startsOp "." ts && !startsOp ".." ts

/-- The mark of an expansion starts here. -/
def startsBang (ts : Tokens) : Bool := startsOp "!" ts && !startsOp "!=" ts

/-- A bar between two patterns starts here. -/
def startsBar (ts : Tokens) : Bool := startsOp "|" ts && !startsOp "||" ts && !startsOp "|=" ts

/-- The stream behind its first token, or behind the brackets that start it. -/
def afterFirst : Tokens → Tokens
  | .opening _ :: rest => skipGroup 0 rest
  | _ :: rest => rest
  | [] => []
where
  /-- The stream behind the bracket that closes the open one. -/
  skipGroup : Nat → Tokens → Tokens
    | 0, .closing _ :: rest => rest
    | depth + 1, .closing _ :: rest => skipGroup depth rest
    | depth, .opening _ :: rest => skipGroup (depth + 1) rest
    | depth, _ :: rest => skipGroup depth rest
    | _, [] => []

/-- The end of the stream, or of the brackets that are open. -/
def atEnd : Tokens → Bool
  | [] | .closing _ :: _ => true
  | _ => false

/-- Test the stream without taking from it. -/
def peek (test : Tokens → Bool) : Reads Bool := fun ts => some (test ts, ts)

/-! ## Taking tokens -/

/-- Take an operator. -/
def op (s : String) : Reads Unit := fun ts =>
  if startsOp s ts then some ((), ts.drop s.length) else none

/-- Take an operator if it comes next. -/
def tryOp (s : String) : Reads Bool := fun ts =>
  if startsOp s ts then some (true, ts.drop s.length) else some (false, ts)

/-- Take a word. -/
def word (s : String) : Reads Unit := fun ts =>
  if startsWord s ts then some ((), ts.drop 1) else none

/-- Take a word if it comes next. -/
def tryWord (s : String) : Reads Bool := fun ts =>
  if startsWord s ts then some (true, ts.drop 1) else some (false, ts)

/-- Take a name. -/
def name : Reads String
  | .ident w :: rest => if keywords.contains w then none else some (w, rest)
  | _ => none

/-- Take a name or keyword. -/
def anyWord : Reads String
  | .ident w :: rest => some (w, rest)
  | _ => none

/-- Take a name, or a placeholder for one. -/
def nameOrBlank : Reads String
  | .ident w :: rest => if keywords.contains w && w != "_" then none else some (w, rest)
  | _ => none

/-- Take a lifetime. -/
def lifetime : Reads String
  | .lifetime l :: rest => some (l, rest)
  | _ => none

/-- Take a lifetime if one comes next. -/
def tryLifetime : Reads (Option String)
  | .lifetime l :: rest => some (some l, rest)
  | ts => some (none, ts)

/-- Take a literal. -/
def literal : Reads String
  | .literal s :: rest => some (s, rest)
  | .ident w :: rest => if w == "true" || w == "false" then some (w, rest) else none
  | _ => none

/-- Take a bracketed part, all of whose tokens the reader inside must take. -/
def enclosed {α : Type} (d : Delimiter) (inside : Reads α) : Reads α
  | .opening e :: ts =>
    if d = e then
      match inside ts with
      | some (a, .closing f :: rest) => if d = f then some (a, rest) else none
      | _ => none
    else none
  | _ => none

/-- The tokens up to the bracket that closes the open one, and what follows it. -/
def bracketed : Nat → Tokens → Option (Tokens × Tokens)
  | _, [] => none
  | 0, .closing _ :: rest => some ([], rest)
  | depth + 1, .closing d :: rest =>
    (bracketed depth rest).map fun (inner, outer) => (.closing d :: inner, outer)
  | depth, .opening d :: rest =>
    (bracketed (depth + 1) rest).map fun (inner, outer) => (.opening d :: inner, outer)
  | depth, t :: rest => (bracketed depth rest).map fun (inner, outer) => (t :: inner, outer)

/-- Take a bracketed part whatever it holds. -/
def group : Reads (Delimiter × Tokens)
  | .opening d :: ts => (bracketed 0 ts).map fun (inner, rest) => ((d, inner), rest)
  | _ => none

/-- What a reader takes, along with its tokens. -/
def taken {α : Type} (reader : Reads α) : Reads (α × Tokens) := fun ts =>
  (reader ts).map fun (a, rest) => ((a, ts.take (ts.length - rest.length)), rest)

/-- What a reader takes; where it refuses nothing is taken. -/
def tryRead {α : Type} (reader : Reads α) : Reads (Option α) := fun ts =>
  match reader ts with
  | some (a, rest) => some (some a, rest)
  | none => some (none, ts)

/-! ## Lists -/

/-- Take members while the test holds. -/
def manyWhile {α : Type} (test : Tokens → Bool) (member : Reads α) : Nat → Reads (List α)
  | 0 => refuse
  | fuel + 1 => do
    if ← peek test then
      let a ← member
      return a :: (← manyWhile test member fuel)
    else return []

/-- As many rounds as the stream can feed. -/
def rounds : Reads Nat := fun ts => some (ts.length + 1, ts)

/-- Take members with a separator between each two until the test holds; whether a separator stands
after the last one. -/
def listUntil {α : Type} (sep : String) (stop : Tokens → Bool) (member : Reads α) :
    Nat → Reads (List α × Bool)
  | 0 => refuse
  | fuel + 1 => do
    if ← peek stop then return ([], false)
    let a ← member
    if ← peek stop then return ([a], false)
    op sep
    if ← peek stop then return ([a], true)
    let (rest, trailing) ← listUntil sep stop member fuel
    return (a :: rest, trailing)

/-- Take members with commas between them up to the end of the open brackets. -/
def commaList {α : Type} (member : Reads α) : Reads (List α × Bool) := do
  listUntil "," atEnd member (← rounds)

/-- The result of a reader that takes the whole stream. -/
def whole? {α : Type} (reader : Reads α) (ts : Tokens) : Option α :=
  match reader ts with
  | some (a, []) => some a
  | _ => none

end Reads

end CrudScaffold.Code
