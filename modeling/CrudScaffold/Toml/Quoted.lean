/-!
# Texts in a document

A text is written in the plainest form that can hold it: between double quotes as it stands, between
single quotes, on several lines in either form, and only where none of these will do with escapes.
-/

namespace CrudScaffold.Toml

/-- A control character that no form holds as it stands. -/
def isControl (c : Char) : Bool :=
  (c.toNat < 0x20 && c != '\t' && c != '\n') || c.toNat == 0x7F

/-- The length of the longest run of a character, behind a run of so many. -/
def longestRunFrom (q : Char) (run : Nat) : List Char → Nat
  | [] => run
  | c :: r => if c = q then longestRunFrom q (run + 1) r else max run (longestRunFrom q 0 r)

/-- The length of the longest run of a character. -/
def longestRun (q : Char) (cs : List Char) : Nat := longestRunFrom q 0 cs

/-- The forms of a written text. -/
inductive TextForm where
  | basic
  | literal
  | basicLines
  | literalLines
  deriving DecidableEq, Repr

/-- The plainest form that can hold a text. -/
def TextForm.of (cs : List Char) : TextForm :=
  let control := cs.any isControl
  let backslash := cs.contains '\\'
  let lines := cs.contains '\n'
  if !control && !backslash && longestRun '"' cs == 0 && !lines then .basic
  else if !control && longestRun '\'' cs == 0 && !lines then .literal
  else if !control && !backslash && longestRun '"' cs ≤ 2 then .basicLines
  else if !control && longestRun '\'' cs ≤ 2 then .literalLines
  else if lines then .basicLines
  else .basic

/-- One hexadecimal digit. -/
def hexDigit (n : Nat) : Char := "0123456789ABCDEF".toList.getD n '0'

/-- The escape of a character by its code. -/
def codeEscape (n : Nat) : List Char :=
  ['\\', 'u', hexDigit (n / 4096 % 16), hexDigit (n / 256 % 16), hexDigit (n / 16 % 16),
    hexDigit (n % 16)]

/-- A character between double quotes, where it is no quote. -/
def escaped (lines : Bool) (c : Char) : List Char :=
  if c = '\x08' then ['\\', 'b']
  else if c = '\t' then ['\\', 't']
  else if c = '\n' then if lines then ['\n'] else ['\\', 'n']
  else if c = '\x0c' then ['\\', 'f']
  else if c = '\r' then ['\\', 'r']
  else if c = '\\' then ['\\', '\\']
  else if isControl c then codeEscape c.toNat
  else [c]

/-- A text between double quotes, behind a run of so many quotes that stand as they are; on several
lines two of them may follow each other. -/
def escapeFrom (lines : Bool) (run : Nat) : List Char → List Char
  | [] => []
  | c :: r =>
    if c = '"' then
      if run < (if lines then 2 else 0) then '"' :: escapeFrom lines (run + 1) r
      else '\\' :: '"' :: escapeFrom lines 0 r
    else escaped lines c ++ escapeFrom lines 0 r

/-- A text in a given form. A text of several lines starts on a line of its own. -/
def inForm (cs : List Char) : TextForm → List Char
  | .basic => ['"'] ++ escapeFrom false 0 cs ++ ['"']
  | .literal => ['\''] ++ cs ++ ['\'']
  | .basicLines => ['"', '"', '"'] ++ opening ++ escapeFrom true 0 cs ++ ['"', '"', '"']
  | .literalLines => ['\'', '\'', '\''] ++ opening ++ cs ++ ['\'', '\'', '\'']
where
  /-- The line end in front of a text of several lines. -/
  opening : List Char := if cs.contains '\n' then ['\n'] else []

/-- A text as it is written in a document. -/
def writeText (s : String) : String := .ofList (inForm s.toList (.of s.toList))

end CrudScaffold.Toml
