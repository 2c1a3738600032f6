import CrudScaffold.Text.CharClass

/-!
# Quoted texts

A text is shown between double quotes with escapes for the characters that could not be told apart
on paper: quotes, backslashes, control characters, marks that would join the character before them
and everything without a printable form.
-/

namespace CrudScaffold.Text

/-- A code point in lowercase hexadecimal digits. -/
def hexText (n : Nat) : List Char := Nat.toDigits 16 n

/-- The escaped form of one character between double quotes. -/
def escapeChar (c : Char) : List Char :=
  if c == '\x00' then ['\\', '0']
  else if c == '\t' then ['\\', 't']
  else if c == '\n' then ['\\', 'n']
  else if c == '\r' then ['\\', 'r']
  else if c == '"' then ['\\', '"']
  else if c == '\\' then ['\\', '\\']
  else if isGraphemeExtend c || !isPrintable c then
    ['\\', 'u', '\x7b'] ++ hexText c.toNat ++ ['\x7d']
  else [c]

/-- The text between double quotes. -/
def quote (s : String) : String := .ofList (['"'] ++ s.toList.flatMap escapeChar ++ ['"'])

/-- The characters of a literal between double quotes in generated code; an apostrophe stands for
itself, and a zero before an octal digit is written in full. -/
def literalChars : List Char → List Char
  | [] => []
  | '\x00' :: c :: r =>
    (if '0' ≤ c ∧ c ≤ '7' then ['\\', 'x', '0', '0'] else ['\\', '0']) ++ literalChars (c :: r)
  | c :: r => escapeChar c ++ literalChars r

/-- A text as a literal in generated code. -/
def quoteLiteral (s : String) : String := .ofList (['"'] ++ literalChars s.toList ++ ['"'])

/-! ## Reading literals -/

/-- A number with one more hexadecimal digit; other characters leave it as it is. -/
def withHexDigit (n : Nat) (c : Char) : Nat :=
  if c.isDigit then n * 16 + (c.toNat - 48)
  else if 'a' ≤ c && c ≤ 'f' then n * 16 + (c.toNat - 87)
  else if 'A' ≤ c && c ≤ 'F' then n * 16 + (c.toNat - 55)
  else n

/-- The text of the characters between the quotes of a literal, possibly inside the braces of a code
point that has been read so far. -/
def unescape : Option Nat → List Char → List Char
  | _, [] => []
  | some n, c :: r =>
    if c = '\x7d' then .ofNat n :: unescape none r else unescape (some (withHexDigit n c)) r
  | none, '\\' :: 'u' :: r => unescape (some 0) r
  | none, '\\' :: 'x' :: h :: l :: r =>
    .ofNat (withHexDigit (withHexDigit 0 h) l) :: unescape none r
  | none, '\\' :: '0' :: r => '\x00' :: unescape none r
  | none, '\\' :: 't' :: r => '\t' :: unescape none r
  | none, '\\' :: 'n' :: r => '\n' :: unescape none r
  | none, '\\' :: 'r' :: r => '\r' :: unescape none r
  | none, '\\' :: c :: r => c :: unescape none r
  | none, c :: r => c :: unescape none r

/-- The text of a literal between plain quotes, possibly a raw one without hashes. -/
def literalText? (literal : String) : Option String :=
  match literal.toList with
  | '"' :: r => some (.ofList (unescape none r.dropLast))
  | 'r' :: '"' :: r => some (.ofList r.dropLast)
  | _ => none

end CrudScaffold.Text
