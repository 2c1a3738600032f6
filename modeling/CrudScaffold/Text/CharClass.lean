import CrudScaffold.Text.Table.Alphabetic
import CrudScaffold.Text.Table.Cased
import CrudScaffold.Text.Table.CaseMap
import CrudScaffold.Text.Table.Identifier
import CrudScaffold.Text.Table.Printable

/-!
# Character classes and case mappings

Membership of one character in the Unicode classes that the rest of the library consults, and its
lowercase and uppercase expansions. All of them read the tables of `CrudScaffold.Text.Table`.
-/

namespace CrudScaffold.Text

/-- Whether a code point lies inside the class with these switch points. -/
def insideOf (switches : List Nat) (code : Nat) : Bool :=
  (switches.takeWhile (· ≤ code)).length % 2 == 1

/-- Letters of any script, and the marks that count as letters. -/
def isAlphabetic (c : Char) : Bool := insideOf Table.alphabetic c.toNat

/-- Digits and other number characters of any script. -/
def isNumeric (c : Char) : Bool := insideOf Table.numeric c.toNat

/-- Letters and numbers: what a word is made of. -/
def isAlphanumeric (c : Char) : Bool := isAlphabetic c || isNumeric c

/-- Uppercase characters. -/
def isUppercase (c : Char) : Bool := insideOf Table.uppercase c.toNat

/-- Lowercase characters. -/
def isLowercase (c : Char) : Bool := insideOf Table.lowercase c.toNat

/-- Characters that may open an identifier. -/
def isIdentifierStart (c : Char) : Bool := c == '_' || insideOf Table.identifierStart c.toNat

/-- Characters that may follow in an identifier. -/
def isIdentifierContinue (c : Char) : Bool := insideOf Table.identifierContinue c.toNat

/-- Marks that extend the character before them. -/
def isGraphemeExtend (c : Char) : Bool := insideOf Table.graphemeExtend c.toNat

/-- Characters that are shown as they are in a quoted text. -/
def isPrintable (c : Char) : Bool := !insideOf Table.unprintable c.toNat

/-- The shift of the first run that holds the code point. -/
def shiftIn (runs : List (Nat × Nat × Nat × Int)) (code : Nat) : Option Int :=
  (runs.find? fun (first, last, step, _) =>
    first ≤ code && code ≤ last && (code - first) % step == 0).map fun (_, _, _, shift) => shift

/-- The expansion of one character under a case mapping; a character outside it stands for
itself. -/
def mapCase (runs : List (Nat × Nat × Nat × Int)) (expansions : List (Nat × List Nat))
    (c : Char) : List Char :=
  match expansions.lookup c.toNat with
  | some codes => codes.map Char.ofNat
  | none =>
    match shiftIn runs c.toNat with
    | some shift => [Char.ofNat (c.toNat + shift).toNat]
    | none => [c]

/-- Lowercase form of one character. -/
def lowerOf (c : Char) : List Char := mapCase Table.lowerRuns Table.lowerExpansions c

/-- Uppercase form of one character. -/
def upperOf (c : Char) : List Char := mapCase Table.upperRuns Table.upperExpansions c

end CrudScaffold.Text
