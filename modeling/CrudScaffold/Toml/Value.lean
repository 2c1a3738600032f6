import CrudScaffold.Decimal.Shortest

/-!
# Values of a configuration document

A document is a table: keys with values, in the order in which they were first mentioned. A list of
tables written with repeated headers is kept apart from a list written in brackets.
-/

namespace CrudScaffold.Toml

/-- A floating-point number as it was written: `digits · 10 ^ exponent` with a sign, or one of the
special values. -/
inductive Real where
  | finite (negative : Bool) (digits : Nat) (exponent : Int)
  | infinite (negative : Bool)
  | nan
  deriving DecidableEq, Repr

/-- The nearest 64-bit binary fraction, its shortest digits written in a form of choice. -/
def Real.textBy (written : Nat → Int → String) : Real → String
  | .nan => "NaN"
  | .infinite negative => if negative then "-inf" else "inf"
  | .finite negative digits exponent =>
    let (num, den) := Decimal.powRatio 10 exponent
    let sign := if negative then "-" else ""
    match Decimal.nearest (digits * num) den with
    | none => sign ++ "inf"
    | some b =>
      let (ds, place) := Decimal.shortest b
      sign ++ written ds place

/-- The number in positional form. -/
def Real.text (x : Real) : String := x.textBy Decimal.positional

/-- The number in a short form. -/
def Real.shortText (x : Real) : String := x.textBy Decimal.short

/-- A value of a document. -/
inductive Value where
  | string (text : String)
  | integer (value : Int)
  | float (value : Real)
  | boolean (value : Bool)
  | datetime (text : String)
  | array (items : List Value)
  | tables (items : List (List (String × Value)))
  | table (entries : List (String × Value))
  deriving Repr, Inhabited

/-- Keys with their values, in order. -/
abbrev Entries := List (String × Value)

/-- The value under a key. -/
def Entries.get? (entries : Entries) (key : String) : Option Value := entries.lookup key

/-- What kind of thing a value is. -/
def Value.kindName : Value → String
  | .string _ => "string"
  | .integer _ => "integer"
  | .float _ => "float"
  | .boolean _ => "boolean"
  | .datetime _ => "datetime"
  | .array _ => "array"
  | .tables _ => "array of tables"
  | .table _ => "table"

end CrudScaffold.Toml
