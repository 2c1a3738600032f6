import CrudScaffold.Text.Quoted
import CrudScaffold.Toml.Value

/-!
# The shape of a value

Reading a domain value out of a document value. A record is a table whose keys are field names, or a
list whose items are the fields in declaration order; keys that name no field are passed over. The
first problem in document order is reported, and after the fields that are present the first missing
one in declaration order.
-/

namespace CrudScaffold.Toml

/-- Why a value does not have the shape that was asked for. -/
inductive ShapeError where
  | invalidType (found : String) (expected : String)
  | missingField (name : String)
  | unknownVariant (name : String) (variants : List String)
  | invalidLength (length : Nat) (expected : String)
  | emptyVariant
  | severalVariants
  | notAVariant
  | variantTableNotEmpty
  | variantListNotEmpty
  | notAVariantTable (kind : String)
  deriving DecidableEq, Repr

/-- Names between backquotes, listed as alternatives. -/
def alternatives : List String → String
  | [] => "there are no variants"
  | [a] => s!"expected {tick a}"
  | [a, b] => s!"expected {tick a} or {tick b}"
  | names => "expected one of " ++ ", ".intercalate (names.map tick)
where
  /-- A name between backquotes. -/
  tick (s : String) : String := "\x60" ++ s ++ "\x60"

/-- The wording of a shape error. -/
def ShapeError.message : ShapeError → String
  | .invalidType found expected => s!"invalid type: {found}, expected {expected}"
  | .missingField name => s!"missing field \x60{name}\x60"
  | .unknownVariant name variants => s!"unknown variant \x60{name}\x60, {alternatives variants}"
  | .invalidLength length expected => s!"invalid length {length}, expected {expected}"
  | .emptyVariant => "wanted exactly 1 element, found 0 elements"
  | .severalVariants => "wanted exactly 1 element, more than 1 element"
  | .notAVariant => "wanted string or table"
  | .variantTableNotEmpty => "expected empty table"
  | .variantListNotEmpty => "expected empty array"
  | .notAVariantTable kind => s!"expected table, found {kind}"

/-- A value as it is named in a refusal, numbers that are no whole ones in a form of choice. -/
def Value.describedBy (real : Real → String) : Value → String
  | .string s => "string " ++ Text.quote s
  | .integer n => s!"integer \x60{n}\x60"
  | .float x => s!"floating point \x60{real x}\x60"
  | .boolean b => s!"boolean \x60{b}\x60"
  | .array _ | .tables _ => "sequence"
  | .table _ | .datetime _ => "map"

/-- A value as it is named in a refusal. -/
def Value.described (v : Value) : String := v.describedBy Real.text

/-- A way to read a domain value. -/
abbrev Decoder (α : Type) := Value → Except ShapeError α

/-- The value is not what was expected. -/
def mismatch {α : Type} (expected : String) (v : Value) : Except ShapeError α :=
  .error (.invalidType v.described expected)

namespace Decoder

/-- A text. -/
def string : Decoder String
  | .string s => .ok s
  | v => mismatch "a string" v

/-- A truth value. -/
def boolean : Decoder Bool
  | .boolean b => .ok b
  | v => mismatch "a boolean" v

/-- The items of a list, or of a list of tables. -/
def list {α : Type} (item : Decoder α) : Decoder (List α)
  | .array vs => vs.mapM item
  | .tables ts => ts.mapM fun t => item (.table t)
  | v => mismatch "a sequence" v

/-- The keys and values of a table. -/
def entries {α : Type} (item : Decoder α) : Decoder (List (String × α))
  | .table es => es.mapM fun (k, v) => do .ok (k, ← item v)
  | .datetime text => do .ok [("$__toml_private_datetime", ← item (.string text))]
  | v => mismatch "a map" v

/-- One of a list of named alternatives: its name, or a table whose only key is its name. -/
def variant {α : Type} (variants : List (String × α)) : Decoder α
  | .string s => named s
  | .table [] => .error .emptyVariant
  | .table [(k, v)] => do
    let a ← named k
    match v with
    | .table [] | .array [] | .tables [] => .ok a
    | .table _ => .error .variantTableNotEmpty
    | .array _ | .tables _ => .error .variantListNotEmpty
    | v => .error (.notAVariantTable v.kindName)
  | .table _ => .error .severalVariants
  | _ => .error .notAVariant
where
  /-- The alternative with this name. -/
  named (s : String) : Except ShapeError α :=
    match variants.lookup s with
    | some a => .ok a
    | none => .error (.unknownVariant s (variants.map (·.1)))

end Decoder

/-- The fields of a record that is being read. -/
structure Fields where
  entries : Entries
  /-- For a record written as a list: the names of all fields in declaration order, and what the
  refusal of too short a list expects. -/
  listed : Option (List String × String)

namespace Fields

/-- The error of a field that is not there; a list is as long as the fields in front of it. -/
def absent (f : Fields) (name : String) : ShapeError :=
  match f.listed with
  | some (names, expected) => .invalidLength (names.idxOf name) expected
  | none => .missingField name

/-- A field that must be there. -/
def required {α : Type} (f : Fields) (name : String) (d : Decoder α) : Except ShapeError α :=
  match f.entries.get? name with
  | some v => d v
  | none => .error (f.absent name)

/-- A field with a default. -/
def withDefault {α : Type} (f : Fields) (name : String) (d : Decoder α) (default : α) :
    Except ShapeError α :=
  match f.entries.get? name with
  | some v => d v
  | none => .ok default

/-- A field that a table may leave out; a list may not. -/
def optional {α : Type} (f : Fields) (name : String) (d : Decoder α) :
    Except ShapeError (Option α) :=
  match f.entries.get? name, f.listed with
  | some v, _ => (d v).map some
  | none, none => .ok none
  | none, some _ => .error (f.absent name)

end Fields

/-- A check that a value has the shape a decoder reads. -/
def Decoder.check {α : Type} (d : Decoder α) (v : Value) : Except ShapeError Unit :=
  (d v).map fun _ => ()

/-- Read a record. `checks` lists the field names in declaration order with the shapes of their
values; `build` assembles the record. -/
def record {α : Type} (name : String) (checks : List (String × (Value → Except ShapeError Unit)))
    (build : Fields → Except ShapeError α) : Decoder α
  | .table es => ofEntries es
  | .datetime text => ofEntries [("$__toml_private_datetime", .string text)]
  | .array vs => ofItems vs
  | .tables ts => ofItems (ts.map .table)
  | v => mismatch s!"struct {name}" v
where
  /-- From the entries of a table. -/
  ofEntries (es : Entries) : Except ShapeError α := do
    es.forM fun (k, v) =>
      match checks.lookup k with
      | some check => check v
      | none => .ok ()
    build ⟨es, none⟩
  /-- From the items of a list, in declaration order. -/
  ofItems (vs : List Value) : Except ShapeError α := do
    let es := (checks.map (·.1)).zip vs
    es.forM fun (k, v) =>
      match checks.lookup k with
      | some check => check v
      | none => .ok ()
    let plural := if checks.length = 1 then "element" else "elements"
    build ⟨es, some (checks.map (·.1), s!"struct {name} with {checks.length} {plural}")⟩

end CrudScaffold.Toml
