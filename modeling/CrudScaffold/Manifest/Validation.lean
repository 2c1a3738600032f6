import CrudScaffold.Manifest.Basic
import CrudScaffold.Text.Blank
import CrudScaffold.Text.WordCase

/-!
# Structural checks of a manifest

Checks that need nothing but the declarations themselves. An error makes its model unresolvable; a
warning is only reported.
-/

namespace CrudScaffold.Manifest

open Text

/-- What is wrong with a model declaration. -/
inductive Fault where
  | emptyModelName
  | noIdentifier (model : String)
  | emptyIdentifier (model : String)
  | ambiguousIdentifier (model : String)
  | emptyFieldName (model : String)
  | duplicateField (field : String)
  | reverseNotNamed (model field : String)
  deriving DecidableEq, Repr

/-- The class of a fault. -/
inductive FaultKind where
  | emptyName
  | duplicateField
  | missingIdentifier
  | ambiguousIdentifier
  | invalidRelation
  deriving DecidableEq, Repr

/-- The name of a class of faults. -/
def FaultKind.text : FaultKind → String
  | .emptyName => "EmptyName"
  | .duplicateField => "DuplicateField"
  | .missingIdentifier => "MissingIdentifier"
  | .ambiguousIdentifier => "AmbiguousIdentifier"
  | .invalidRelation => "InvalidRelation"

namespace Fault

/-- The class of a fault. -/
def kind : Fault → FaultKind
  | emptyModelName | emptyFieldName _ => .emptyName
  | noIdentifier _ | emptyIdentifier _ => .missingIdentifier
  | ambiguousIdentifier _ => .ambiguousIdentifier
  | duplicateField _ => .duplicateField
  | reverseNotNamed _ _ => .invalidRelation

/-- The wording of a fault. -/
def message : Fault → String
  | emptyModelName => "Model name cannot be empty"
  | noIdentifier model => s!"Model '{model}' declares no identifier"
  | emptyIdentifier model => s!"Model '{model}' identifier has neither type nor composite"
  | ambiguousIdentifier model =>
    s!"Model '{model}' declares both a scalar and a composite identifier"
  | emptyFieldName model => s!"Model '{model}' has a field with an empty name"
  | duplicateField field => s!"Duplicate field name: {field}"
  | reverseNotNamed model field =>
    s!"Bidirectional field '{model}.{field}' must name its reverse field"

/-- Where in the manifest the fault is. -/
def location : Fault → String
  | emptyModelName => "model.name"
  | noIdentifier _ | emptyIdentifier _ | ambiguousIdentifier _ => "model.identifier"
  | emptyFieldName _ => "model.field.name"
  | duplicateField field => s!"model.field.{field}"
  | reverseNotNamed _ field => s!"model.field.{field}.reverse"

end Fault

/-- What is odd about a declaration. -/
inductive Warning where
  | notUpperCamelCase (model : String)
  | reverseNotBidirectional (model field : String)
  | fetchWithoutEntity (model : String)
  | declaredTwice (model : String)
  | undeclaredModel (dto model : String)
  deriving DecidableEq, Repr

/-- The wording of a warning. -/
def Warning.message : Warning → String
  | .notUpperCamelCase model => s!"Model name '{model}' should be UpperCamelCase"
  | .reverseNotBidirectional model field =>
    s!"Field '{model}.{field}' names a reverse field but is not bidirectional"
  | .fetchWithoutEntity model => s!"Model '{model}' declares eager_fetch but is not an entity"
  | .declaredTwice model => s!"Model '{model}' is declared more than once"
  | .undeclaredModel dto model => s!"DTO '{dto}' refers to undeclared model '{model}'"

/-- The findings of a check. -/
structure Findings where
  faults : List Fault := []
  warnings : List Warning := []
  deriving DecidableEq, Repr

namespace Findings

/-- No fault was found. -/
def isValid (f : Findings) : Bool := f.faults.isEmpty

/-- The wordings of all faults in one line. -/
def summary (f : Findings) : String := "; ".intercalate (f.faults.map Fault.message)

end Findings

/-- The name has nothing but blanks. -/
def blankName (name : String) : Bool := isBlank name.toList

namespace Model

/-- Faults of the declared identifier. -/
def identifierFaults (m : Model) : List Fault :=
  match m.identifier with
  | none => [.noIdentifier m.name]
  | some { type := some _, composite := some _, .. } => [.ambiguousIdentifier m.name]
  | some { type := none, composite := none, .. } => [.emptyIdentifier m.name]
  | some _ => []

/-- Faults of a declared field after the fields before it. -/
def fieldFaults (m : Model) (before : List Field) (f : Field) : List Fault :=
  if blankName f.name then [.emptyFieldName m.name]
  else
    (if before.any (fun g => g.name == f.name) then [.duplicateField f.name] else []) ++
    (if f.bidirectional && f.reverse.isNone && f.cardinality.any Cardinality.isToOne then
      [.reverseNotNamed m.name f.name]
    else [])

/-- Warnings on a declared field. -/
def fieldWarnings (m : Model) (f : Field) : List Warning :=
  if !blankName f.name && f.reverse.isSome && !f.bidirectional then
    [.reverseNotBidirectional m.name f.name]
  else []

/-- Faults of the fields, each seen after the ones before it. -/
def fieldsFaults (m : Model) (before : List Field) : List Field → List Fault
  | [] => []
  | f :: rest => m.fieldFaults before f ++ m.fieldsFaults (before ++ [f]) rest

/-- Check one model declaration. -/
def findings (m : Model) : Findings where
  faults :=
    (if blankName m.name then [.emptyModelName] else []) ++ m.identifierFaults ++
      m.fieldsFaults [] m.fields
  warnings :=
    (if !blankName m.name && upperCamelCase m.name != m.name then [.notUpperCamelCase m.name]
      else []) ++
    m.fields.flatMap m.fieldWarnings ++
    (if !m.entity && !m.eagerFetch.isEmpty then [.fetchWithoutEntity m.name] else [])

/-- The name by which a DTO may refer to the model: its path, or its simple name. -/
def isNamed (m : Model) (reference : String) : Bool :=
  m.qualifiedName == reference || m.name == reference

end Model

/-- Warnings on models whose path was already declared before them. -/
def repeatedModels (before : List String) : List Model → List Warning
  | [] => []
  | m :: rest =>
    (if before.contains m.qualifiedName then [.declaredTwice m.qualifiedName] else []) ++
      repeatedModels (before ++ [m.qualifiedName]) rest

end Manifest

/-- Checks across the whole manifest; all findings are warnings. -/
def Manifest.findings (m : Manifest) : Manifest.Findings where
  warnings :=
    Manifest.repeatedModels [] m.models ++
      m.dtos.flatMap fun dto =>
        if m.models.any fun model => model.isNamed dto.model then []
        else [.undeclaredModel dto.name dto.model]

end CrudScaffold
