import CrudScaffold.Error
import CrudScaffold.Manifest.Validation
import CrudScaffold.Model.TypeIndex
import CrudScaffold.Name.Naming

/-!
# Resolving a declared model

A declared model is resolved against the types of the run: its references become qualified names,
its traits add fields, and its DTO variants are collected. A model that is not well declared is
refused with its first fault.
-/

namespace CrudScaffold

/-- Why a declared model cannot be resolved. -/
inductive ResolutionFault where
  /-- The declaration itself is at fault. -/
  | invalid (findings : Manifest.Findings)
  | noIdentifier
  /-- The identifier has neither a type nor components, or both. -/
  | unclearIdentifier
  | arity (fault : UnsupportedArity)
  | unknownEntity (reference : String)
  | noTarget (field type : String)
  | undeclaredVariant (name : String)
  deriving DecidableEq, Repr

/-- The wording of a fault. -/
def ResolutionFault.message : ResolutionFault → String
  | .invalid findings => findings.summary
  | .noIdentifier => "declares no identifier"
  | .unclearIdentifier => "identifier must declare exactly one of type or composite"
  | .arity fault => s!"invalid composite identifier: {fault.message}"
  | .unknownEntity reference => s!"composite identifier entity '{reference}' does not resolve"
  | .noTarget field type =>
    s!"to-one relation '{field}' has no resolvable target type '{type}'"
  | .undeclaredVariant name => s!"DTO variant '{name}' is not declared"

/-- The namespace of a declared model. -/
def Manifest.Model.declaredSpace (m : Manifest.Model) : Namespace := .ofText m.space

/-- The name of a declared model once it is resolved. -/
def Manifest.Model.resolvedName (m : Manifest.Model) : QualifiedName := m.declaredSpace.qualify m.name

/-- The error that a fault of a model raises. Faults of its DTO variants are found when the model has
its resolved name; all others go under the declared path. -/
def GenerationError.unresolvable (m : Manifest.Model) (fault : ResolutionFault) : GenerationError :=
  match fault with
  | .undeclaredVariant _ => .unresolvableModel m.resolvedName.path fault.message
  | _ => .unresolvableModel m.qualifiedName fault.message

/-- What models are resolved against. -/
structure Resolver where
  index : TypeIndex
  naming : Naming
  /-- The declared DTOs. -/
  dtos : List Manifest.Dto
  runtimeCrate : String

namespace Resolver

variable (r : Resolver)

/-- Names of the audit columns that hold a point in time. -/
def auditTimes : List String := ["created_date", "last_modified_date"]

/-- Names of the audit columns that hold a person. -/
def auditPersons : List String := ["created_by", "last_modified_by"]

/-- Name of the soft-delete column. -/
def disabledField : String := "disabled"

/-! ## Identifiers -/

/-- Resolve a component of a composite identifier. -/
def slot (space : Namespace) (s : Manifest.Slot) : Except ResolutionFault Model.Slot :=
  match r.index.resolve s.entity space with
  | some entity => .ok ⟨entity, s.idType⟩
  | none => .error (.unknownEntity s.entity)

/-- Resolve an identifier. -/
def identifier (space : Namespace) (i : Manifest.Identifier) :
    Except ResolutionFault Model.Identifier :=
  match i.type, i.composite with
  | some idType, none => .ok ⟨i.field, .scalar idType⟩
  | none, some slots =>
    match Arity.ofCount slots.length with
    | .error fault => .error (.arity fault)
    | .ok arity => do return ⟨i.field, .composite arity (← slots.mapM (r.slot space))⟩
  | _, _ => .error .unclearIdentifier

/-! ## Fields -/

/-- The type that a field refers to: the declared target, or what its type contains. -/
def reference? (f : Manifest.Field) : Option String :=
  match f.target with
  | some target => some target
  | none => elementTypeName? f.type

/-- The type that a relation or an embedded value leads to, if it resolves. -/
def target? (space : Namespace) (f : Manifest.Field) : Option QualifiedName :=
  if RelationKind.ofCardinality f.cardinality = .scalar then none
  else reference? f >>= fun reference => r.index.resolve reference space

/-- The reverse field, which only bidirectional to-one relations have. -/
def reverse? (f : Manifest.Field) : Option ReverseField :=
  if RelationKind.ofCardinality f.cardinality = .toOne ∧ f.bidirectional then
    f.reverse.map fun name => ⟨name, f.cardinality == some .oneToOne⟩
  else none

/-- Resolve a field. A to-one relation must lead to a type. -/
def field (space : Namespace) (f : Manifest.Field) : Except ResolutionFault Model.Field :=
  let relation := RelationKind.ofCardinality f.cardinality
  let target := r.target? space f
  if relation = .toOne ∧ target = none then .error (.noTarget f.name f.type)
  else
    .ok
      { name := f.name
        declaredType := f.type
        relation
        target
        reverse := reverse? f
        optional := f.optional
        synthetic := false }

/-- An optional column that follows from a trait. -/
def column (name type : String) : Model.Field :=
  { name, declaredType := type, optional := true, synthetic := true }

/-- The columns that the traits of a model call for. -/
def columns (m : Manifest.Model) : List Model.Field :=
  let time := r.runtimeCrate ++ "::Timestamp"
  (if m.audited then
    auditTimes.map (column · time) ++ auditPersons.map (column · "String")
  else []) ++
  if m.disableable then [column disabledField time] else []

/-- Append a column unless a field has its name. -/
def addColumn (fields : List Model.Field) (c : Model.Field) : List Model.Field :=
  if fields.any fun f => f.name == c.name then fields else fields ++ [c]

/-! ## DTO variants -/

/-- The declared DTOs that refer to a model by its path or by its simple name. -/
def dtosOf (m : Manifest.Model) : List Manifest.Dto :=
  r.dtos.filter fun dto => dto.model == m.resolvedName.path || dto.model == m.name

/-- The variant of a declared DTO. -/
def variantOf (dto : Manifest.Dto) : Model.DtoVariant :=
  { name := dto.name, space := dto.space.map Namespace.ofText, fields := dto.fields }

/-- Append a variant unless there is one of its name. -/
def addVariant (variants : List Model.DtoVariant) (v : Model.DtoVariant) : List Model.DtoVariant :=
  if variants.any fun w => w.name == v.name then variants else variants ++ [v]

/-- The variant that a model refers to: a declared DTO, or the default one. -/
def referredVariant (m : Manifest.Model) (declared : List Manifest.Dto) (name : String) :
    Except ResolutionFault Model.DtoVariant :=
  match declared.find? fun dto => dto.name == name with
  | some dto => .ok (variantOf dto)
  | none =>
    if name == r.naming.defaultDtoName m.name then .ok { name }
    else .error (.undeclaredVariant name)

/-- The variants of a model before their fields are checked: the ones it refers to, then all other
declared ones, and the default one for a model that needs one and has none. -/
def collectVariants (m : Manifest.Model) : Except ResolutionFault (List Model.DtoVariant) := do
  let declared := r.dtosOf m
  let referred ← m.dtos.mapM (r.referredVariant m declared)
  let variants := (referred ++ declared.map variantOf).foldl addVariant []
  if variants.isEmpty && m.scrudBean then return [{ name := r.naming.defaultDtoName m.name }]
  else return variants

/-- The model has a field of this name, the identifier included. -/
def hasField (identifier : Model.Identifier) (fields : List Model.Field) (name : String) : Bool :=
  name == identifier.field || fields.any fun f => f.name == name

/-- Drop the names from a variant that the model does not have. -/
def restrict (identifier : Model.Identifier) (fields : List Model.Field) (v : Model.DtoVariant) :
    Model.DtoVariant :=
  { v with fields := v.fields.map fun names => names.filter (hasField identifier fields) }

/-! ## Models -/

/-- Resolve the identifier of a well-declared model. -/
def declaredIdentifier (m : Manifest.Model) : Except ResolutionFault Model.Identifier :=
  if m.findings.isValid then
    match m.identifier with
    | some i => r.identifier m.declaredSpace i
    | none => .error .noIdentifier
  else .error (.invalid m.findings)

/-- The declared fields besides the identifier. -/
def plainFields (m : Manifest.Model) (identifier : Model.Identifier) : List Manifest.Field :=
  m.fields.filter fun f => f.name != identifier.field

/-- Resolve a declared model. -/
def resolve (m : Manifest.Model) : Except ResolutionFault Model := do
  let identifier ← r.declaredIdentifier m
  let declared ← (plainFields m identifier).mapM (r.field m.declaredSpace)
  let fields := (r.columns m).foldl addColumn declared
  let variants ← r.collectVariants m
  return {
    name := m.resolvedName
    parentSpace := m.declaredSpace.parent
    identifier
    fields
    variants := variants.map (restrict identifier fields)
    generation := m.generate
    traits := ⟨m.entity, m.scrudBean, m.disableable, m.audited⟩
    eagerFetch := m.eagerFetch }

/-! ## Remarks

What is worth telling about a model while it is resolved, up to the point where it is refused. -/

/-- A relation without a target is told, unless it is a fault. -/
def fieldRemarks (m : Manifest.Model) (f : Manifest.Field) : List String :=
  let relation := RelationKind.ofCardinality f.cardinality
  if relation != .scalar && (r.target? m.declaredSpace f).isNone then
    [s!"{m.qualifiedName}.{f.name}: target of {relation.text} field '{f.type}' does not resolve"]
  else []

/-- Fields that a variant names and the model does not have are told. -/
def variantRemarks (m : Manifest.Model) (identifier : Model.Identifier) (fields : List Model.Field)
    (v : Model.DtoVariant) : List String :=
  let unknown := (v.fields.getD []).filter fun f => !hasField identifier fields f
  unknown.map fun f => s!"{m.resolvedName}: DTO variant '{v.name}' skips unknown field '{f}'"

/-- All remarks on a model. -/
def remarks (m : Manifest.Model) : List String :=
  m.findings.warnings.map Manifest.Warning.message ++
    match r.declaredIdentifier m with
    | .error _ => []
    | .ok identifier =>
      let plain := plainFields m identifier
      let resolved := plain.takeWhile fun f => (r.field m.declaredSpace f).isOk
      resolved.flatMap (r.fieldRemarks m) ++
        match plain.mapM (r.field m.declaredSpace), r.collectVariants m with
        | .ok declared, .ok variants =>
          let fields := (r.columns m).foldl addColumn declared
          variants.flatMap (variantRemarks m identifier fields)
        | _, _ => []

end Resolver

end CrudScaffold
