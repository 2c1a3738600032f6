import CrudScaffold.Assembly.Basic

/-!
# DTOs and their mappers

Every DTO variant gets a DTO and a mapper. Both go over the same covered fields in the same order; the
mapper never takes synthetic columns from a DTO, because the persistence layer owns them.
-/

namespace CrudScaffold.Assembly

variable (a : Assembly)

/-- The fields that a variant covers. -/
def coveredFields (v : Model.DtoVariant) : List Model.Field :=
  a.model.fields.filter fun f => v.includes f.name

/-! ## DTOs -/

/-- The type under which a field shows in a DTO. -/
def memberType (f : Model.Field) : TypeRef :=
  match f.relation with
  | .scalar => if f.optional then (TypeRef.declared f.declaredType).toOptional
    else .declared f.declaredType
  | .embedded =>
    let inner := match f.target with
      | some target => TypeRef.named target
      | none => .declared f.declaredType
    if f.optional then inner.toOptional else inner
  | .toOne =>
    match a.relatedShape f with
    | .embedded dto _ => (TypeRef.named dto).toOptional
    | .reference => TypeRef.text.toOptional
  | .toMany =>
    match a.relatedShape f with
    | .embedded dto _ => .list (.named dto)
    | .reference => .list .text

/-- The member that shows the identifier. -/
def identifierMember : FieldMember :=
  let field := a.model.identifier.field
  ⟨field, TypeRef.text.toOptional, some field⟩

/-- The members of the DTO of a variant: the identifier and the covered fields. -/
def dtoMembers (v : Model.DtoVariant) : List FieldMember :=
  a.identifierMember ::
    (a.coveredFields v).map fun f => ⟨f.name, a.memberType f, some f.name⟩

/-- The DTO of a variant. -/
def dtoSpec (v : Model.DtoVariant) : Spec where
  name := Naming.dtoName a.model v
  kind := .dto
  members := (a.dtoMembers v).map .field
  doc := s!"Data transfer object for [`{a.model.name}`]."
  source := a.model

/-- The DTOs of all variants. -/
def dtoSpecs : List Spec := a.model.variants.map a.dtoSpec

/-! ## Mappers -/

/-- How a field is carried between model and DTO. -/
def conversion (f : Model.Field) : Conversion :=
  match f.relation, a.relatedShape f with
  | .toOne, .embedded _ mapper => .embed mapper
  | .toOne, .reference => .reference
  | .toMany, .embedded _ mapper => .embedList mapper
  | .toMany, .reference => .referenceList
  | _, _ => .direct

/-- The fields that a mapping carries over; only a DTO gets the synthetic ones. -/
def copies (v : Model.DtoVariant) (direction : MapDirection) : List FieldCopy :=
  let carried := (a.coveredFields v).filter fun f => direction == .toDto || !f.synthetic
  carried.map fun f => ⟨f.name, a.conversion f⟩

/-- The mapping of a variant in one direction. -/
def mapping (v : Model.DtoVariant) (direction : MapDirection) : Mapping where
  direction
  model := a.model.name
  dto := Naming.dtoName a.model v
  idField := a.model.identifier.field
  idAdapter := a.artifact .idAdapter
  copies := a.copies v direction

/-- The operation that shows a model as a DTO. -/
def toDtoOperation (v : Model.DtoVariant) : Operation where
  name := "to_dto"
  params := [⟨"model", a.modelType, .ref⟩]
  returns := .value (.named (Naming.dtoName a.model v))
  body := .map (a.mapping v .toDto)

/-- The operation that builds a model from a DTO. -/
def toModelOperation (v : Model.DtoVariant) : Operation where
  name := "to_model"
  params := [⟨"dto", .named (Naming.dtoName a.model v), .ref⟩]
  returns := .value a.modelType
  failure := some .malformed
  body := .map (a.mapping v .toModel)

/-- The operation that copies a DTO onto a model. -/
def applyToOperation (v : Model.DtoVariant) : Operation where
  name := "apply_to"
  params := [⟨"dto", .named (Naming.dtoName a.model v), .ref⟩, ⟨"model", a.modelType, .refMut⟩]
  failure := some .malformed
  body := .map (a.mapping v .ontoModel)
  doc := some "Copy the DTO's fields onto an existing model."

/-- The mapper of a variant. -/
def mapperSpec (v : Model.DtoVariant) : Spec where
  name := a.naming.mapperName a.model v
  kind := .mapper
  members :=
    [.dependency ⟨.idAdapter, .named (a.artifact .idAdapter)⟩,
     .operation (a.toDtoOperation v), .operation (a.toModelOperation v),
     .operation (a.applyToOperation v)]
  doc := s!"Converts between [`{a.model.name}`] and [`{Naming.dtoName a.model v}`]."
  source := a.model

/-- The mappers of all variants. -/
def mapperSpecs : List Spec := a.model.variants.map a.mapperSpec

end CrudScaffold.Assembly
