import CrudScaffold.Proofs.Assembly.Members
import CrudScaffold.Proofs.Assembly.References

/-!
# DTOs and mappers agree

A DTO and its mapper are assembled apart from each other. Both have one row for each covered field,
in the order of the fields of the model: the DTO has a member in it, the mapper a copy that fills this
member. What must fit is the type of the one and the conversion of the other.
-/

namespace CrudScaffold

/-- The type of the values of a field that does not lead to other models. -/
def Model.Field.valueType (f : Model.Field) : TypeRef :=
  let value := match f.relation, f.target with
    | .embedded, some target => TypeRef.named target
    | _, _ => .declared f.declaredType
  if f.optional then .optional value else value

namespace Assembly

/-- A field leads to a related model of the graph that gets DTOs, and these are the names of the DTO
and the mapper that are built for its own primary variant. -/
structure Primary (a : Assembly) (f : Model.Field) (dto mapper : QualifiedName)
    (related : Model) (v : Model.DtoVariant) : Prop where
  found : f.target.bind a.graph.get? = some related
  bean : related.traits.scrudBean = true
  variant : related.primaryVariant? = some v
  dto : ((⟨related, a.graph, a.naming⟩ : Assembly).dtoSpec v).name = dto
  mapper : ((⟨related, a.graph, a.naming⟩ : Assembly).mapperSpec v).name = mapper

/-- A conversion of a field fits a member of this type. -/
inductive Converts (a : Assembly) (f : Model.Field) : Conversion → TypeRef → Prop where
  | direct (h : f.relation = .scalar ∨ f.relation = .embedded) : a.Converts f .direct f.valueType
  | embed {dto mapper : QualifiedName} {related : Model} {v : Model.DtoVariant}
    (h : f.relation = .toOne) (hrelated : a.Primary f dto mapper related v) :
    a.Converts f (.embed mapper) (.optional (.named dto))
  | embedList {dto mapper : QualifiedName} {related : Model} {v : Model.DtoVariant}
    (h : f.relation = .toMany) (hrelated : a.Primary f dto mapper related v) :
    a.Converts f (.embedList mapper) (.list (.named dto))
  | reference (h : f.relation = .toOne) : a.Converts f .reference (.optional .text)
  | referenceList (h : f.relation = .toMany) : a.Converts f .referenceList (.list .text)

/-- One row of a DTO and its mapper. -/
structure Transfer where
  field : Model.Field
  member : FieldMember
  copy : FieldCopy

/-- The row of a field. -/
def transfer (a : Assembly) (f : Model.Field) : Transfer where
  field := f
  member := ⟨f.name, a.memberType f, some f.name⟩
  copy := ⟨f.name, a.conversion f⟩

variable {a : Assembly} {f : Model.Field} {v : Model.DtoVariant} {dto mapper : QualifiedName}

/-! ## Rows -/

/-- A DTO has a member for the identifier and one for each covered field. -/
theorem members_dtoSpec (v : Model.DtoVariant) :
    (a.dtoSpec v).members =
      .field a.identifierMember ::
        ((a.coveredFields v).map a.transfer).map fun t => .field t.member := by
  simp only [dtoSpec, dtoMembers, transfer, List.map_cons, List.map_map, Function.comp_def]

/-- A mapping to a DTO copies every row. -/
theorem copies_toDto (v : Model.DtoVariant) :
    a.copies v .toDto = ((a.coveredFields v).map a.transfer).map Transfer.copy := by
  simp only [copies, beq_self_eq_true, Bool.true_or, List.filter_true, transfer, List.map_map,
    Function.comp_def]

/-- A mapping to a model leaves out the rows of synthetic fields. -/
theorem copies_of_ne_toDto {direction : MapDirection} (h : direction ≠ .toDto)
    (v : Model.DtoVariant) :
    a.copies v direction =
      (((a.coveredFields v).map a.transfer).filter fun t => !t.field.synthetic).map
        Transfer.copy := by
  have hdirection : (direction == MapDirection.toDto) = false := beq_false_of_ne h
  simp only [copies, hdirection, Bool.false_or, transfer, List.filter_map, List.map_map,
    Function.comp_def]

/-! ## Types and conversions -/

/-- What is embedded is named after the primary variant of the related model. -/
theorem exists_primary_of_relatedShape (h : a.relatedShape f = .embedded dto mapper) :
    ∃ related v, a.Primary f dto mapper related v := by
  obtain ⟨target, htarget, hshown⟩ := exists_shownAs?_of_relatedShape h
  obtain ⟨related, v, hget, hbean, hprimary, rfl, rfl⟩ := exists_related_of_shownAs? hshown
  refine ⟨related, v, ?_, hbean, hprimary, rfl, rfl⟩
  rw [htarget, Option.bind_some, hget]

/-- A value is carried over as it is. -/
theorem converts_value (h : f.relation.isRelation = false) :
    a.Converts f (a.conversion f) (a.memberType f) := by
  cases hrelation : f.relation with
  | scalar =>
    have hconversion : a.conversion f = .direct := by simp only [conversion, hrelation]
    have htype : a.memberType f = f.valueType := by
      simp only [memberType, Model.Field.valueType, hrelation, TypeRef.toOptional]
    rw [hconversion, htype]
    exact .direct (.inl hrelation)
  | embedded =>
    have hconversion : a.conversion f = .direct := by simp only [conversion, hrelation]
    have htype : a.memberType f = f.valueType := by
      cases htarget : f.target <;>
        simp only [memberType, Model.Field.valueType, hrelation, htarget, TypeRef.toOptional]
    rw [hconversion, htype]
    exact .direct (.inr hrelation)
  | toOne => simp [hrelation, RelationKind.isRelation] at h
  | toMany => simp [hrelation, RelationKind.isRelation] at h

/-- Every conversion fits the member that it fills. -/
theorem converts (a : Assembly) (f : Model.Field) :
    a.Converts f (a.conversion f) (a.memberType f) := by
  by_cases hvalue : f.relation.isRelation = false
  · exact converts_value hvalue
  · have hrelation : f.relation.isRelation = true := by simpa using hvalue
    rw [a.memberType_eq_shown hrelation]
    -- The DTO and the mapper ask for the same shape, each on its own.
    cases hshape : a.relatedShape f with
    | reference =>
      cases hkind : f.relation with
      | toOne =>
        simp only [conversion, Model.Field.shown, hkind, hshape, RelatedShape.type,
          TypeRef.toOptional]
        exact .reference hkind
      | toMany =>
        simp only [conversion, Model.Field.shown, hkind, hshape, RelatedShape.type]
        exact .referenceList hkind
      | scalar => simp [hkind, RelationKind.isRelation] at hrelation
      | embedded => simp [hkind, RelationKind.isRelation] at hrelation
    | embedded dto mapper =>
      obtain ⟨related, v, hprimary⟩ := exists_primary_of_relatedShape hshape
      cases hkind : f.relation with
      | toOne =>
        simp only [conversion, Model.Field.shown, hkind, hshape, RelatedShape.type,
          TypeRef.toOptional]
        exact .embed hkind hprimary
      | toMany =>
        simp only [conversion, Model.Field.shown, hkind, hshape, RelatedShape.type]
        exact .embedList hkind hprimary
      | scalar => simp [hkind, RelationKind.isRelation] at hrelation
      | embedded => simp [hkind, RelationKind.isRelation] at hrelation

/-- The DTO and the mapper of a variant have one list of rows in common. The DTO shows the identifier
and then the member of every row. The mapper fills every member from the model, and fills the model
from the members of all fields that are not synthetic, in the order of the members. In every row
member and copy belong to the same field, and the conversion fits the type of the member. -/
theorem dto_and_mapper_agree (a : Assembly) (v : Model.DtoVariant) :
    ∃ (rows : List Transfer) (toDto toModel ontoModel : Mapping),
      rows.map Transfer.field = a.model.fields.filter (fun f => v.includes f.name) ∧
      (a.dtoSpec v).members =
        .field ⟨a.model.identifier.field, .optional .text, some a.model.identifier.field⟩ ::
          rows.map (fun t => .field t.member) ∧
      (a.mapperSpec v).operations.map (fun o => (o.name, o.mapping?)) =
        [("to_dto", some toDto), ("to_model", some toModel), ("apply_to", some ontoModel)] ∧
      (∀ x ∈ [toDto, toModel, ontoModel],
        x.model = a.model.name ∧ x.dto = (a.dtoSpec v).name ∧
          x.idField = a.model.identifier.field) ∧
      toDto.copies = rows.map Transfer.copy ∧
      toModel.copies = (rows.filter fun t => !t.field.synthetic).map Transfer.copy ∧
      ontoModel.copies = (rows.filter fun t => !t.field.synthetic).map Transfer.copy ∧
      ∀ t ∈ rows,
        t.member.name = t.field.name ∧ t.member.sourceField = some t.field.name ∧
          t.copy.field = t.field.name ∧ a.Converts t.field t.copy.conversion t.member.type := by
  refine ⟨(a.coveredFields v).map a.transfer, a.mapping v .toDto, a.mapping v .toModel,
    a.mapping v .ontoModel, ?_, members_dtoSpec v, rfl, ?_, copies_toDto v,
    copies_of_ne_toDto (by decide) v, copies_of_ne_toDto (by decide) v, ?_⟩
  · simp only [transfer, List.map_map, Function.comp_def, List.map_id', coveredFields]
  · intro x hx
    simp only [List.mem_cons, List.not_mem_nil, or_false] at hx
    rcases hx with rfl | rfl | rfl <;> exact ⟨rfl, rfl, rfl⟩
  · intro t ht
    obtain ⟨f, -, rfl⟩ := List.mem_map.mp ht
    exact ⟨rfl, rfl, rfl, a.converts f⟩

end Assembly

end CrudScaffold
