import CrudScaffold.Proofs.Assembly.Views
import CrudScaffold.Proofs.Model.Resolution

/-!
# Names of members

A DTO shows the identifier beside fields of its model, and a mapping assigns it beside them. The
declared fields keep clear of the identifier, and the columns that follow from traits keep clear of
the declared fields. What no step looks at is a column under the name of the identifier: that is the
one case in which a resolved model has two members of one name.
-/

namespace CrudScaffold

/-- The fields that a mapping assigns: the identifier and all that it copies. -/
def Mapping.assigned (x : Mapping) : List String := x.idField :: x.copies.map FieldCopy.field

/-- The mapping that an operation applies. -/
def Operation.mapping? (o : Operation) : Option Mapping :=
  match o.body with
  | .map mapping => some mapping
  | _ => none

namespace Assembly

variable {a : Assembly} {v : Model.DtoVariant} {direction : MapDirection} {name : String}

/-- The members of a DTO are named as the identifier and the covered fields. -/
theorem names_dtoMembers (v : Model.DtoVariant) :
    (a.dtoMembers v).map FieldMember.name =
      a.model.identifier.field :: (a.coveredFields v).map Model.Field.name := by
  simp only [dtoMembers, identifierMember, List.map_cons, List.map_map, Function.comp_def]

/-- The names of the covered fields are those names of fields that the variant includes. -/
theorem mem_names_coveredFields_iff :
    name ∈ (a.coveredFields v).map Model.Field.name ↔
      name ∈ a.model.fields.map Model.Field.name ∧ v.includes name = true := by
  simp only [coveredFields, List.mem_map, List.mem_filter]
  constructor
  · rintro ⟨f, ⟨hf, hcovered⟩, rfl⟩
    exact ⟨⟨f, hf, rfl⟩, hcovered⟩
  · rintro ⟨⟨f, hf, rfl⟩, hcovered⟩
    exact ⟨f, ⟨hf, hcovered⟩, rfl⟩

/-- A mapping assigns the identifier and the names of covered fields, synthetic ones only in a DTO.
-/
theorem assigned_mapping (v : Model.DtoVariant) (direction : MapDirection) :
    (a.mapping v direction).assigned = a.model.identifier.field ::
      ((a.coveredFields v).filter fun f => direction == .toDto || !f.synthetic).map
        Model.Field.name := by
  simp only [Mapping.assigned, mapping, copies, List.map_map, Function.comp_def]

/-- A mapper maps in each direction once. -/
theorem mappings_mapperSpec (v : Model.DtoVariant) :
    (a.mapperSpec v).operations.filterMap Operation.mapping? =
      [a.mapping v .toDto, a.mapping v .toModel, a.mapping v .ontoModel] := rfl

end Assembly

namespace Resolver

variable {r : Resolver} {m : Manifest.Model} {model : Model}

/-- Beside fields of a resolved model the identifier is ambiguous only if one of them has its name.
-/
theorem nodup_identifier_cons_iff (h : r.resolve m = .ok model) {fields : List Model.Field}
    (hfields : fields.Sublist model.fields) :
    (model.identifier.field :: fields.map Model.Field.name).Nodup ↔
      model.identifier.field ∉ fields.map Model.Field.name := by
  rw [List.nodup_cons, and_iff_left]
  exact (hfields.map Model.Field.name).nodup (nodup_fields_of_resolve h)

/-- In a mapping the identifier is ambiguous only if it fills a DTO that shows a column under the
name of the identifier. -/
theorem nodup_assigned_iff (h : r.resolve m = .ok model) {a : Assembly} (ha : a.model = model)
    (v : Model.DtoVariant) (direction : MapDirection) :
    (a.mapping v direction).assigned.Nodup ↔
      ¬ (direction = .toDto ∧ model.identifier.field ∈ (r.columns m).map Model.Field.name ∧
        v.includes model.identifier.field = true) := by
  subst ha
  have hcarried : ((a.coveredFields v).filter fun f => direction == .toDto || !f.synthetic).Sublist
      a.model.fields := List.filter_sublist.trans List.filter_sublist
  rw [Assembly.assigned_mapping, nodup_identifier_cons_iff h hcarried, not_iff_not]
  by_cases hdirection : direction = .toDto
  · simp only [hdirection, beq_self_eq_true, Bool.true_or, List.filter_true, true_and,
      Assembly.mem_names_coveredFields_iff, identifier_mem_fields_iff h]
  · -- a mapping that fills a model leaves columns out, and nothing else has the name
    refine iff_of_false (fun hmem => ?_) fun h => hdirection h.1
    obtain ⟨f, hf, hname⟩ := List.mem_map.mp hmem
    have hsynthetic : f.synthetic = false := by
      simpa [hdirection] using (List.mem_filter.mp hf).2
    exact name_ne_identifier_of_not_synthetic h (hcarried.subset hf) hsynthetic hname

/-- The members of a resolved model have distinct names exactly if no column that follows from its
traits has the name of its identifier. Where one has, a DTO and the mapping that fills it are
ambiguous if the variant includes that name, and only then; the other mappings leave columns out,
and a predicate factory has no member for the identifier. -/
theorem member_names_distinct_iff (h : r.resolve m = .ok model) (graph : ModelGraph)
    (naming : Naming) :
    let a : Assembly := ⟨model, graph, naming⟩
    let identifier := model.identifier.field
    let columns := (r.columns m).map Model.Field.name
    ((identifier :: model.fields.map Model.Field.name).Nodup ↔ identifier ∉ columns) ∧
    (∀ v ∈ model.variants,
      (((a.dtoSpec v).fields.map FieldMember.name).Nodup ↔
        ¬ (identifier ∈ columns ∧ v.includes identifier = true)) ∧
      ∀ x ∈ (a.mapperSpec v).operations.filterMap Operation.mapping?,
        (x.assigned.Nodup ↔
          ¬ (x.direction = .toDto ∧ identifier ∈ columns ∧ v.includes identifier = true))) ∧
    (a.predicatesSpec.operations.map Operation.name).Nodup := by
  intro a identifier columns
  refine ⟨?_, fun v _ => ⟨?_, fun x hx => ?_⟩, ?_⟩
  · rw [nodup_identifier_cons_iff h (List.Sublist.refl _), identifier_mem_fields_iff h]
  · rw [Assembly.fields_dtoSpec, Assembly.names_dtoMembers]
    have hcovered : identifier ∈ (a.coveredFields v).map Model.Field.name ↔
        identifier ∈ columns ∧ v.includes identifier = true :=
      Assembly.mem_names_coveredFields_iff.trans (and_congr_left' (identifier_mem_fields_iff h))
    exact (nodup_identifier_cons_iff h List.filter_sublist).trans (not_congr hcovered)
  · rw [Assembly.mappings_mapperSpec] at hx
    simp only [List.mem_cons, List.not_mem_nil, or_false] at hx
    rcases hx with rfl | rfl | rfl <;> exact nodup_assigned_iff h rfl v _
  · rw [Assembly.operations_predicatesSpec, List.map_map]
    exact nodup_fields_of_resolve h

/-! ### An audited model -/

private def plainResolver : Resolver where
  index := {}
  naming := {}
  dtos := []
  runtimeCrate := "scrud_runtime"

private def auditedInvoice (identifier : String) : Manifest.Model where
  name := "Invoice"
  space := "shop::model"
  audited := true
  identifier := some { field := identifier, type := some "Timestamp" }

/-- An identifier beside the audit columns is not ambiguous. -/
theorem invoice_number_is_unambiguous :
    ∃ model, plainResolver.resolve (auditedInvoice "number") = .ok model ∧
      model.fields.map Model.Field.name =
        ["created_date", "last_modified_date", "created_by", "last_modified_by"] ∧
      (model.identifier.field :: model.fields.map Model.Field.name).Nodup ∧
      ∀ v ∈ model.variants, ∀ graph naming,
        (((⟨model, graph, naming⟩ : Assembly).dtoSpec v).fields.map FieldMember.name).Nodup := by
  obtain ⟨model, hresolve⟩ :
      ∃ model, plainResolver.resolve (auditedInvoice "number") = .ok model := ⟨_, rfl⟩
  have hnames : model.fields.map Model.Field.name =
      ["created_date", "last_modified_date", "created_by", "last_modified_by"] := by
    cases hresolve
    rfl
  have hcolumns : model.identifier.field ∉
      (plainResolver.columns (auditedInvoice "number")).map Model.Field.name := by
    cases hresolve
    decide
  refine ⟨model, hresolve, hnames, ?_, fun v hv graph naming => ?_⟩
  · exact (member_names_distinct_iff hresolve {} {}).1.mpr hcolumns
  · exact (((member_names_distinct_iff hresolve graph naming).2.1 v hv).1).mpr fun h =>
      hcolumns h.1

/-- An identifier under the name of an audit column stands beside that column, in the model, in its
DTO and in the mapping that fills the DTO. -/
theorem created_date_is_assigned_twice :
    ∃ model, plainResolver.resolve (auditedInvoice "created_date") = .ok model ∧
      ¬ (model.identifier.field :: model.fields.map Model.Field.name).Nodup ∧
      ∃ v ∈ model.variants,
        let a : Assembly := ⟨model, {}, {}⟩
        ¬ ((a.dtoSpec v).fields.map FieldMember.name).Nodup ∧
          ∃ x ∈ (a.mapperSpec v).operations.filterMap Operation.mapping?, ¬ x.assigned.Nodup := by
  refine ⟨_, rfl, by decide, _, List.mem_singleton_self _, by decide, _, List.mem_cons_self, ?_⟩
  decide

end Resolver

end CrudScaffold
