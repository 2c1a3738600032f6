import CrudScaffold.Proofs.Assembly.Members
import CrudScaffold.Proofs.Model.WellFormed

/-!
# Columns of the persistence layer

The audit columns and the soft-delete column are shown in a DTO and not taken from one. A mapper tells
them by the mark of the fields that were added for a trait. A column that is declared is not added, has
no mark, and is taken from a DTO as any other field is.
-/

namespace CrudScaffold

/-- The names of the columns that the persistence layer owns in a model of these traits. -/
def Model.Traits.ownedColumns (t : Model.Traits) : List String :=
  (if t.audited then Resolver.auditTimes ++ Resolver.auditPersons else []) ++
    if t.disableable then [Resolver.disabledField] else []

/-- The names of the fields that a mapping copies. -/
def Mapping.copied (x : Mapping) : List String := x.copies.map FieldCopy.field

/-- A mapping copies covered fields, and marked ones only to a DTO. -/
theorem Assembly.mem_copied_mapping_iff {a : Assembly} {v : Model.DtoVariant}
    {direction : MapDirection} {name : String} :
    name ∈ (a.mapping v direction).copied ↔
      ∃ f ∈ a.model.fields, f.name = name ∧ v.includes name = true ∧
        (direction = .toDto ∨ f.synthetic = false) := by
  simp only [Mapping.copied, mapping, copies, coveredFields, List.map_map, List.mem_map,
    List.mem_filter, Bool.or_eq_true, beq_iff_eq, Bool.not_eq_true', Function.comp_apply]
  constructor
  · rintro ⟨f, ⟨⟨hf, hcovered⟩, hmark⟩, rfl⟩
    exact ⟨f, hf, rfl, hcovered, hmark⟩
  · rintro ⟨f, hf, rfl, hcovered, hmark⟩
    exact ⟨f, ⟨⟨hf, hcovered⟩, hmark⟩, rfl⟩

namespace Resolver

variable {r : Resolver} {m : Manifest.Model} {model : Model} {name : String}

/-- The traits call for the columns that the persistence layer owns. -/
theorem ownedColumns_of_resolve (h : r.resolve m = .ok model) :
    model.traits.ownedColumns = (r.columns m).map Model.Field.name := by
  obtain ⟨_, _, _, -, -, -, -, -, -, -, htraits⟩ := exists_of_resolve h
  rw [names_columns, htraits, Model.Traits.ownedColumns]

/-- A model has every column that the persistence layer owns in it, be it declared or added. -/
theorem exists_field_of_ownedColumn (h : r.resolve m = .ok model)
    (hname : name ∈ model.traits.ownedColumns) : ∃ f ∈ model.fields, f.name = name := by
  obtain ⟨_, _, _, -, -, -, -, -, hfields, -⟩ := exists_of_resolve h
  rw [← List.mem_map, hfields, addColumn_eq, mem_keys_foldl_appendNew_iff,
    ← ownedColumns_of_resolve h]
  exact .inr hname

/-- The fields without a mark are those that are declared beside the identifier. -/
theorem exists_unmarked_iff (h : r.resolve m = .ok model) :
    (∃ f ∈ model.fields, f.name = name ∧ f.synthetic = false) ↔
      ∃ f ∈ m.fields, f.name = name ∧ name ≠ model.identifier.field := by
  constructor
  · rintro ⟨f, hf, rfl, hmark⟩
    rcases mem_fields_of_resolve h hf with ⟨declared, hplain, hfield⟩ | hcolumn
    · refine ⟨declared, List.mem_of_mem_filter hplain, (name_of_field hfield).symm, ?_⟩
      exact name_ne_of_mem_plainFields hplain hfield
    · rw [(column_of_mem_columns hcolumn).1] at hmark
      cases hmark
  · rintro ⟨declared, hdeclared, rfl, hne⟩
    obtain ⟨resolved, hfields, hfollow⟩ := exists_fields_of_resolve h
    have hplain : declared ∈ plainFields m model.identifier :=
      List.mem_filter.mpr ⟨hdeclared, bne_iff_ne.mpr hne⟩
    obtain ⟨i, hi⟩ := List.mem_iff_get.mp hplain
    have hlength : i < resolved.length := hfollow.length_eq ▸ i.isLt
    have hfollows : FollowsFrom declared (resolved.get ⟨i, hlength⟩) := hi ▸ hfollow.get i.isLt hlength
    refine ⟨resolved.get ⟨i, hlength⟩, ?_, hfollows.name, hfollows.synthetic⟩
    rw [hfields]
    exact List.mem_append_left _ (List.get_mem _ _)

section Copied

variable {a : Assembly} {v : Model.DtoVariant}

/-- A column that the persistence layer owns is shown in the DTO of a variant that includes it. -/
theorem mem_copied_toDto_iff (h : r.resolve m = .ok a.model) (hname : name ∈ a.model.traits.ownedColumns) :
    name ∈ (a.mapping v .toDto).copied ↔ v.includes name = true := by
  rw [Assembly.mem_copied_mapping_iff]
  constructor
  · rintro ⟨_, -, -, hcovered, -⟩
    exact hcovered
  · intro hcovered
    obtain ⟨f, hf, hfield⟩ := exists_field_of_ownedColumn h hname
    exact ⟨f, hf, hfield, hcovered, .inl rfl⟩

/-- What is taken from a DTO are the included fields that are declared beside the identifier. -/
theorem mem_copied_iff_of_ne_toDto (h : r.resolve m = .ok a.model) {direction : MapDirection}
    (hdirection : direction ≠ .toDto) :
    name ∈ (a.mapping v direction).copied ↔ v.includes name = true ∧
      ∃ f ∈ m.fields, f.name = name ∧ name ≠ a.model.identifier.field := by
  rw [Assembly.mem_copied_mapping_iff, ← exists_unmarked_iff h]
  simp only [hdirection, false_or]
  constructor
  · rintro ⟨f, hf, hfield, hcovered, hmark⟩
    exact ⟨hcovered, f, hf, hfield, hmark⟩
  · rintro ⟨hcovered, f, hf, hfield, hmark⟩
    exact ⟨f, hf, hfield, hcovered, hmark⟩

/-- No column of a list is taken from a DTO exactly if none of them is declared and included. -/
theorem never_taken_iff (h : r.resolve m = .ok a.model) {direction : MapDirection}
    (hdirection : direction ≠ .toDto) (columns : List String) :
    (∀ c ∈ (a.mapping v direction).copies, c.field ∉ columns) ↔
      ∀ f ∈ m.fields, f.name ∈ columns → f.name ≠ a.model.identifier.field →
        v.includes f.name = false := by
  have hnames : (∀ c ∈ (a.mapping v direction).copies, c.field ∉ columns) ↔
      ∀ name ∈ (a.mapping v direction).copied, name ∉ columns := by
    simp only [Mapping.copied, List.forall_mem_map]
  simp only [hnames, mem_copied_iff_of_ne_toDto h hdirection]
  constructor
  · intro hnever f hf hcolumn hne
    rw [← Bool.not_eq_true]
    intro hcovered
    exact hnever f.name ⟨hcovered, f, hf, rfl, hne⟩ hcolumn
  · rintro hdeclared name ⟨hcovered, f, hf, rfl, hne⟩ hcolumn
    rw [hdeclared f hf hcolumn hne] at hcovered
    cases hcovered

end Copied

/-- A column that the persistence layer owns is shown in every DTO whose variant includes it. It is not
taken from the DTO, in either direction, unless the manifest declares it beside the identifier: a mapper
never takes such columns exactly if its variant includes none that is declared. -/
theorem columns_never_taken_iff (h : r.resolve m = .ok model) (graph : ModelGraph) (naming : Naming)
    (v : Model.DtoVariant) :
    let a : Assembly := ⟨model, graph, naming⟩
    let owned := model.traits.ownedColumns
    ∃ toDto toModel ontoModel : Mapping,
      (a.mapperSpec v).operations.map (fun o => (o.name, o.mapping?)) =
        [("to_dto", some toDto), ("to_model", some toModel), ("apply_to", some ontoModel)] ∧
      (∀ name ∈ owned, name ∈ toDto.copied ↔ v.includes name = true) ∧
      ∀ x ∈ [toModel, ontoModel],
        (∀ name ∈ owned, name ∈ x.copied ↔ v.includes name = true ∧
          ∃ f ∈ m.fields, f.name = name ∧ name ≠ model.identifier.field) ∧
        ((∀ c ∈ x.copies, c.field ∉ owned) ↔
          ∀ f ∈ m.fields, f.name ∈ owned → f.name ≠ model.identifier.field →
            v.includes f.name = false) := by
  intro a owned
  have hmodel : r.resolve m = .ok a.model := h
  refine ⟨a.mapping v .toDto, a.mapping v .toModel, a.mapping v .ontoModel, rfl,
    fun name hname => mem_copied_toDto_iff hmodel hname, ?_⟩
  intro x hx
  obtain ⟨direction, hne, rfl⟩ : ∃ direction, direction ≠ .toDto ∧ a.mapping v direction = x := by
    simp only [List.mem_cons, List.not_mem_nil, or_false] at hx
    rcases hx with rfl | rfl
    · exact ⟨.toModel, by decide, rfl⟩
    · exact ⟨.ontoModel, by decide, rfl⟩
  exact ⟨fun _ _ => mem_copied_iff_of_ne_toDto hmodel hne, never_taken_iff hmodel hne owned⟩

/-! ### Shipments and their labels -/

private def labelResolver : Resolver where
  index := {}
  naming := {}
  dtos := [{ name := "Label", model := "Shipment", fields := some ["note", "created_date", "disabled"] }]
  runtimeCrate := "scrud_runtime"

-- An audited model that declares one of its audit columns, and a field under the name of the
-- soft-delete column, which it does not have.
private def shipment (name : String) : Manifest.Model where
  name := name
  space := "shop::model"
  audited := true
  identifier := some { type := some "u64" }
  fields :=
    [{ name := "note", type := "String" }, { name := "created_by", type := "u64" },
     { name := "disabled", type := "bool" }]

/-- A label shows the audit column that it includes. Its mapper takes none of them from it, and takes
the field that only has the name of a column. -/
theorem label_takes_no_column :
    ∃ model, labelResolver.resolve (shipment "Shipment") = .ok model ∧
      ∃ v ∈ model.variants, v.name = "Label" ∧ ∃ toDto toModel ontoModel : Mapping,
        (Assembly.mapperSpec ⟨model, {}, {}⟩ v).operations.map (fun o => (o.name, o.mapping?)) =
          [("to_dto", some toDto), ("to_model", some toModel), ("apply_to", some ontoModel)] ∧
        "created_date" ∈ toDto.copied ∧ "disabled" ∈ toModel.copied ∧
        ∀ x ∈ [toModel, ontoModel], ∀ c ∈ x.copies, c.field ∉ model.traits.ownedColumns := by
  obtain ⟨model, hresolve⟩ : ∃ model, labelResolver.resolve (shipment "Shipment") = .ok model :=
    ⟨_, rfl⟩
  obtain ⟨v, hv⟩ : ∃ v, model.variants = [v] := by
    cases hresolve
    exact ⟨_, rfl⟩
  have hincludes : v.includes "created_date" = true ∧ v.includes "created_by" = false := by
    cases hresolve
    cases hv
    decide
  have howned : model.traits.ownedColumns =
      ["created_date", "last_modified_date", "created_by", "last_modified_by"] := by
    cases hresolve
    rfl
  obtain ⟨toDto, toModel, ontoModel, hops, hshown, htaken⟩ :=
    columns_never_taken_iff hresolve {} {} v
  refine ⟨model, hresolve, v, hv ▸ List.mem_singleton_self v, ?_, toDto, toModel, ontoModel, hops,
    (hshown "created_date" (by rw [howned]; decide)).mpr hincludes.1, ?_, ?_⟩
  · cases hresolve
    cases hv
    rfl
  · cases hresolve
    cases hv
    cases hops
    decide
  · intro x hx
    refine (htaken x hx).2.mpr fun f hf hname _ => ?_
    rw [howned] at hname
    simp only [shipment, List.mem_cons, List.not_mem_nil, or_false] at hf
    rcases hf with rfl | rfl | rfl
    · exact absurd hname (by decide)
    · exact hincludes.2
    · exact absurd hname (by decide)

/-- Under another name the same model has no label. Its DTO covers the declared audit column, and its mapper
takes that column from it in both directions. -/
theorem author_of_shipment_is_taken :
    ∃ model, labelResolver.resolve (shipment "Parcel") = .ok model ∧
      model.traits.audited = true ∧
      ∃ v ∈ model.variants, ∃ toDto toModel ontoModel : Mapping,
        (Assembly.mapperSpec ⟨model, {}, {}⟩ v).operations.map (fun o => (o.name, o.mapping?)) =
          [("to_dto", some toDto), ("to_model", some toModel), ("apply_to", some ontoModel)] ∧
        ∀ x ∈ [toModel, ontoModel], ∃ c ∈ x.copies, c.field = "created_by" :=
  ⟨_, rfl, rfl, _, List.mem_singleton_self _, _, _, _, rfl, by decide⟩

end Resolver

end CrudScaffold
