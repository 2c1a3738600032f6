import CrudScaffold.Model.Resolution
import CrudScaffold.Proofs.Except
import CrudScaffold.Proofs.Keys
import CrudScaffold.Proofs.Manifest.Validation

/-!
# Resolved models

What holds of every model that a declaration was resolved to. Its fields have distinct names: those of
the declaration do by its check, and a column is added only under a new name. A model that gets all
artifacts has at least one DTO variant.
-/

namespace CrudScaffold

namespace Resolver

variable {r : Resolver} {m : Manifest.Model} {model : Model}

/-! ## Components -/

/-- A component leads to what its entity is resolved to, and keeps its type. -/
theorem slot_eq_ok_iff {space : Namespace} {s : Manifest.Slot} {resolved : Model.Slot} :
    r.slot space s = .ok resolved ↔
      r.index.resolve s.entity space = some resolved.entity ∧ resolved.idType = s.idType := by
  obtain ⟨entity, idType⟩ := resolved
  unfold slot
  cases r.index.resolve s.entity space with
  | none => simp
  | some found => simp [eq_comm]

/-! ## Fields -/

/-- A relation or an embedded value leads to what its target, or else its element type, is resolved
to. -/
theorem target?_eq_some_iff {space : Namespace} {f : Manifest.Field} {target : QualifiedName} :
    r.target? space f = some target ↔
      RelationKind.ofCardinality f.cardinality ≠ .scalar ∧
        ∃ reference, f.target.or (elementTypeName? f.type) = some reference ∧
          r.index.resolve reference space = some target := by
  have hreference : reference? f = f.target.or (elementTypeName? f.type) := by
    unfold reference?
    cases f.target <;> rfl
  unfold target?
  rw [hreference]
  by_cases hscalar : RelationKind.ofCardinality f.cardinality = .scalar
  · simp [hscalar]
  · simp [hscalar, Option.bind_eq_some_iff]

/-- A field keeps its name, and leads to its target. -/
theorem of_field {space : Namespace} {f : Manifest.Field} {resolved : Model.Field}
    (h : r.field space f = .ok resolved) :
    resolved.name = f.name ∧ resolved.target = r.target? space f := by
  unfold field at h
  simp only at h
  split at h
  · cases h
  · cases h
    exact ⟨rfl, rfl⟩

/-- A field keeps its name. -/
theorem name_of_field {space : Namespace} {f : Manifest.Field} {resolved : Model.Field}
    (h : r.field space f = .ok resolved) : resolved.name = f.name := (of_field h).1

/-- A column is added only under a new name. -/
theorem addColumn_eq : addColumn = appendNew Model.Field.name := rfl

/-- A column is marked as one that was not declared, and holds a plain value. -/
theorem column_of_mem_columns {f : Model.Field} (h : f ∈ r.columns m) :
    f.synthetic = true ∧ f.relation = .scalar := by
  simp only [columns, List.mem_append, List.mem_ite_nil_right, List.mem_map,
    List.mem_singleton] at h
  rcases h with ⟨-, ⟨name, -, rfl⟩ | ⟨name, -, rfl⟩⟩ | ⟨-, rfl⟩ <;> exact ⟨rfl, rfl⟩

/-! ## Models -/

/-- Whatever a declaration is resolved to is put together from its resolved parts. -/
theorem exists_of_resolve (h : r.resolve m = .ok model) :
    ∃ identifier declared variants, r.declaredIdentifier m = .ok identifier ∧
      (plainFields m identifier).mapM (r.field m.declaredSpace) = .ok declared ∧
      r.collectVariants m = .ok variants ∧
      model.name = m.resolvedName ∧ model.identifier = identifier ∧
      model.fields = (r.columns m).foldl addColumn declared ∧
      model.variants = variants.map (restrict identifier model.fields) ∧
      model.traits = ⟨m.entity, m.scrudBean, m.disableable, m.audited⟩ := by
  obtain ⟨identifier, hidentifier, h⟩ := bind_eq_ok_iff.mp h
  obtain ⟨declared, hdeclared, h⟩ := bind_eq_ok_iff.mp h
  obtain ⟨variants, hvariants, h⟩ := bind_eq_ok_iff.mp h
  cases h
  exact ⟨identifier, declared, variants, hidentifier, hdeclared, hvariants, rfl, rfl, rfl, rfl, rfl⟩

/-- The siblings of a model live one level above its declared namespace. -/
theorem parentSpace_of_resolve (h : r.resolve m = .ok model) :
    model.parentSpace = m.declaredSpace.parent := by
  obtain ⟨_, -, h⟩ := bind_eq_ok_iff.mp h
  obtain ⟨_, -, h⟩ := bind_eq_ok_iff.mp h
  obtain ⟨_, -, h⟩ := bind_eq_ok_iff.mp h
  cases h
  dsimp only

/-- Only the identifier of a valid declaration is resolved. -/
theorem declaredIdentifier_eq_ok_iff {identifier : Model.Identifier} :
    r.declaredIdentifier m = .ok identifier ↔ m.findings.isValid = true ∧
      ∃ i, m.identifier = some i ∧ r.identifier m.declaredSpace i = .ok identifier := by
  unfold declaredIdentifier
  cases m.findings.isValid with
  | false => exact ⟨nofun, nofun⟩
  | true =>
    rw [if_pos rfl, and_iff_right rfl]
    cases m.identifier with
    | none => exact ⟨nofun, nofun⟩
    | some i => simp only [Option.some.injEq, exists_eq_left']

/-- The fields of a resolved model have distinct names. -/
theorem nodup_fields_of_resolve (h : r.resolve m = .ok model) :
    (model.fields.map Model.Field.name).Nodup := by
  obtain ⟨identifier, declared, _, hidentifier, hdeclared, -, -, -, hfields, -⟩ :=
    exists_of_resolve h
  have hnames : declared.map Model.Field.name = (plainFields m identifier).map Manifest.Field.name :=
    map_eq_of_mapM_eq_ok (fun _ _ => name_of_field) hdeclared
  obtain ⟨hvalid, -⟩ := declaredIdentifier_eq_ok_iff.mp hidentifier
  have hplain := (Manifest.Model.isValid_iff.mp hvalid).fields_distinct
  rw [hfields, addColumn_eq]
  refine nodup_foldl_appendNew _ ?_
  rw [hnames]
  exact (List.filter_sublist.map Manifest.Field.name).nodup hplain

/-- A field of a resolved model was declared beside the identifier, or is a column. -/
theorem mem_fields_of_resolve (h : r.resolve m = .ok model) {f : Model.Field}
    (hf : f ∈ model.fields) :
    (∃ declared ∈ plainFields m model.identifier, r.field m.declaredSpace declared = .ok f) ∨
      f ∈ r.columns m := by
  obtain ⟨_, declared, _, -, hdeclared, -, -, rfl, hfields, -⟩ := exists_of_resolve h
  rw [hfields, addColumn_eq] at hf
  exact (mem_of_mem_foldl_appendNew _ hf).imp_left (exists_of_mem_mapM hdeclared)

/-- A field that was declared beside the identifier has another name. -/
theorem name_ne_of_mem_plainFields {identifier : Model.Identifier} {declared : Manifest.Field}
    (hplain : declared ∈ plainFields m identifier) {space : Namespace} {f : Model.Field}
    (hfield : r.field space declared = .ok f) : f.name ≠ identifier.field := by
  rw [name_of_field hfield]
  exact bne_iff_ne.mp (List.mem_filter.mp hplain).2

/-- No declared field of a resolved model has the name of the identifier. -/
theorem name_ne_identifier_of_not_synthetic (h : r.resolve m = .ok model) {f : Model.Field}
    (hf : f ∈ model.fields) (hdeclared : f.synthetic = false) :
    f.name ≠ model.identifier.field := by
  rcases mem_fields_of_resolve h hf with ⟨declared, hplain, hfield⟩ | hcolumn
  · exact name_ne_of_mem_plainFields hplain hfield
  · rw [(column_of_mem_columns hcolumn).1] at hdeclared
    cases hdeclared

/-- A field of a resolved model has the name of the identifier exactly if a column has it. -/
theorem identifier_mem_fields_iff (h : r.resolve m = .ok model) :
    model.identifier.field ∈ model.fields.map Model.Field.name ↔
      model.identifier.field ∈ (r.columns m).map Model.Field.name := by
  constructor
  · intro hmem
    obtain ⟨f, hf, hname⟩ := List.mem_map.mp hmem
    rcases mem_fields_of_resolve h hf with ⟨declared, hplain, hfield⟩ | hcolumn
    · exact absurd hname (name_ne_of_mem_plainFields hplain hfield)
    · exact List.mem_map.mpr ⟨f, hcolumn, hname⟩
  · intro hcolumn
    obtain ⟨_, _, _, -, -, -, -, -, hfields, -⟩ := exists_of_resolve h
    rw [hfields, addColumn_eq]
    exact (mem_keys_foldl_appendNew_iff _).mpr (.inr hcolumn)

/-- A to-one relation of a resolved model leads to a type. -/
theorem exists_target_of_resolve (h : r.resolve m = .ok model) {f : Model.Field}
    (hf : f ∈ model.toOneRelations) : ∃ target, f.target = some target := by
  obtain ⟨hf, htoOne⟩ := List.mem_filter.mp hf
  rcases mem_fields_of_resolve h hf with ⟨declared, -, hfield⟩ | hcolumn
  · unfold field at hfield
    simp only at hfield
    split at hfield
    · cases hfield
    · next hresolves =>
      cases hfield
      exact Option.ne_none_iff_exists'.mp fun hnone => hresolves ⟨beq_iff_eq.mp htoOne, hnone⟩
  · rw [(column_of_mem_columns hcolumn).2] at htoOne
    cases htoOne

/-- A model that gets all artifacts has a primary DTO variant. -/
theorem exists_primaryVariant_of_resolve (h : r.resolve m = .ok model)
    (hbean : model.traits.scrudBean = true) : ∃ v, model.primaryVariant? = some v := by
  obtain ⟨_, _, variants, -, -, hvariants, -, -, -, hmodel, htraits⟩ := exists_of_resolve h
  have hsome : variants ≠ [] := by
    have hdeclared : m.scrudBean = true := by rw [← hbean, htraits]
    obtain ⟨referred, -, hvariants⟩ := bind_eq_ok_iff.mp hvariants
    rintro rfl
    simp only [hdeclared, Bool.and_true] at hvariants
    split at hvariants
    · cases hvariants
    · next hcollected => exact hcollected (List.isEmpty_iff.mpr (Except.ok.inj hvariants))
  obtain ⟨v, rest, rfl⟩ := List.exists_cons_of_ne_nil hsome
  exact ⟨_, by rw [Model.primaryVariant?, hmodel]; rfl⟩

end Resolver

end CrudScaffold
