import CrudScaffold.Proofs.Model.Variants

/-!
# Well-formed models

What all artifacts of a model rely on without a look at the declaration: how the fields of a resolved
model follow from the declared ones, that every reference was found in the index, and that the DTO
variants can be told apart and show nothing but what the model has.
-/

namespace CrudScaffold

/-! ## References and declarations -/

/-- A reference means nothing but indexed types. -/
theorem TypeIndex.contains_of_resolve {index : TypeIndex} {reference : String} {seenFrom : Namespace}
    {n : QualifiedName} (h : index.resolve reference seenFrom = some n) : index.contains n = true := by
  unfold resolve at h
  simp only at h
  split at h
  · exact (Option.filter_eq_some_iff.mp h).2
  · split at h
    · next hhere =>
      cases h
      exact hhere
    · split at h
      · next only hnamed =>
        cases h
        have honly : ∀ k ∈ [n], index.contains k = true := by
          intro k hk
          rw [← hnamed, named, List.mem_filter] at hk
          exact contains_iff.mpr hk.1
        exact honly n (List.mem_singleton_self n)
      · cases h

/-- The relation is a to-one relation for the two cardinalities that are. -/
theorem RelationKind.ofCardinality_eq_toOne_iff {c : Option Cardinality} :
    ofCardinality c = .toOne ↔ c.any Cardinality.isToOne = true := by
  rcases c with _ | c
  · decide
  · cases c <;> decide

namespace Resolver

variable {r : Resolver} {m : Manifest.Model} {model : Model}

/-! ## Fields -/

/-- A field as it follows from a declared one. -/
structure FollowsFrom (declared : Manifest.Field) (f : Model.Field) : Prop where
  name : f.name = declared.name
  declaredType : f.declaredType = declared.type
  optional : f.optional = declared.optional
  synthetic : f.synthetic = false
  /-- The cardinality alone decides about the relation. -/
  relation : f.relation = .ofCardinality declared.cardinality
  /-- A field leads back exactly where a to-one relation is declared as bidirectional. -/
  reverse_iff : f.reverse.isSome = true ↔ f.relation = .toOne ∧ declared.bidirectional = true
  reverse_eq : ∀ back, f.reverse = some back →
    declared.reverse = some back.name ∧
      (back.oneToOne = true ↔ declared.cardinality = some .oneToOne)

/-- A reverse field carries the declared name, and whether it leads back to one owner. -/
theorem reverse?_eq_some_iff {f : Manifest.Field} {back : ReverseField} :
    reverse? f = some back ↔
      (RelationKind.ofCardinality f.cardinality = .toOne ∧ f.bidirectional = true) ∧
        f.reverse = some back.name ∧ back.oneToOne = (f.cardinality == some .oneToOne) := by
  unfold reverse?
  obtain ⟨name, oneToOne⟩ := back
  split
  · next hboth =>
    rw [and_iff_right hboth, Option.map_eq_some_iff]
    constructor
    · rintro ⟨name', hname, hback⟩
      cases hback
      exact ⟨hname, rfl⟩
    · rintro ⟨hname, hone⟩
      exact ⟨name, hname, congrArg _ hone.symm⟩
  · next hnot => simp [hnot]

/-- A field of a valid declaration is resolved to one that follows from it. -/
theorem followsFrom_of_field (hvalid : m.findings.isValid = true) {declared : Manifest.Field}
    (hdeclared : declared ∈ m.fields) {f : Model.Field}
    (h : r.field m.declaredSpace declared = .ok f) : FollowsFrom declared f := by
  unfold field at h
  simp only at h
  split at h
  · cases h
  · cases h
    refine ⟨rfl, rfl, rfl, rfl, rfl, ?_, ?_⟩
    · constructor
      · intro hsome
        obtain ⟨back, hback⟩ := Option.isSome_iff_exists.mp hsome
        exact (reverse?_eq_some_iff.mp hback).1
      · rintro ⟨htoOne, hboth⟩
        -- It is the check of the declaration that guarantees a name here.
        have hnamed : declared.reverse.isSome = true :=
          (Manifest.Model.isValid_iff.mp hvalid).reverse_named declared hdeclared hboth
            (RelationKind.ofCardinality_eq_toOne_iff.mp htoOne)
        obtain ⟨name, hname⟩ := Option.isSome_iff_exists.mp hnamed
        have hback : reverse? declared = some ⟨name, declared.cardinality == some .oneToOne⟩ :=
          reverse?_eq_some_iff.mpr ⟨⟨htoOne, hboth⟩, hname, rfl⟩
        rw [hback]
        rfl
    · intro back hback
      obtain ⟨-, hname, hone⟩ := reverse?_eq_some_iff.mp hback
      exact ⟨hname, by rw [hone, beq_iff_eq]⟩

/-- A column is an optional plain value that leads nowhere. -/
theorem plain_of_mem_columns {f : Model.Field} (h : f ∈ r.columns m) :
    f.optional = true ∧ f.target = none ∧ f.reverse = none := by
  simp only [columns, List.mem_append, List.mem_ite_nil_right, List.mem_map,
    List.mem_singleton] at h
  rcases h with ⟨-, ⟨name, -, rfl⟩ | ⟨name, -, rfl⟩⟩ | ⟨-, rfl⟩ <;> exact ⟨rfl, rfl, rfl⟩

/-- The columns of a model are named after its traits. -/
theorem names_columns :
    (r.columns m).map Model.Field.name =
      (if m.audited then auditTimes ++ auditPersons else []) ++
        if m.disableable then [disabledField] else [] := by
  unfold columns
  cases m.audited <;> cases m.disableable <;> rfl

/-- The columns of a model have distinct names. -/
theorem nodup_columns : ((r.columns m).map Model.Field.name).Nodup := by
  rw [names_columns]
  cases m.audited <;> cases m.disableable <;> decide

/-- The columns that a model gets: those whose names no declared field has. -/
def addedColumns (r : Resolver) (m : Manifest.Model) (identifier : Model.Identifier) :
    List Model.Field :=
  (r.columns m).filter fun c => !(plainFields m identifier).any fun f => f.name == c.name

/-- The fields of a resolved model are the declared ones and then columns under new names. -/
theorem exists_fields_of_resolve (h : r.resolve m = .ok model) :
    ∃ declared, model.fields = declared ++ r.addedColumns m model.identifier ∧
      List.Forall₂ FollowsFrom (plainFields m model.identifier) declared := by
  obtain ⟨_, declared, _, hidentifier, hdeclared, -, -, rfl, hfields, -⟩ := exists_of_resolve h
  obtain ⟨hvalid, -⟩ := declaredIdentifier_eq_ok_iff.mp hidentifier
  refine ⟨declared, ?_, ?_⟩
  · have hnames : declared.map Model.Field.name =
        (plainFields m model.identifier).map Manifest.Field.name :=
      map_eq_of_mapM_eq_ok (fun _ _ => name_of_field) hdeclared
    have htaken : ∀ name, (declared.any fun f => f.name == name) =
        (plainFields m model.identifier).any fun f => f.name == name := by
      intro name
      have hany := congrArg (List.any · (· == name)) hnames
      rwa [List.any_map, List.any_map] at hany
    rw [hfields, addColumn_eq, foldl_appendNew_eq nodup_columns, addedColumns]
    simp only [htaken]
  · refine forall₂_of_mapM_eq_ok hdeclared fun f hf resolved hresolved => ?_
    exact followsFrom_of_field hvalid (List.mem_of_mem_filter hf) hresolved

/-- Whatever a field of a resolved model leads to is indexed. -/
theorem contains_target_of_resolve (h : r.resolve m = .ok model) {f : Model.Field}
    (hf : f ∈ model.fields) {n : QualifiedName} (hn : f.target = some n) :
    r.index.contains n = true := by
  rcases mem_fields_of_resolve h hf with ⟨declared, -, hfield⟩ | hcolumn
  · rw [(of_field hfield).2] at hn
    obtain ⟨-, reference, -, hresolve⟩ := target?_eq_some_iff.mp hn
    exact TypeIndex.contains_of_resolve hresolve
  · rw [(plain_of_mem_columns hcolumn).2.1] at hn
    cases hn

/-! ## Identifiers -/

/-- An identifier keeps its field, and a composite one has as many components as its arity says, each
of which leads to an indexed type. -/
theorem of_identifier {space : Namespace} {i : Manifest.Identifier} {resolved : Model.Identifier}
    (h : r.identifier space i = .ok resolved) :
    resolved.field = i.field ∧ ∀ arity slots, resolved.kind = .composite arity slots →
      slots.length = arity.count ∧ ∀ s ∈ slots, r.index.contains s.entity = true := by
  unfold identifier at h
  split at h
  · cases h
    exact ⟨rfl, nofun⟩
  · next declared _ _ =>
    split at h
    · cases h
    · next arity harity =>
      obtain ⟨slots, hslots, h⟩ := bind_eq_ok_iff.mp h
      cases h
      refine ⟨rfl, fun arity' slots' hkind => ?_⟩
      cases hkind
      have hrow : List.Forall₂ (fun s resolved => r.slot space s = .ok resolved) declared slots :=
        forall₂_of_mapM_eq_ok hslots fun _ _ _ hs => hs
      constructor
      · rw [← hrow.length_eq, Arity.ofCount_ok_iff.mp harity]
      · intro s hs
        obtain ⟨declared, -, hslot⟩ := exists_of_mem_mapM hslots hs
        exact TypeIndex.contains_of_resolve (slot_eq_ok_iff.mp hslot).1
  · cases h

/-! ## Models -/

/-- What a declaration promises of the model that it is resolved to. -/
structure WellFormed (r : Resolver) (m : Manifest.Model) (model : Model) : Prop where
  /-- The fields are the declared ones in their order, without the identifier, and then columns. -/
  fields : ∃ declared, model.fields = declared ++ r.addedColumns m model.identifier ∧
    List.Forall₂ FollowsFrom (plainFields m model.identifier) declared
  synthetic : ∀ f ∈ r.addedColumns m model.identifier, f.synthetic = true ∧
    f.relation = .scalar ∧ f.optional = true ∧ f.target = none ∧ f.reverse = none
  target_of_toOne : ∀ f ∈ model.toOneRelations, ∃ n, f.target = some n
  target_mem : ∀ f ∈ model.fields, ∀ n, f.target = some n → r.index.contains n = true
  identifier : ∃ i, m.identifier = some i ∧ model.identifier.field = i.field
  composite : ∀ arity slots, model.identifier.kind = .composite arity slots →
    slots.length = arity.count ∧ ∀ s ∈ slots, r.index.contains s.entity = true
  variants_nodup : (model.variants.map Model.DtoVariant.name).Nodup
  dtos : ∀ name ∈ m.dtos, name ∈ model.variants.map Model.DtoVariant.name
  primary : ∀ name, m.dtos.head? = some name →
    model.primaryVariant?.map Model.DtoVariant.name = some name
  /-- A variant shows nothing but the identifier and fields of the model. -/
  subsets : ∀ v ∈ model.variants, ∀ names, v.fields = some names → ∀ name ∈ names,
    name = model.identifier.field ∨ name ∈ model.fields.map Model.Field.name
  variants_ne_nil : model.traits.scrudBean = true → model.variants ≠ []

/-- A model that refers to DTOs has a variant for each of them, and that of the first one first. -/
theorem names_collectVariants {variants : List Model.DtoVariant}
    (h : r.collectVariants m = .ok variants) :
    (∀ name ∈ m.dtos, name ∈ variants.map Model.DtoVariant.name) ∧
      ∀ name, m.dtos.head? = some name →
        variants.head?.map Model.DtoVariant.name = some name := by
  obtain ⟨referred, hreferred, hvariants⟩ := exists_of_collectVariants h
  have hnames : referred.map Model.DtoVariant.name = m.dtos := by
    have hkept : referred.map Model.DtoVariant.name = m.dtos.map id :=
      map_eq_of_mapM_eq_ok (fun _ _ hv => (referredVariant_cases hv).1) hreferred
    rwa [List.map_id] at hkept
  rcases hvariants with rfl | ⟨hempty, rfl⟩
  · rw [addVariant_eq]
    constructor
    · intro name hname
      rw [mem_keys_foldl_appendNew_iff, List.map_append, hnames]
      exact .inr (List.mem_append_left _ hname)
    · intro name hname
      rw [← hnames, List.head?_map, Option.map_eq_some_iff] at hname
      obtain ⟨v, hv, hname⟩ := hname
      rw [head?_foldl_appendNew, List.head?_nil, Option.none_or, List.head?_append, hv,
        Option.some_or, Option.map_some, hname]
  · -- Only a model that refers to nothing is left with nothing.
    have hnone : m.dtos = [] := by
      cases hdtos : m.dtos with
      | nil => rfl
      | cons name rest =>
        exfalso
        have hmem : name ∈ ((referred ++ (r.dtosOf m).map variantOf).foldl addVariant []).map
            Model.DtoVariant.name := by
          rw [addVariant_eq, mem_keys_foldl_appendNew_iff, List.map_append, hnames, hdtos]
          exact .inr List.mem_cons_self
        rw [hempty] at hmem
        cases hmem
    rw [hnone]
    exact ⟨nofun, nofun⟩

/-- A restricted variant names nothing that the model does not have. -/
theorem mem_of_mem_restrict {identifier : Model.Identifier} {fields : List Model.Field}
    {v : Model.DtoVariant} {names : List String} (h : (restrict identifier fields v).fields = some names)
    {name : String} (hname : name ∈ names) :
    name = identifier.field ∨ name ∈ fields.map Model.Field.name := by
  obtain ⟨given, -, rfl⟩ := Option.map_eq_some_iff.mp h
  have hfield := (List.mem_filter.mp hname).2
  simp only [hasField, Bool.or_eq_true, beq_iff_eq, List.any_eq_true] at hfield
  rcases hfield with hfield | ⟨f, hf, hfield⟩
  · exact .inl hfield
  · exact .inr (List.mem_map.mpr ⟨f, hf, hfield⟩)

/-- Every model that a declaration is resolved to is well formed. -/
theorem wellFormed_of_resolve (h : r.resolve m = .ok model) : r.WellFormed m model := by
  obtain ⟨identifier, _, variants, hidentifier, -, hvariants, -, rfl, -, hmodel, -⟩ :=
    exists_of_resolve h
  obtain ⟨-, i, hi, hresolved⟩ := declaredIdentifier_eq_ok_iff.mp hidentifier
  obtain ⟨hfield, hcomposite⟩ := of_identifier hresolved
  have hnames : model.variants.map Model.DtoVariant.name = variants.map Model.DtoVariant.name := by
    rw [hmodel, List.map_map]
    rfl
  obtain ⟨hdtos, hprimary⟩ := names_collectVariants hvariants
  refine ⟨exists_fields_of_resolve h, ?_, ?_, ?_, ⟨i, hi, hfield⟩, hcomposite, ?_, ?_, ?_, ?_, ?_⟩
  · intro f hf
    have hcolumn : f ∈ r.columns m := List.mem_of_mem_filter hf
    exact ⟨(column_of_mem_columns hcolumn).1, (column_of_mem_columns hcolumn).2,
      plain_of_mem_columns hcolumn⟩
  · intro f hf
    exact exists_target_of_resolve h hf
  · intro f hf n hn
    exact contains_target_of_resolve h hf hn
  · rw [hnames]
    exact nodup_collectVariants hvariants
  · rw [hnames]
    exact hdtos
  · intro name hname
    rw [Model.primaryVariant?, ← List.head?_map, hnames, List.head?_map]
    exact hprimary name hname
  · intro v hv names hshown name hname
    rw [hmodel] at hv
    obtain ⟨w, -, rfl⟩ := List.mem_map.mp hv
    exact mem_of_mem_restrict hshown hname
  · intro hbean hnone
    obtain ⟨v, hv⟩ := exists_primaryVariant_of_resolve h hbean
    rw [Model.primaryVariant?, hnone] at hv
    cases hv

/-! ### Stock at a depot -/

private def depotResolver : Resolver where
  index := ⟨[(⟨⟨"shop::model"⟩, "Depot"⟩, .model), (⟨⟨"shop::model"⟩, "Product"⟩, .model)]⟩
  naming := {}
  dtos := [{ name := "StockLine", model := "Stock", fields := some ["depot", "colour"] }]
  runtimeCrate := "scrud_runtime"

-- Stock is identified by a depot and a product, declares its identifier and one of the audit
-- columns itself, and is shown by a DTO that names a field it does not have.
private def stock : Manifest.Model where
  name := "Stock"
  space := "shop::model"
  audited := true
  dtos := ["StockLine"]
  identifier := some
    { field := "place", composite := some [{ entity := "Depot" }, { entity := "Product" }] }
  fields :=
    [{ name := "place", type := "String" },
     { name := "depot", type := "Depot", cardinality := some .manyToOne, target := some "Depot",
       bidirectional := true, reverse := some "stock" },
     { name := "created_by", type := "u64" }]

/-- Stock is resolved to a well-formed model: the identifier is no field, the declared column stays as
it is declared, and the DTO shows the depot alone. -/
theorem stock_is_well_formed :
    ∃ model, depotResolver.resolve stock = .ok model ∧
      model.fields.map (fun f => (f.name, f.synthetic)) =
        [("depot", false), ("created_by", false), ("created_date", true),
          ("last_modified_date", true), ("last_modified_by", true)] ∧
      model.variants.map Model.DtoVariant.fields = [some ["depot"]] ∧
      depotResolver.WellFormed stock model := by
  obtain ⟨model, hresolve⟩ : ∃ model, depotResolver.resolve stock = .ok model := ⟨_, rfl⟩
  have hfields : model.fields.map (fun f => (f.name, f.synthetic)) =
      [("depot", false), ("created_by", false), ("created_date", true),
        ("last_modified_date", true), ("last_modified_by", true)] := by
    cases hresolve
    rfl
  have hvariants : model.variants.map Model.DtoVariant.fields = [some ["depot"]] := by
    cases hresolve
    rfl
  exact ⟨model, hresolve, hfields, hvariants, wellFormed_of_resolve hresolve⟩

end Resolver

end CrudScaffold
