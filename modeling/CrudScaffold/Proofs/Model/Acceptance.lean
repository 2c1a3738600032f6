import CrudScaffold.Proofs.Model.WellFormed

/-!
# Which declarations are resolved

A declaration is resolved exactly if it is in order, its composite identifier has two to four known
entities, its to-one relations lead to known types, and each DTO that it refers to is declared for
it or the default one. Every other declaration is refused as unresolvable, whichever of its faults
is met first.
-/

namespace CrudScaffold.Resolver

variable {r : Resolver} {m : Manifest.Model} {space : Namespace}

/-- What a declaration has to be like for its model to be resolved. -/
structure Accepts (r : Resolver) (m : Manifest.Model) : Prop extends m.InOrder where
  composite : ∀ i slots, m.identifier = some i → i.composite = some slots →
    2 ≤ slots.length ∧ slots.length ≤ 4 ∧
      ∀ s ∈ slots, ∃ entity, r.index.resolve s.entity m.declaredSpace = some entity
  /-- A to-one relation has a target, or else an element type, that leads to a type. The identifier
  is no relation, whatever is declared under its name. -/
  targets : ∀ i, m.identifier = some i → ∀ f ∈ m.fields, f.name ≠ i.field → f.IsToOne →
    ∃ reference target, f.target.or (elementTypeName? f.type) = some reference ∧
      r.index.resolve reference m.declaredSpace = some target
  dtos : ∀ name ∈ m.dtos, (∃ dto ∈ r.dtos, dto.refersTo m = true ∧ dto.name = name) ∨
    name = r.naming.defaultDtoName m.name

/-! ## Identifiers -/

/-- There are arities from two to four. -/
theorem exists_ofCount_iff {n : Nat} : (∃ arity, Arity.ofCount n = .ok arity) ↔ 2 ≤ n ∧ n ≤ 4 := by
  simp only [Arity.ofCount_ok_iff]
  constructor
  · rintro ⟨arity, rfl⟩
    cases arity <;> decide
  · rintro ⟨hlower, hupper⟩
    obtain rfl | rfl | rfl : n = 2 ∨ n = 3 ∨ n = 4 := by omega
    · exact ⟨.two, rfl⟩
    · exact ⟨.three, rfl⟩
    · exact ⟨.four, rfl⟩

/-- A slot is resolved exactly if its entity is. -/
theorem exists_slot_iff {s : Manifest.Slot} :
    (∃ resolved, r.slot space s = .ok resolved) ↔
      ∃ entity, r.index.resolve s.entity space = some entity := by
  constructor
  · rintro ⟨resolved, h⟩
    exact ⟨resolved.entity, (slot_eq_ok_iff.mp h).1⟩
  · rintro ⟨entity, h⟩
    exact ⟨⟨entity, s.idType⟩, slot_eq_ok_iff.mpr ⟨h, rfl⟩⟩

/-- Components are resolved if there are two to four of them, which all lead to types. -/
theorem exists_composite_iff {field : String} {slots : List Manifest.Slot} :
    (∃ resolved, r.identifier space ⟨field, none, some slots⟩ = .ok resolved) ↔
      2 ≤ slots.length ∧ slots.length ≤ 4 ∧
        ∀ s ∈ slots, ∃ entity, r.index.resolve s.entity space = some entity := by
  simp only [← exists_slot_iff (r := r), ← exists_mapM_eq_ok_iff]
  rw [← and_assoc, ← exists_ofCount_iff]
  cases hcount : Arity.ofCount slots.length with
  | error fault => simp [identifier, hcount]
  | ok arity =>
    simp only [identifier, hcount]
    constructor
    · rintro ⟨_, h⟩
      obtain ⟨resolved, hslots, -⟩ := bind_eq_ok_iff.mp h
      exact ⟨⟨arity, rfl⟩, resolved, hslots⟩
    · rintro ⟨-, resolved, hslots⟩
      exact ⟨⟨field, .composite arity resolved⟩, bind_eq_ok_iff.mpr ⟨resolved, hslots, rfl⟩⟩

/-- An identifier is resolved if it has either a type or components that are resolved. -/
theorem exists_identifier_iff {i : Manifest.Identifier} :
    (∃ resolved, r.identifier space i = .ok resolved) ↔
      i.type.isSome = !i.composite.isSome ∧ ∀ slots, i.composite = some slots →
        2 ≤ slots.length ∧ slots.length ≤ 4 ∧
          ∀ s ∈ slots, ∃ entity, r.index.resolve s.entity space = some entity := by
  obtain ⟨field, type, composite⟩ := i
  cases type with
  | some type => cases composite <;> simp [identifier]
  | none =>
    cases composite with
    | none => simp [identifier]
    | some slots => simp [exists_composite_iff]

/-! ## Fields -/

/-- What a relation leads to is found through its target or else its element type. -/
theorem exists_target_iff {f : Manifest.Field}
    (hrelation : RelationKind.ofCardinality f.cardinality ≠ .scalar) :
    (∃ target, r.target? space f = some target) ↔
      ∃ reference target, f.target.or (elementTypeName? f.type) = some reference ∧
        r.index.resolve reference space = some target := by
  simp only [target?_eq_some_iff, hrelation, ne_eq, not_false_eq_true, true_and]
  exact exists_comm

/-- Of all fields only to-one relations have to lead to a type. -/
theorem exists_field_iff {f : Manifest.Field} :
    (∃ resolved, r.field space f = .ok resolved) ↔ (f.IsToOne →
      ∃ reference target, f.target.or (elementTypeName? f.type) = some reference ∧
        r.index.resolve reference space = some target) := by
  have htoOne : f.IsToOne ↔ RelationKind.ofCardinality f.cardinality = .toOne :=
    RelationKind.ofCardinality_eq_toOne_iff.symm
  rw [htoOne, field]
  by_cases hrelation : RelationKind.ofCardinality f.cardinality = .toOne
  · rw [forall_prop_of_true hrelation, ← exists_target_iff (by rw [hrelation]; decide)]
    cases r.target? space f with
    | none => simp [hrelation]
    | some target => simp
  · simp [hrelation]

/-! ## DTOs -/

/-- A variant that a model refers to is found if a DTO of that name is declared for it, or if it is
the default one. -/
theorem exists_referredVariant_iff {name : String} :
    (∃ v, r.referredVariant m (r.dtosOf m) name = .ok v) ↔
      (∃ dto ∈ r.dtos, dto.refersTo m = true ∧ dto.name = name) ∨
        name = r.naming.defaultDtoName m.name := by
  unfold referredVariant
  rw [find?_dtosOf_eq]
  cases hfound : r.dtos.find? fun dto => dto.refersTo m && dto.name == name with
  | some dto =>
    have hdeclared : ∃ dto ∈ r.dtos, dto.refersTo m = true ∧ dto.name = name :=
      ⟨dto, List.mem_of_find?_eq_some hfound, by simpa using List.find?_some hfound⟩
    exact ⟨fun _ => .inl hdeclared, fun _ => ⟨_, rfl⟩⟩
  | none =>
    have hnone : ¬ ∃ dto ∈ r.dtos, dto.refersTo m = true ∧ dto.name = name := by
      simpa using hfound
    rw [or_iff_right hnone]
    by_cases hdefault : name = r.naming.defaultDtoName m.name
    · simp [hdefault]
    · simp [hdefault]

/-- All variants are found exactly if each listed name is that of a DTO of the model, or the default
one. -/
theorem exists_collectVariants_iff :
    (∃ variants, r.collectVariants m = .ok variants) ↔
      ∀ name ∈ m.dtos, (∃ dto ∈ r.dtos, dto.refersTo m = true ∧ dto.name = name) ∨
        name = r.naming.defaultDtoName m.name := by
  simp only [← exists_referredVariant_iff, ← exists_mapM_eq_ok_iff]
  constructor
  · rintro ⟨_, h⟩
    obtain ⟨referred, hreferred, -⟩ := exists_of_collectVariants h
    exact ⟨referred, hreferred⟩
  · rintro ⟨referred, hreferred⟩
    unfold collectVariants
    dsimp only
    rw [hreferred, ok_bind]
    split
    · exact ⟨_, rfl⟩
    · exact ⟨_, rfl⟩

/-! ## Models -/

/-- A declaration is resolved exactly if it is acceptable. -/
theorem exists_resolve_iff : (∃ model, r.resolve m = .ok model) ↔ r.Accepts m := by
  constructor
  · rintro ⟨model, h⟩
    obtain ⟨identifier, _, _, hidentifier, hdeclared, hvariants, -⟩ := exists_of_resolve h
    obtain ⟨hvalid, i, hi, hresolved⟩ := declaredIdentifier_eq_ok_iff.mp hidentifier
    obtain ⟨-, hcomposite⟩ := exists_identifier_iff.mp ⟨_, hresolved⟩
    have hfields := exists_mapM_eq_ok_iff.mp ⟨_, hdeclared⟩
    refine ⟨Manifest.Model.isValid_iff.mp hvalid, ?_, ?_, ?_⟩
    · intro i' slots hi' hslots
      obtain rfl := Option.some.inj (hi.symm.trans hi')
      exact hcomposite slots hslots
    · intro i' hi' f hf hname htoOne
      obtain rfl := Option.some.inj (hi.symm.trans hi')
      rw [← (of_identifier hresolved).1] at hname
      have hplain : f ∈ plainFields m identifier :=
        List.mem_filter.mpr ⟨hf, bne_iff_ne.mpr hname⟩
      exact exists_field_iff.mp (hfields f hplain) htoOne
    · exact exists_collectVariants_iff.mp ⟨_, hvariants⟩
  · rintro ⟨hinOrder, hcomposite, htargets, hdtos⟩
    obtain ⟨i, hi, hkind⟩ := hinOrder.identified
    obtain ⟨identifier, hresolved⟩ : ∃ resolved, r.identifier m.declaredSpace i = .ok resolved :=
      exists_identifier_iff.mpr ⟨hkind, fun slots => hcomposite i slots hi⟩
    have hidentifier : r.declaredIdentifier m = .ok identifier :=
      declaredIdentifier_eq_ok_iff.mpr ⟨Manifest.Model.isValid_iff.mpr hinOrder, i, hi, hresolved⟩
    obtain ⟨declared, hdeclared⟩ : ∃ declared,
        (plainFields m identifier).mapM (r.field m.declaredSpace) = .ok declared := by
      refine exists_mapM_eq_ok_iff.mpr fun f hplain => exists_field_iff.mpr fun htoOne => ?_
      obtain ⟨hf, hname⟩ := List.mem_filter.mp hplain
      rw [bne_iff_ne, (of_identifier hresolved).1] at hname
      exact htargets i hi f hf hname htoOne
    obtain ⟨variants, hvariants⟩ := exists_collectVariants_iff.mpr hdtos
    unfold resolve
    rw [hidentifier, ok_bind, hdeclared, ok_bind, hvariants, ok_bind]
    exact ⟨_, rfl⟩

/-- Whatever the fault of a declaration is, it is unresolvable under the path that was declared for
it or the one that its model would have. -/
theorem exists_unresolvable_eq (m : Manifest.Model) (fault : ResolutionFault) :
    ∃ path, (path = m.qualifiedName ∨ path = m.resolvedName.path) ∧
      GenerationError.unresolvable m fault = .unresolvableModel path fault.message := by
  cases fault with
  | undeclaredVariant => exact ⟨_, .inr rfl, rfl⟩
  | _ => exact ⟨_, .inl rfl, rfl⟩

/-- A declaration is either acceptable, and its model is resolved, or it is refused as unresolvable,
under the path that was declared for it or the one that its model would have. -/
theorem resolved_iff_accepts (r : Resolver) (m : Manifest.Model) :
    let result := (r.resolve m).mapError (GenerationError.unresolvable m)
    ((∃ model, result = .ok model) ↔ r.Accepts m) ∧
    ((∃ path reason, (path = m.qualifiedName ∨ path = m.resolvedName.path) ∧
      result = .error (.unresolvableModel path reason)) ↔ ¬ r.Accepts m) := by
  intro result
  have haccepts : (∃ model, result = .ok model) ↔ r.Accepts m := by
    simp only [result, mapError_eq_ok_iff]
    exact exists_resolve_iff
  refine ⟨haccepts, ?_⟩
  rw [← haccepts]
  constructor
  · rintro ⟨_, _, -, herror⟩ ⟨_, hok⟩
    rw [herror] at hok
    cases hok
  · intro hnot
    cases hresult : r.resolve m with
    | ok model => exact absurd ⟨model, mapError_eq_ok_iff.mpr hresult⟩ hnot
    | error fault =>
      obtain ⟨path, hpath, hfault⟩ := exists_unresolvable_eq m fault
      exact ⟨path, _, hpath, mapError_eq_error_iff.mpr ⟨fault, hresult, hfault⟩⟩

end CrudScaffold.Resolver
