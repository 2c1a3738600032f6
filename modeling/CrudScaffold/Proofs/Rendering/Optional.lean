import CrudScaffold.Code.Tree.Element
import CrudScaffold.Proofs.Assembly.Agreement
import CrudScaffold.Proofs.Assembly.Views
import CrudScaffold.Proofs.Except
import CrudScaffold.Rendering.Transfer

/-!
# Optional members of DTOs

A member of a DTO is made optional by the flag of its field or by its relation. What is optional already
stays as it is, but only where that shows before a declared type is read. So an optional field whose
declared type is itself optional gets a member of the form `Option<Option<..>>`, and apart from names that
are written as optional types no other field does.
-/

namespace CrudScaffold

open Code Code.Token

/-! ## Optional types -/

namespace Code.Ty

/-- A container of one type. -/
def applied (container : String) (inner : Ty) : Ty :=
  .path (.plain false [.mk container (.angle false [.type inner] false)])

/-- The type of texts. -/
def string : Ty := .path (.plain false [.mk "String" .none])

/-- The type is of the form `Option<..>`. -/
def isOptional (t : Ty) : Bool := t.optional?.isSome

/-- The type is of the form `Option<Option<..>>`. -/
def nestsOptions (t : Ty) : Bool := t.optional?.any isOptional

private theorem tokens_applied (container : String) (inner : Ty) :
    (applied container inner).tokens = Phrase.applied (word container) [inner.tokens] := by
  simp [applied, tokens, Path.tokens, segmentTokens, Segment.tokens, Args.tokens, argTokens,
    Arg.tokens, lifetimesFirst, withCommas, joinCommas, segmentsTokens, Phrase.applied, Phrase.angled,
    commas]

end Code.Ty

/-- The type refers to no item of the runtime crate. -/
def TypeRef.itemFree : TypeRef → Bool
  | .runtime _ => false
  | .list inner | .optional inner => inner.itemFree
  | .declared _ | .named _ | .text => true

namespace Renderer

variable {r : Renderer} {type inner : TypeRef} {t : Ty} {tokens : Tokens} {n : QualifiedName}
  {declared : String} {s : Spec}

/-- What a type is written as, if it holds no item of the runtime crate. -/
inductive Writes (r : Renderer) : TypeRef → Ty → Prop where
  | declared {text : String} {t : Ty} (h : Ty.ofText? text = some t) : r.Writes (.declared text) t
  | named {n : QualifiedName} {path : Code.Path} (h : Code.Path.ofText? (r.written n) = some path) :
    r.Writes (.named n) (.path path)
  | text : r.Writes .text .string
  | list {inner : TypeRef} {t : Ty} (h : r.Writes inner t) : r.Writes (.list inner) (.applied "Vec" t)
  | optional {inner : TypeRef} {t : Ty} (h : r.Writes inner t) :
    r.Writes (.optional inner) (.applied "Option" t)

/-- The type is written in the form `Option<..>`. -/
def WritesOptional (r : Renderer) (type : TypeRef) : Prop := ∃ t, r.Writes type t ∧ t.isOptional = true

/-- The type is written in the form `Option<Option<..>>`. -/
def WritesNested (r : Renderer) (type : TypeRef) : Prop := ∃ t, r.Writes type t ∧ t.nestsOptions = true

/-- Options are nested because a name is itself written as an optional type. -/
def NestsByName (r : Renderer) : TypeRef → Prop
  | .named n => r.WritesNested (.named n)
  | .optional (.named n) => r.WritesOptional (.named n)
  | _ => False

/-- The tokens of a type are those of what it is written as. -/
theorem Writes.type_eq (h : r.Writes type t) : r.type type = .ok t.tokens := by
  induction h with
  | declared h => rw [Renderer.type, h]
  | named h => rw [Renderer.type, Renderer.named, h, Ty.tokens]
  | text => rfl
  | list h ih =>
    rw [Renderer.type, ih, Ty.tokens_applied]
    rfl
  | optional h ih =>
    rw [Renderer.type, ih, Ty.tokens_applied]
    rfl

/-- A type that refers to no item of the runtime crate has tokens exactly if it is written as a type. -/
theorem type_eq_ok_iff (hfree : type.itemFree = true) :
    r.type type = .ok tokens ↔ ∃ t, r.Writes type t ∧ tokens = t.tokens := by
  constructor
  · intro h
    induction type generalizing tokens with
    | declared text =>
      unfold Renderer.type at h
      split at h
      · next t ht => exact ⟨t, .declared ht, (Except.ok.inj h).symm⟩
      · cases h
    | named n =>
      unfold Renderer.type Renderer.named at h
      split at h
      · next path hpath =>
        refine ⟨.path path, .named hpath, ?_⟩
        rw [Ty.tokens]
        exact (Except.ok.inj h).symm
      · cases h
    | text => exact ⟨.string, .text, (Except.ok.inj h).symm⟩
    | runtime item => cases hfree
    | list inner ih =>
      obtain ⟨_, hinner, rfl⟩ := map_eq_ok_iff.mp h
      obtain ⟨t, ht, rfl⟩ := ih hfree hinner
      exact ⟨_, .list ht, (Ty.tokens_applied "Vec" t).symm⟩
    | optional inner ih =>
      obtain ⟨_, hinner, rfl⟩ := map_eq_ok_iff.mp h
      obtain ⟨t, ht, rfl⟩ := ih hfree hinner
      exact ⟨_, .optional ht, (Ty.tokens_applied "Option" t).symm⟩
  · rintro ⟨t, ht, rfl⟩
    exact ht.type_eq

/-- An optional type nests another one exactly if it holds one. -/
@[simp] theorem writesNested_optional_iff : r.WritesNested (.optional inner) ↔ r.WritesOptional inner := by
  constructor
  · rintro ⟨_, ht, hnested⟩
    cases ht with
    | optional ht => exact ⟨_, ht, hnested⟩
  · rintro ⟨t, ht, hoptional⟩
    exact ⟨_, .optional ht, hoptional⟩

@[simp] private theorem not_writesOptional_text : ¬ r.WritesOptional .text := by
  rintro ⟨_, ht, hoptional⟩
  cases ht
  cases hoptional

@[simp] private theorem not_writesNested_list : ¬ r.WritesNested (.list inner) := by
  rintro ⟨_, ht, hnested⟩
  cases ht
  cases hnested

/-- A declared type is written as it is read. -/
theorem exists_writes_declared_iff {form : Ty → Bool} :
    (∃ t, r.Writes (.declared declared) t ∧ form t = true) ↔
      ∃ t ∈ Ty.ofText? declared, form t = true := by
  constructor
  · rintro ⟨t, ht, hform⟩
    cases ht with
    | declared ht => exact ⟨t, ht, hform⟩
  · rintro ⟨t, ht, hform⟩
    exact ⟨t, .declared ht, hform⟩

/-- A name is written as its path. -/
theorem exists_writes_named_iff {form : Ty → Bool} :
    (∃ t, r.Writes (.named n) t ∧ form t = true) ↔
      ∃ path ∈ Code.Path.ofText? (r.written n), form (.path path) = true := by
  constructor
  · rintro ⟨_, ht, hform⟩
    cases ht with
    | named ht => exact ⟨_, ht, hform⟩
  · rintro ⟨path, hpath, hform⟩
    exact ⟨_, .named hpath, hform⟩

instance : Decidable (r.WritesOptional (.declared declared)) :=
  decidable_of_iff _ exists_writes_declared_iff.symm

instance : Decidable (r.WritesNested (.declared declared)) :=
  decidable_of_iff _ exists_writes_declared_iff.symm

instance : Decidable (r.WritesOptional (.named n)) := decidable_of_iff _ exists_writes_named_iff.symm

instance : Decidable (r.WritesNested (.named n)) := decidable_of_iff _ exists_writes_named_iff.symm

instance (r : Renderer) (type : TypeRef) : Decidable (r.NestsByName type) :=
  match type with
  | .named n => inferInstanceAs (Decidable (r.WritesNested (.named n)))
  | .optional (.named n) => inferInstanceAs (Decidable (r.WritesOptional (.named n)))
  | .declared _ | .text | .runtime _ | .list _ | .optional (.declared _) | .optional .text
  | .optional (.runtime _) | .optional (.list _) | .optional (.optional _) => .isFalse id

/-- A rendered DTO is made of its members. -/
theorem exists_fields_of_dto (h : r.dto s = .ok tokens) :
    ∃ head fields, r.dtoFields s = .ok fields ∧
      tokens = head ++ Phrase.braced (Phrase.all (fields.map RenderedField.tokens)) := by
  obtain ⟨name, -, h⟩ := bind_eq_ok_iff.mp h
  obtain ⟨fields, hfields, h⟩ := bind_eq_ok_iff.mp h
  exact ⟨_, fields, hfields, (Except.ok.inj h).symm⟩

/-- A member has the type of its field. -/
theorem of_dtoField {f : FieldMember} {x : RenderedField} (h : r.dtoField f = .ok x) :
    name f.name = .ok x.name ∧ r.type f.type = .ok x.type := by
  obtain ⟨name, hname, h⟩ := bind_eq_ok_iff.mp h
  obtain ⟨type, htype, h⟩ := bind_eq_ok_iff.mp h
  cases h
  exact ⟨hname, htype⟩

end Renderer

/-! ## Members -/

/-- The values of a field are of its declared type. -/
def Model.Field.HoldsDeclared (f : Model.Field) : Prop :=
  f.relation = .scalar ∨ f.relation = .embedded ∧ f.target = none

instance (f : Model.Field) : Decidable f.HoldsDeclared :=
  inferInstanceAs (Decidable (f.relation = .scalar ∨ f.relation = .embedded ∧ f.target = none))

/-- A value is of the declared type, or has a name for its type. -/
theorem Model.Field.valueType_cases (f : Model.Field)
    (h : f.relation = .scalar ∨ f.relation = .embedded) :
    (f.HoldsDeclared ∧ f.valueType =
      if f.optional then .optional (.declared f.declaredType) else .declared f.declaredType) ∨
    ∃ n, ¬ f.HoldsDeclared ∧ f.valueType = if f.optional then .optional (.named n) else .named n := by
  unfold HoldsDeclared valueType
  rcases h with h | h
  · simp [h]
  · cases ht : f.target with
    | none => simp [h]
    | some n => exact .inr ⟨n, by simp [h], by rw [h]⟩

namespace Assembly

open Renderer (RenderedField optionType stringType)

variable {a : Assembly} {f : Model.Field} {v : Model.DtoVariant} {renderer : Renderer}
  {tokens : Tokens}

/-- No member refers to an item of the runtime crate. -/
theorem itemFree_memberType (a : Assembly) (f : Model.Field) : (a.memberType f).itemFree = true := by
  have h := a.converts f
  generalize a.conversion f = conversion, a.memberType f = type at h
  cases h with
  | direct =>
    unfold Model.Field.valueType
    split <;> split <;> rfl
  | _ => rfl

/-- The member of a field nests options in two cases: the values are of the declared type, which is
optional under a flag or nests options without one; or the member shows a name that is itself written as
such a type. -/
theorem writesNested_memberType_iff :
    renderer.WritesNested (a.memberType f) ↔
      (f.HoldsDeclared ∧ if f.optional then renderer.WritesOptional (.declared f.declaredType)
        else renderer.WritesNested (.declared f.declaredType)) ∨
      renderer.NestsByName (a.memberType f) := by
  have h := a.converts f
  generalize a.conversion f = conversion, a.memberType f = type at h ⊢
  cases h with
  | direct hrelation =>
    rcases f.valueType_cases hrelation with ⟨hdeclared, htype⟩ | ⟨n, hdeclared, htype⟩ <;> rw [htype]
    · split <;> simp [hdeclared, Renderer.NestsByName]
    · split <;> simp [hdeclared, Renderer.NestsByName]
  | embed hrelation | embedList hrelation | reference hrelation | referenceList hrelation =>
    simp [Model.Field.HoldsDeclared, hrelation, Renderer.NestsByName]

/-- The members of a rendered DTO are the identifier, which is an optional text, and the covered fields
under their names and types. None but those whose declared types do so nest options exactly if no optional
field with values of the declared type declares a type that is optional and does not nest options, and no
member shows a name that is itself written as such a type. -/
theorem options_nest_iff (h : renderer.dto (a.dtoSpec v) = .ok tokens) :
    (∃ head id fields,
      tokens = head ++ Phrase.braced (Phrase.all ((id :: fields).map RenderedField.tokens)) ∧
      Renderer.name a.model.identifier.field = .ok id.name ∧
      id.type = optionType stringType ∧
      List.Forall₂
        (fun f x => Renderer.name f.name = .ok x.name ∧
          ∃ t, renderer.Writes (a.memberType f) t ∧ x.type = t.tokens)
        (a.coveredFields v) fields) ∧
    ((∀ f ∈ a.coveredFields v, renderer.WritesNested (a.memberType f) →
        renderer.WritesNested (.declared f.declaredType)) ↔
      ∀ f ∈ a.coveredFields v, ¬ renderer.WritesNested (.declared f.declaredType) →
        (f.HoldsDeclared → f.optional = true → ¬ renderer.WritesOptional (.declared f.declaredType)) ∧
          ¬ renderer.NestsByName (a.memberType f)) := by
  constructor
  · obtain ⟨head, fields, hfields, htokens⟩ := Renderer.exists_fields_of_dto h
    rw [Renderer.dtoFields, fields_dtoSpec, dtoMembers] at hfields
    have hrows := forall₂_of_mapM_eq_ok hfields fun _ _ _ => Renderer.of_dtoField
    cases hrows with
    | @cons _ id _ fields hid hrows =>
      refine ⟨head, id, fields, htokens, hid.1, (Except.ok.inj hid.2).symm, ?_⟩
      refine (List.forall₂_map_left_iff.mp hrows).imp fun f x hrow => ⟨hrow.1, ?_⟩
      exact (Renderer.type_eq_ok_iff (a.itemFree_memberType f)).mp hrow.2
  · refine forall₂_congr fun f _ => ?_
    rw [writesNested_memberType_iff]
    cases f.optional <;> grind

/-! ### Letters -/

private def letterResolver : Resolver where
  index := ⟨[(⟨⟨"mail"⟩, "Person"⟩, .model), (⟨⟨"mail"⟩, "Address"⟩, .model)]⟩
  naming := {}
  dtos := []
  runtimeCrate := "scrud_runtime"

private def letterRenderer : Renderer where
  runtime := .plain false [.mk "scrud_runtime" .none]
  codec := .plain false [.mk "scrudgen_codec" .none]

-- A letter whose note is declared as an optional text.
private def letter (optional : Bool) : Manifest.Model where
  name := "Letter"
  space := "mail"
  identifier := some { type := some "u64" }
  fields :=
    [{ name := "note", type := "Option<String>", optional },
     { name := "draft", type := "Option<Option<String>>", optional := true },
     { name := "pages", type := "u16", optional := true },
     { name := "sender", type := "Person", cardinality := some .manyToOne, optional := true },
     { name := "address", type := "Address", cardinality := some .embedded, optional := true }]

private def letterAssembly (model : Model) : Assembly := ⟨model, {}, {}⟩

/-- Where the note is not optional by a flag as well, only the member of the draft nests options, which
its declared type does already. -/
theorem options_of_letter_nest_as_declared :
    ∃ model, letterResolver.resolve (letter false) = .ok model ∧
      ∃ v ∈ model.variants, ∃ tokens,
        letterRenderer.dto ((letterAssembly model).dtoSpec v) = .ok tokens ∧
        word "note" ++ op ":" ++ optionType stringType <:+: tokens ∧
        word "sender" ++ op ":" ++ optionType stringType <:+: tokens ∧
        (∃ f ∈ (letterAssembly model).coveredFields v,
          letterRenderer.WritesNested ((letterAssembly model).memberType f)) ∧
        ∀ f ∈ (letterAssembly model).coveredFields v,
          letterRenderer.WritesNested ((letterAssembly model).memberType f) →
            letterRenderer.WritesNested (.declared f.declaredType) := by
  have hfacts : ∃ model ∈ (letterResolver.resolve (letter false)).toOption, ∃ v ∈ model.variants,
      (∃ tokens ∈ (letterRenderer.dto ((letterAssembly model).dtoSpec v)).toOption,
        word "note" ++ op ":" ++ optionType stringType <:+: tokens ∧
        word "sender" ++ op ":" ++ optionType stringType <:+: tokens) ∧
      ∃ f ∈ (letterAssembly model).coveredFields v, f.HoldsDeclared ∧ f.optional = true ∧
        letterRenderer.WritesOptional (.declared f.declaredType) := by
    decide +kernel
  have hflags : ∀ model ∈ (letterResolver.resolve (letter false)).toOption, ∀ f ∈ model.fields,
      f.HoldsDeclared → f.optional = true →
        letterRenderer.WritesOptional (.declared f.declaredType) →
          letterRenderer.WritesNested (.declared f.declaredType) := by
    decide +kernel
  have hnames : ∀ model ∈ (letterResolver.resolve (letter false)).toOption, ∀ f ∈ model.fields,
      ¬ letterRenderer.NestsByName ((letterAssembly model).memberType f) := by
    decide +kernel
  obtain ⟨model, hmodel, v, hv, ⟨tokens, htokens, hnote, hsender⟩, draft, hcovered, hdeclared,
    hoptional, hwritten⟩ := hfacts
  have htokens := toOption_eq_some_iff.mp htokens
  refine ⟨model, toOption_eq_some_iff.mp hmodel, v, hv, tokens, htokens, hnote, hsender,
    ⟨draft, hcovered, ?_⟩, (options_nest_iff htokens).2.mpr fun f hf hflat => ?_⟩
  · rw [writesNested_memberType_iff, if_pos hoptional]
    exact .inl ⟨hdeclared, hwritten⟩
  · have hfield : f ∈ model.fields := (List.mem_filter.mp hf).1
    exact ⟨fun hdeclared hoptional hwritten =>
      hflat (hflags model hmodel f hfield hdeclared hoptional hwritten), hnames model hmodel f hfield⟩

/-- The note that is declared as an optional text and optional by its flag is rendered as an option of an
option. -/
theorem note_of_letter_nests_options :
    ∃ model, letterResolver.resolve (letter true) = .ok model ∧
      ∃ v ∈ model.variants, ∃ tokens,
        letterRenderer.dto ((letterAssembly model).dtoSpec v) = .ok tokens ∧
        word "note" ++ op ":" ++ optionType (optionType stringType) <:+:
          tokens ∧
        ∃ f ∈ (letterAssembly model).coveredFields v, f.declaredType = "Option<String>" ∧
          letterRenderer.WritesNested ((letterAssembly model).memberType f) ∧
          ¬ letterRenderer.WritesNested (.declared f.declaredType) := by
  have hfacts : ∃ model ∈ (letterResolver.resolve (letter true)).toOption, ∃ v ∈ model.variants,
      (∃ tokens ∈ (letterRenderer.dto ((letterAssembly model).dtoSpec v)).toOption,
        word "note" ++ op ":" ++ optionType (optionType stringType) <:+:
          tokens) ∧
      ∃ f ∈ (letterAssembly model).coveredFields v, f.declaredType = "Option<String>" ∧
        f.HoldsDeclared ∧ f.optional = true ∧
        letterRenderer.WritesOptional (.declared f.declaredType) ∧
        ¬ letterRenderer.WritesNested (.declared f.declaredType) := by
    decide +kernel
  obtain ⟨model, hresolve, v, hv, ⟨tokens, htokens, hnote⟩, f, hf, htype, hdeclared, hoptional,
    hwritten, hflat⟩ := hfacts
  refine ⟨model, toOption_eq_some_iff.mp hresolve, v, hv, tokens, toOption_eq_some_iff.mp htokens,
    hnote, f, hf, htype, ?_, hflat⟩
  rw [writesNested_memberType_iff, if_pos hoptional]
  exact .inl ⟨hdeclared, hwritten⟩

end Assembly

end CrudScaffold
