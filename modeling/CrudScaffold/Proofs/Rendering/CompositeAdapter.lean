import CrudScaffold.Assembly.Identity
import CrudScaffold.Proofs.Model.WellFormed
import CrudScaffold.Proofs.Rendering.Source

/-!
# Adapters of composite identifiers

The components of a composite identifier are declared in a row, which is resolved, put beside the slot
names of the codec, rendered as the arguments of a type of the codec, and rendered again as builders
that read them back. In all these places the row has the length and the order of the declaration.
-/

namespace CrudScaffold

open Code Code.Token

/-! ## Slots -/

/-- The composite types of the codec with the slots of their components. -/
inductive IsCodecType : Arity → String → List String → Prop where
  | pair : IsCodecType .two "Pair" ["left", "right"]
  | triple : IsCodecType .three "Triple" ["left", "middle", "right"]
  | quadruple : IsCodecType .four "Quadruple" ["left", "inner_left", "inner_right", "right"]

/-- The type that is rendered for an arity is that of the codec. -/
theorem isCodecType_compositeName (arity : Arity) :
    IsCodecType arity (Renderer.compositeName arity) arity.slotNames := by
  cases arity with
  | two => exact .pair
  | three => exact .triple
  | four => exact .quadruple

namespace Assembly

variable {arity : Arity} {slots : List Model.Slot}

/-- Each slot name stands beside its component. -/
theorem codecSlots_eq_map_zip :
    codecSlots arity slots =
      (arity.slotNames.zip slots).map fun p => ⟨p.1, p.2.entity, p.2.idType⟩ := by
  rw [List.map_zip_eq_zipWith]
  rfl

/-- No slot is left without a component. -/
theorem names_codecSlots (h : slots.length = arity.count) :
    (codecSlots arity slots).map CodecSlot.slot = arity.slotNames := by
  have hlength : arity.slotNames.length ≤ slots.length := by rw [arity.length_slotNames, h]
  rw [codecSlots_eq_map_zip, List.map_map]
  exact List.map_fst_zip hlength

/-- No component is left without a slot. -/
theorem components_codecSlots (h : slots.length = arity.count) :
    (codecSlots arity slots).map (fun s => (⟨s.entity, s.idType⟩ : Model.Slot)) = slots := by
  have hlength : slots.length ≤ arity.slotNames.length := by rw [arity.length_slotNames, h]
  rw [codecSlots_eq_map_zip, List.map_map]
  exact List.map_snd_zip hlength

end Assembly

/-! ## Resolved components -/

namespace Resolver

variable {r : Resolver} {m : Manifest.Model} {model : Model}

/-- A composite identifier of a resolved model has as many components as were declared, in the same
order. -/
theorem exists_composite_of_resolve (h : r.resolve m = .ok model) {i : Manifest.Identifier}
    (hi : m.identifier = some i) {components : List Manifest.Slot}
    (hcomponents : i.composite = some components) :
    ∃ arity slots, model.identifier = ⟨i.field, .composite arity slots⟩ ∧
      arity.count = components.length ∧
      List.Forall₂
        (fun c s => r.index.resolve c.entity m.declaredSpace = some s.entity ∧
          s.idType = c.idType)
        components slots := by
  obtain ⟨_, _, _, hidentifier, -, -, -, rfl, -⟩ := exists_of_resolve h
  obtain ⟨-, i', hi', hresolved⟩ := declaredIdentifier_eq_ok_iff.mp hidentifier
  obtain rfl : i = i' := Option.some.inj (hi.symm.trans hi')
  unfold identifier at hresolved
  rw [hcomponents] at hresolved
  cases htype : i.type with
  | some type =>
    rw [htype] at hresolved
    cases hresolved
  | none =>
    simp only [htype] at hresolved
    cases harity : Arity.ofCount components.length with
    | error fault =>
      rw [harity] at hresolved
      cases hresolved
    | ok arity =>
      simp only [harity] at hresolved
      obtain ⟨slots, hslots, hresolved⟩ := bind_eq_ok_iff.mp hresolved
      exact ⟨arity, slots, (Except.ok.inj hresolved).symm, Arity.ofCount_ok_iff.mp harity,
        forall₂_of_mapM_eq_ok hslots fun _ _ _ => slot_eq_ok_iff.mp⟩

end Resolver

/-! ## The rendered adapter -/

namespace Renderer

variable {r : Renderer} {a : Assembly} {arity : Arity} {slots : List CodecSlot} {tokens : Tokens}

/-- The declaration of the alias of an identifier type. -/
def aliasDeclaration (aliasName type : Tokens) : Tokens :=
  word "pub" ++ word "type" ++ aliasName ++ op "=" ++ type ++ op ";"

/-- The call by which the codec reads an identifier, with a builder for each entity. -/
def decodeCall (r : Renderer) (aliasName : Tokens) (entities : List Tokens) : Tokens :=
  Phrase.qualified
    [aliasName, Phrase.call (word "decode_with") (word "raw" :: entities.map r.componentBuilder)]

/-- What is enclosed is part of it. -/
theorem infix_enclose (d : Delimiter) (inner : Tokens) : inner <:+: Token.enclose d inner :=
  ⟨[.opening d], [.closing d], rfl⟩

/-- The body of a function is part of an implementation with the function. -/
theorem infix_unitImpl {name body : Tokens} {functions : List Tokens} (signature : Tokens)
    (h : publicFunction signature body ∈ functions) : body <:+: unitImpl name functions := by
  have hbody : body <:+: publicFunction signature body :=
    (infix_enclose _ _).trans (List.suffix_append _ _).isInfix
  have hall : Phrase.all functions <:+: unitImpl name functions :=
    (infix_enclose _ _).trans (List.suffix_append _ _).isInfix
  exact (hbody.trans (List.infix_of_mem_flatten h)).trans hall

/-- The parts of an adapter that are rendered on their own. -/
structure AdapterParts where
  name : Tokens
  aliasName : Tokens
  entities : List Tokens
  encode : Tokens
  decode : Tokens

/-- The parts are the names of an adapter and its alias, the paths of the entities in the slots, and the
signatures of the two functions. -/
structure HasParts (r : Renderer) (a : Assembly) (slots : List CodecSlot) (p : AdapterParts) :
    Prop where
  name : Renderer.name a.idAdapterSpec.name.name = .ok p.name
  aliasName : Renderer.name (a.naming.idAliasName a.model).name = .ok p.aliasName
  entities : List.Forall₂ (fun s entity => r.named s.entity = .ok entity) slots p.entities
  encode : r.signature false a.encodeOperation = .ok p.encode
  decode : r.signature false a.decodeOperation = .ok p.decode

/-- An adapter of a composite identifier: the alias for a type of the codec over the entities, the
structure, and its two functions. -/
def compositeAdapter (r : Renderer) (a : Assembly) (typeName : String) (p : AdapterParts) : Tokens :=
  Phrase.docLine s!" Identifier of [`{a.model.name}`]." ++
    aliasDeclaration p.aliasName (Phrase.applied (r.inCodec [typeName]) p.entities) ++
    doc a.idAdapterSpec.doc ++ unitStruct p.name ++
    unitImpl p.name
      [publicFunction p.encode (Phrase.method (word "id") "encode" []),
       publicFunction p.decode (r.decodeCall p.aliasName p.entities)]

private theorem alias_infix_compositeAdapter (typeName : String) (p : AdapterParts) :
    aliasDeclaration p.aliasName (Phrase.applied (r.inCodec [typeName]) p.entities) <:+:
      r.compositeAdapter a typeName p := by
  simp only [compositeAdapter, List.append_assoc]
  exact ⟨_, _, List.append_assoc _ _ _⟩

private theorem decodeCall_infix_compositeAdapter (typeName : String) (p : AdapterParts) :
    r.decodeCall p.aliasName p.entities <:+: r.compositeAdapter a typeName p := by
  refine (infix_unitImpl p.decode ?_).trans (List.suffix_append _ _).isInfix
  exact List.mem_cons_of_mem _ (List.mem_singleton_self _)

/-- What is rendered for a composite identifier is the adapter of its parts. -/
theorem exists_parts_of_idAdapter (hcodec : a.codecContract = .composite separator arity slots)
    (h : r.artifact a.idAdapterSpec = .ok tokens) :
    ∃ p, r.HasParts a slots p ∧ tokens = r.compositeAdapter a (compositeName arity) p := by
  have hidentifier : a.idAdapterSpec.identifier? = some a.identifierContract := rfl
  have hoperations : a.idAdapterSpec.operations = [a.encodeOperation, a.decodeOperation] := rfl
  obtain ⟨name, hname, h⟩ := bind_eq_ok_iff.mp h
  simp only [hidentifier, hoperations] at h
  obtain ⟨aliasName, halias, h⟩ := bind_eq_ok_iff.mp h
  obtain ⟨code, hcode, h⟩ := bind_eq_ok_iff.mp h
  obtain ⟨functions, hfunctions, h⟩ := bind_eq_ok_iff.mp h
  simp only [Assembly.identifierContract, hcodec] at hcode
  obtain ⟨entities, hentities, hcode⟩ := bind_eq_ok_iff.mp hcode
  cases hcode
  rw [List.mapM_cons, List.mapM_cons, List.mapM_nil] at hfunctions
  obtain ⟨encode, hencode, hfunctions⟩ := bind_eq_ok_iff.mp hfunctions
  obtain ⟨rest, hrest, hfunctions⟩ := bind_eq_ok_iff.mp hfunctions
  obtain ⟨decode, hdecode, hrest⟩ := bind_eq_ok_iff.mp hrest
  obtain ⟨encodeSignature, hencodeSignature, hencode⟩ := bind_eq_ok_iff.mp hencode
  obtain ⟨decodeSignature, hdecodeSignature, hdecode⟩ := bind_eq_ok_iff.mp hdecode
  cases hencode
  cases hdecode
  cases hrest
  cases hfunctions
  cases h
  refine ⟨⟨name, aliasName, entities, encodeSignature, decodeSignature⟩, ?_, ?_⟩
  · exact
      { name := hname
        aliasName := halias
        entities := forall₂_of_mapM_eq_ok hentities fun _ _ _ hs => hs
        encode := hencodeSignature
        decode := hdecodeSignature }
  · simp only [compositeAdapter, aliasDeclaration, List.append_assoc]
    rfl

end Renderer

namespace Resolver

variable {resolver : Resolver} {m : Manifest.Model} {model : Model}

/-- The adapter of a composite identifier follows its declaration and the codec. The contract has the
separator of the codec, the declared number of components, and each component in its slot. The alias is
the codec's type over the entities of the slots, and the codec reads an identifier with one builder for
each of these entities, in the same order. -/
theorem composite_adapter_follows_codec (h : resolver.resolve m = .ok model)
    {i : Manifest.Identifier} (hi : m.identifier = some i) {components : List Manifest.Slot}
    (hcomponents : i.composite = some components) (graph : ModelGraph) (naming : Naming)
    (r : Renderer) :
    let a : Assembly := ⟨model, graph, naming⟩
    ∃ arity slots typeName, arity.count = components.length ∧
      IsCodecType arity typeName (slots.map CodecSlot.slot) ∧
      List.Forall₂
        (fun c s => resolver.index.resolve c.entity m.declaredSpace = some s.entity ∧
          s.idType = c.idType)
        components slots ∧
      a.idAdapterSpec.identifier? =
        some ⟨naming.idAliasName model, i.field, .composite separator arity slots⟩ ∧
      (∀ tokens, r.artifact a.idAdapterSpec = .ok tokens →
        ∃ p : Renderer.AdapterParts, r.HasParts a slots p ∧ p.entities.length = arity.count ∧
          tokens = r.compositeAdapter a typeName p) ∧
      ∀ text, r.source a.idAdapterSpec = .ok text →
        ∃ tokens, r.artifact a.idAdapterSpec = .ok tokens ∧ Renderer.fileText tokens = .ok text := by
  intro a
  obtain ⟨arity, slots, hidentifier, harity, hresolves⟩ :=
    exists_composite_of_resolve h hi hcomponents
  have hlength : slots.length = arity.count := by rw [← hresolves.length_eq, harity]
  have hcodec : a.codecContract = .composite separator arity (Assembly.codecSlots arity slots) := by
    unfold Assembly.codecContract
    rw [show a.model.identifier = _ from hidentifier]
  refine ⟨arity, Assembly.codecSlots arity slots, Renderer.compositeName arity, harity, ?_, ?_, ?_,
    ?_, ?_⟩
  · rw [Assembly.names_codecSlots hlength]
    exact isCodecType_compositeName arity
  · rw [← Assembly.components_codecSlots hlength, List.forall₂_map_right_iff] at hresolves
    exact hresolves
  · have hfield : a.model.identifier.field = i.field := by
      rw [show a.model.identifier = _ from hidentifier]
    rw [← hcodec, ← hfield]
    rfl
  · intro tokens htokens
    obtain ⟨p, hparts, htokens⟩ := Renderer.exists_parts_of_idAdapter hcodec htokens
    refine ⟨p, hparts, ?_, htokens⟩
    rw [← hparts.entities.length_eq, ← List.length_map (f := CodecSlot.slot),
      Assembly.names_codecSlots hlength, arity.length_slotNames]
  · intro text htext
    exact Renderer.exists_tokens_of_source htext

/-! ### Shelves

A shelf is identified by its depot, its aisle and the product on it. -/

private def shelfResolver : Resolver where
  index :=
    ⟨[(⟨⟨"shop::model"⟩, "Depot"⟩, .model), (⟨⟨"shop::model"⟩, "Aisle"⟩, .model),
      (⟨⟨"catalog::model"⟩, "Product"⟩, .known)]⟩
  naming := {}
  dtos := []
  runtimeCrate := "scrud_runtime"

private def shelfComponents : List Manifest.Slot :=
  [{ entity := "Depot", idType := "u64" }, { entity := "Aisle", idType := "u8" },
   { entity := "catalog::model::Product" }]

private def shelf : Manifest.Model where
  name := "Shelf"
  space := "shop::model"
  identifier := some { field := "place", composite := some shelfComponents }

private def shelfEntities : Tokens :=
  op "<" ++ word "crate" ++ op "::" ++ word "shop" ++ op "::" ++ word "model" ++ op "::" ++
    word "Depot" ++ op "," ++ word "crate" ++ op "::" ++ word "shop" ++ op "::" ++ word "model" ++
    op "::" ++ word "Aisle" ++ op "," ++ word "catalog" ++ op "::" ++ word "model" ++ op "::" ++
    word "Product" ++ op ">"

private def shelfFacts {α : Type} (facts : Renderer → Assembly → α) : Option α := do
  let model ← (shelfResolver.resolve shelf).toOption
  let r ← (Renderer.ofCrates "scrud_runtime" "scrudgen_codec" ["catalog::model::Product"]).toOption
  return facts r ⟨model, {}, {}⟩

private theorem exists_of_shelfFacts {α : Type} {facts : Renderer → Assembly → α} {x : α}
    (h : shelfFacts facts = some x) :
    ∃ model r, shelfResolver.resolve shelf = .ok model ∧ facts r ⟨model, {}, {}⟩ = x := by
  simp only [shelfFacts, Option.bind_eq_bind, Option.bind_eq_some_iff, Option.pure_def,
    Option.some.injEq, toOption_eq_some_iff] at h
  obtain ⟨model, hmodel, r, -, h⟩ := h
  exact ⟨model, r, hmodel, h⟩

/-- The identifier of a shelf is a triple of its three entities, with a builder for each of them. -/
theorem shelf_adapter_follows_codec :
    ∃ (model : Model) (r : Renderer) (text : String) (tokens : Tokens),
      shelfResolver.resolve shelf = .ok model ∧
      let a : Assembly := ⟨model, {}, {}⟩
      r.source a.idAdapterSpec = .ok text ∧ r.artifact a.idAdapterSpec = .ok tokens ∧
      Renderer.fileText tokens = .ok text ∧ r.inCodec ["Triple"] ++ shelfEntities <:+: tokens ∧
      ∃ p : Renderer.AdapterParts, p.entities.length = 3 ∧
        Renderer.aliasDeclaration p.aliasName (Phrase.applied (r.inCodec ["Triple"]) p.entities) <:+:
          tokens ∧
        r.decodeCall p.aliasName p.entities <:+: tokens := by
  have hfacts : shelfFacts (fun r a => decide
      ((∃ tokens ∈ (r.artifact a.idAdapterSpec).toOption,
        r.inCodec ["Triple"] ++ shelfEntities <:+: tokens) ∧
      (r.source a.idAdapterSpec).toOption.isSome)) = some true := by
    decide +kernel
  obtain ⟨model, r, hmodel, hfacts⟩ := exists_of_shelfFacts hfacts
  obtain ⟨⟨tokens, htokens, htriple⟩, hsource⟩ := of_decide_eq_true hfacts
  obtain ⟨text, htext⟩ := Option.isSome_iff_exists.mp hsource
  have htokens := toOption_eq_some_iff.mp htokens
  have htext := toOption_eq_some_iff.mp htext
  obtain ⟨arity, slots, typeName, hcount, htype, -, -, hrendered, hread⟩ :=
    composite_adapter_follows_codec hmodel rfl rfl {} {} r
  obtain rfl : arity = .three := by
    cases arity with
    | three => rfl
    | two => cases hcount
    | four => cases hcount
  obtain ⟨p, -, hlength, hall⟩ := hrendered tokens htokens
  obtain ⟨tokens', htokens', hfile⟩ := hread text htext
  obtain rfl : tokens = tokens' := Except.ok.inj (htokens.symm.trans htokens')
  generalize slots.map CodecSlot.slot = slotNames at htype
  cases htype
  refine ⟨model, r, text, tokens, hmodel, htext, htokens, hfile, htriple, p, hlength, ?_, ?_⟩
  · rw [hall]
    exact Renderer.alias_infix_compositeAdapter "Triple" p
  · rw [hall]
    exact Renderer.decodeCall_infix_compositeAdapter "Triple" p

end Resolver

end CrudScaffold
