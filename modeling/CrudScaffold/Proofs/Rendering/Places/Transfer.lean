import CrudScaffold.Proofs.Rendering.Template
import CrudScaffold.Rendering.Transfer

/-!
# DTOs and mappers follow templates

The type of every member is a place of the names in it, and a mapping has places for the model, the
DTO, the identifier adapter and the mappers that carry fields over.
-/

namespace CrudScaffold.Renderer

open Code Code.Token

variable (r : Renderer)

/-! ## DTOs -/

private theorem memberAttributes_rename (σ : QualifiedName → QualifiedName) (t : TypeRef) :
    memberAttributes (t.rename σ) = memberAttributes t := by
  cases t <;> rfl

private theorem templated_dtoField (f : FieldMember) :
    r.Templated fun w =>
      RenderedField.tokens <$> (r.under w).dtoField { f with type := f.type.rename w.rename } := by
  simp only [dtoField, map_bind]
  refine .after fun name => ?_
  simpa [memberAttributes_rename, RenderedField.tokens] using (templated_type r f.type).map
    (fun type => RenderedField.tokens ⟨memberAttributes f.type, name, type⟩)
    (memberAttributes f.type ++ word "pub" ++ name ++ op ":") (op ",") fun type => rfl

/-- DTOs follow a template. -/
theorem templated_dto (s : Spec) :
    r.Templated fun w => (r.under w).dto (s.rename w.rename) := by
  simp only [dto, dtoFields, Spec.name_rename, Spec.doc_rename, Spec.fields_rename, List.mapM_map]
  refine .after fun name => ?_
  obtain ⟨fs, hfs⟩ := eachTemplated_map_mapM s.fields RenderedField.tokens fun f _ =>
    templated_dtoField r f
  refine ⟨.fixed (doc s.doc ++ dtoTraits ++ word "pub" ++ word "struct" ++ name ++
    [.opening .brace]) ++ fs.flatten ++ .fixed [.closing .brace], fun w tokens h => ?_⟩
  obtain ⟨fields, hfields, h⟩ := bind_eq_ok_iff.mp h
  cases h
  have hparts := hfs w _ (map_eq_ok_iff.mpr ⟨fields, hfields, rfl⟩)
  simp [fill_append, ok_bind, fill_flatten hparts, Phrase.braced, enclose]

/-! ## Mappers -/

/-- A helper takes the function of a mapper besides the value that is carried over. -/
theorem templated_helper (helperName function : String) (source back : Tokens)
    (mapper : QualifiedName) :
    r.Templated fun w =>
      (fun m => r.helper helperName [Phrase.refer source, associated m function] ++ back) <$>
        (r.under w).named (w.rename mapper) := by
  refine (templated_named r mapper).map _
    (r.inRuntime ["mapping", helperName] ++ .opening .paren :: (Phrase.refer source ++ op ","))
    (op "::" ++ word function ++ .closing .paren :: back) fun m => ?_
  simp [helper, associated, Phrase.call, Phrase.qualified, segmentsTokens, commas, enclose]

private theorem helper_under (w : Wording) : (r.under w).helper = r.helper := rfl

private theorem templated_shown (c : Conversion) (source : Tokens) :
    r.Templated fun w => (r.under w).shown (c.rename w.rename) source := by
  cases c with
  | direct => exact .const (r.shown .direct source)
  | reference => exact .const (r.shown .reference source)
  | referenceList => exact .const (r.shown .referenceList source)
  | embed mapper =>
    simpa [shown, Conversion.rename, helper_under] using
      templated_helper r "embed" "to_dto" source [] mapper
  | embedList mapper =>
    simpa [shown, Conversion.rename, helper_under] using
      templated_helper r "embed_all" "to_dto" source [] mapper

private theorem templated_taken (c : Conversion) (source : Tokens) :
    r.Templated fun w => (r.under w).taken (c.rename w.rename) source := by
  cases c with
  | direct => exact .const (r.taken .direct source)
  | reference => exact .const (r.taken .reference source)
  | referenceList => exact .const (r.taken .referenceList source)
  | embed mapper =>
    simpa [taken, Conversion.rename, helper_under] using
      templated_helper r "unembed" "to_model" source (op "?") mapper
  | embedList mapper =>
    simpa [taken, Conversion.rename, helper_under] using
      templated_helper r "unembed_all" "to_model" source (op "?") mapper

private theorem templated_shownField (c : FieldCopy) :
    r.Templated fun w =>
      (r.under w).shownField { c with conversion := c.conversion.rename w.rename } := by
  simp only [shownField]
  refine .after fun field => ?_
  simpa using (templated_shown r c.conversion (fieldOf "model" field)).map
    (field ++ op ":" ++ ·) (field ++ op ":") [] fun value => by simp

private theorem templated_assignedField (c : FieldCopy) :
    r.Templated fun w =>
      (r.under w).assignedField { c with conversion := c.conversion.rename w.rename } := by
  simp only [assignedField]
  refine .after fun field => ?_
  simpa using (templated_taken r c.conversion (fieldOf "dto" field)).map
    (fieldOf "model" field ++ op "=" ++ · ++ op ";") (fieldOf "model" field ++ op "=") (op ";")
    fun value => rfl

private theorem templated_assignments (m : Mapping) :
    r.Templated fun w =>
      (r.under w).named (w.rename m.idAdapter) >>= (r.under w).assignments (m.rename w.rename) := by
  obtain ⟨i, hi⟩ := templated_name r m.idField
  obtain ⟨a, ha⟩ := templated_named r m.idAdapter
  obtain ⟨fs, hfs⟩ := eachTemplated_mapM m.copies fun c _ => templated_assignedField r c
  refine ⟨.fixed (word "if" ++ word "let" ++ Phrase.call (word "Some") [word "raw"] ++ op "=" ++
    word "dto" ++ op ".") ++ i ++ .fixed (op "." ++ word "as_deref" ++ enclose .paren [] ++
    .opening .brace :: (word "model" ++ op ".")) ++ i ++ .fixed (op "=") ++ a ++
    .fixed (op "::" ++ word "decode" ++ enclose .paren (word "raw") ++ op "?" ++ op ";" ++
    [.closing .brace]) ++ fs.flatten, fun w tokens h => ?_⟩
  obtain ⟨adapter, hadapter, h⟩ := bind_eq_ok_iff.mp h
  obtain ⟨id, hid, h⟩ := bind_eq_ok_iff.mp h
  obtain ⟨fields, hfields, h⟩ := bind_eq_ok_iff.mp h
  cases h
  simp only [Mapping.rename, List.mapM_map] at hid hfields
  simp [fill_append, ok_bind, hi w id hid, ha w adapter hadapter,
    fill_flatten (hfs w fields hfields), assignedId, fieldOf, associated, Phrase.method,
    Phrase.call, Phrase.member, Phrase.braced, Phrase.qualified, segmentsTokens, commas, enclose]

private theorem templated_mappingBody (m : Mapping) :
    r.Templated fun w =>
      (r.under w).named (w.rename m.model) >>= fun model =>
      (r.under w).named (w.rename m.idAdapter) >>= fun adapter =>
      name m.idField >>= fun id =>
      (r.under w).mappingBody (m.rename w.rename) model adapter id := by
  obtain ⟨mt, hmt⟩ := templated_named r m.model
  obtain ⟨a, ha⟩ := templated_named r m.idAdapter
  obtain ⟨i, hi⟩ := templated_name r m.idField
  obtain ⟨as, has⟩ := templated_assignments r m
  -- A DTO is built in one expression; a model, new or given, is assigned field by field.
  cases hdirection : m.direction with
  | toDto =>
    obtain ⟨d, hd⟩ := templated_named r m.dto
    obtain ⟨cs, hcs⟩ := eachTemplated_mapM m.copies fun c _ => templated_shownField r c
    let encoded : Template := i ++ .fixed (op ":") ++ a ++ .fixed (op "::" ++ word "encode" ++
      .opening .paren :: (op "&" ++ word "model" ++ op ".")) ++ i ++ .fixed [.closing .paren]
    refine ⟨d ++ .fixed [.opening .brace] ++ .commas true (encoded :: cs) ++
      .fixed [.closing .brace], fun w tokens h => ?_⟩
    obtain ⟨model, -, h⟩ := bind_eq_ok_iff.mp h
    obtain ⟨adapter, hadapter, h⟩ := bind_eq_ok_iff.mp h
    obtain ⟨id, hid, h⟩ := bind_eq_ok_iff.mp h
    simp only [mappingBody, Mapping.rename, hdirection, List.mapM_map] at h
    obtain ⟨dto, hdto, h⟩ := bind_eq_ok_iff.mp h
    obtain ⟨copies, hcopies, h⟩ := bind_eq_ok_iff.mp h
    cases h
    have hencoded : r.fill w encoded = .ok (id ++ op ":" ++
        Phrase.call (associated adapter "encode") [Phrase.refer (fieldOf "model" id)]) := by
      simp [encoded, fill_append, ok_bind, hi w id hid, ha w adapter hadapter, associated, fieldOf,
        Phrase.call, Phrase.qualified, Phrase.refer, segmentsTokens, commas, enclose]
    have hall := fill_commas true (fillEach_cons_eq_ok hencoded (hcs w copies hcopies))
    simp [fill_append, ok_bind, hd w dto hdto, hall, Phrase.braced, enclose]
  | toModel =>
    refine ⟨.fixed (word "let" ++ word "mut" ++ word "model" ++ op "=" ++ op "<") ++ mt ++
      .fixed (word "as" ++ op "::" ++ Phrase.namePath ["core", "default", "Default"] ++ op ">" ++
      op "::" ++ Phrase.call (word "default") [] ++ op ";") ++ as ++
      .fixed (succeed (word "model")), fun w tokens h => ?_⟩
    obtain ⟨model, hmodel, h⟩ := bind_eq_ok_iff.mp h
    obtain ⟨adapter, hadapter, h⟩ := bind_eq_ok_iff.mp h
    obtain ⟨id, -, h⟩ := bind_eq_ok_iff.mp h
    simp only [mappingBody, Mapping.rename, hdirection] at h
    obtain ⟨body, hbody, h⟩ := bind_eq_ok_iff.mp h
    cases h
    have hassigned := has w body (bind_eq_ok_iff.mpr ⟨adapter, hadapter, hbody⟩)
    simp [fill_append, ok_bind, hmt w model hmodel, hassigned]
  | ontoModel =>
    refine ⟨as ++ .fixed (succeed (enclose .paren [])), fun w tokens h => ?_⟩
    obtain ⟨model, -, h⟩ := bind_eq_ok_iff.mp h
    obtain ⟨adapter, hadapter, h⟩ := bind_eq_ok_iff.mp h
    obtain ⟨id, -, h⟩ := bind_eq_ok_iff.mp h
    simp only [mappingBody, Mapping.rename, hdirection] at h
    obtain ⟨body, hbody, h⟩ := bind_eq_ok_iff.mp h
    cases h
    have hassigned := has w body (bind_eq_ok_iff.mpr ⟨adapter, hadapter, hbody⟩)
    simp [fill_append, ok_bind, hassigned]

private theorem templated_mapperFunction (o : Operation) :
    r.Templated fun w => (r.under w).mapperFunction (o.rename w.rename) := by
  cases hbody : o.body with
  | map m =>
    obtain ⟨t, ht⟩ := templated_signature r false o
    obtain ⟨b, hb⟩ := templated_mappingBody r m
    refine ⟨.fixed (operationDoc o) ++ .publicFunction t b, fun w tokens h => ?_⟩
    simp only [mapperFunction, Operation.rename, hbody, OperationBody.rename] at h
    obtain ⟨signature, hsignature, h⟩ := bind_eq_ok_iff.mp h
    obtain ⟨model, hmodel, h⟩ := bind_eq_ok_iff.mp h
    obtain ⟨adapter, hadapter, h⟩ := bind_eq_ok_iff.mp h
    obtain ⟨id, hid, h⟩ := bind_eq_ok_iff.mp h
    obtain ⟨body, hmapped, h⟩ := bind_eq_ok_iff.mp h
    cases h
    have hfilled := hb w body <| bind_eq_ok_iff.mpr ⟨model, hmodel,
      bind_eq_ok_iff.mpr ⟨adapter, hadapter, bind_eq_ok_iff.mpr ⟨id, hid, hmapped⟩⟩⟩
    have hsigned := ht w signature (by simpa [Operation.rename, hbody])
    have hfunction := fill_publicFunction hsigned hfilled
    simp [fill_append, ok_bind, hfunction, operationDoc]
  | abstract | query | persist | delegate | codec | predicate | handle =>
    simp only [mapperFunction, Operation.rename, hbody, OperationBody.rename]
    exact .const _

/-- Mappers follow a template. -/
theorem templated_mapper (s : Spec) :
    r.Templated fun w => (r.under w).mapper (s.rename w.rename) := by
  simp only [mapper, Spec.name_rename, Spec.doc_rename, Spec.operations_rename, List.mapM_map]
  refine .after fun name => ?_
  obtain ⟨fs, hfs⟩ := eachTemplated_mapM s.operations fun o _ => templated_mapperFunction r o
  refine ⟨.fixed (doc s.doc ++ unitStruct name) ++ .unitImpl name fs, fun w tokens h => ?_⟩
  obtain ⟨functions, hfunctions, h⟩ := bind_eq_ok_iff.mp h
  cases h
  simp [fill_append, ok_bind, fill_unitImpl name (hfs w functions hfunctions)]

end CrudScaffold.Renderer
