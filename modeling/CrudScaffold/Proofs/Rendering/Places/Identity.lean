import CrudScaffold.Proofs.Rendering.Template
import CrudScaffold.Rendering.Identity

/-!
# Identifier adapters follow templates

The entity of every slot has two places: in the type of the identifier, and where it is read.
-/

namespace CrudScaffold.Renderer

open Code Code.Token

variable (r : Renderer)

/-- The type of an identifier and the code that reads it follow templates, the code that writes it has
no places. -/
theorem exists_templates_identifierCode (aliasName : Tokens) (c : CodecContract) :
    ∃ (type decode : Template) (encode : Tokens), ∀ (w : Wording) code,
      (r.under w).identifierCode aliasName (c.rename w.rename) = .ok code →
      r.fill w type = .ok code.type ∧ r.fill w decode = .ok code.decode ∧ code.encode = encode := by
  cases c with
  | scalar idType =>
    obtain ⟨t, ht⟩ := templated_type r (.declared idType)
    refine ⟨t, .fixed (r.scalarCode aliasName []).decode, (r.scalarCode aliasName []).encode,
      fun w code h => ?_⟩
    obtain ⟨type, htype, rfl⟩ := map_eq_ok_iff.mp h
    exact ⟨ht w type htype, fill_fixed _, rfl⟩
  | composite separator arity slots =>
    obtain ⟨es, hes⟩ := eachTemplated_mapM slots fun s _ =>
      templated_named r s.entity
    obtain ⟨bs, hbs⟩ := eachTemplated_map_mapM slots r.componentBuilder
      fun s _ => (templated_named r s.entity).map _ (op "<")
        (word "as" ++ r.inCodec ["FromIdentifier"] ++ op ">" ++ op "::" ++ word "from_identifier")
        fun entity => by simp [componentBuilder]
    refine ⟨.fixed (r.inCodec [compositeName arity] ++ op "<") ++ .commas false es ++ .fixed (op ">"),
      .fixed (aliasName ++ op "::" ++ word "decode_with" ++ [.opening .paren]) ++
        .commas false (.fixed (word "raw") :: bs) ++ .fixed [.closing .paren],
      Phrase.method (word "id") "encode" [], fun w code h => ?_⟩
    simp only [identifierCode, CodecContract.rename, List.mapM_map] at h
    obtain ⟨entities, hentities, h⟩ := bind_eq_ok_iff.mp h
    cases h
    have htypes := fill_commas false (hes w entities hentities)
    have hbuilders := fill_commas false <| fillEach_cons_eq_ok (fill_fixed (word "raw"))
      (hbs w _ (map_eq_ok_iff.mpr ⟨entities, hentities, rfl⟩))
    have hunder : (r.under w).componentBuilder = r.componentBuilder := rfl
    refine ⟨?_, ?_, rfl⟩
    · simp [fill_append, ok_bind, htypes, compositeCode, under_inCodec, Phrase.applied, Phrase.angled]
    · simp [fill_append, ok_bind, hbuilders, compositeCode, hunder, Phrase.qualified, Phrase.call,
        segmentsTokens, enclose]

private theorem templated_adapterFunction (aliasName : Tokens) (c : CodecContract) (o : Operation) :
    r.Templated fun w =>
      (r.under w).identifierCode aliasName (c.rename w.rename) >>= fun code =>
      (r.under w).adapterFunction code (o.rename w.rename) := by
  obtain ⟨_, d, encode, hcodes⟩ := exists_templates_identifierCode r aliasName c
  obtain ⟨t, ht⟩ := templated_signature r false o
  simp only [adapterFunction]
  cases hbody : o.body with
  | codec operation =>
    refine ⟨.publicFunction t (match operation with | .encode => .fixed encode | .decode => d),
      fun w tokens h => ?_⟩
    obtain ⟨code, hcode, h⟩ := bind_eq_ok_iff.mp h
    obtain ⟨-, hdecode, rfl⟩ := hcodes w code hcode
    obtain ⟨signature, hsignature, h⟩ := bind_eq_ok_iff.mp h
    simp only [Operation.rename, hbody, OperationBody.rename] at h
    have hsignature := ht w signature hsignature
    cases operation with
    | encode =>
      cases h
      exact fill_publicFunction hsignature (fill_fixed _)
    | decode =>
      cases h
      exact fill_publicFunction hsignature hdecode
  | abstract | query | persist | delegate | map | predicate | handle =>
    refine ⟨[], fun w tokens h => ?_⟩
    obtain ⟨code, -, h⟩ := bind_eq_ok_iff.mp h
    obtain ⟨signature, -, h⟩ := bind_eq_ok_iff.mp h
    simp only [Operation.rename, hbody, OperationBody.rename] at h
    cases h

/-- Identifier adapters follow a template. -/
theorem templated_idAdapter (s : Spec) :
    r.Templated fun w => (r.under w).idAdapter (s.rename w.rename) := by
  simp only [idAdapter, Spec.name_rename, Spec.doc_rename, Spec.source_rename,
    Spec.identifier?_rename, Spec.operations_rename, List.mapM_map]
  refine .after fun name => ?_
  cases s.identifier? with
  | none => exact .const _
  | some contract =>
    simp only [Option.map_some]
    refine .after fun aliasName => ?_
    obtain ⟨t, _, _, hcodes⟩ := exists_templates_identifierCode r aliasName contract.codec
    obtain ⟨fs, hfs⟩ := eachTemplated_mapM s.operations fun o _ =>
      templated_adapterFunction r aliasName contract.codec o
    refine ⟨.fixed (Phrase.docLine s!" Identifier of [`{s.source.name}`]." ++ word "pub" ++
      word "type" ++ aliasName ++ op "=") ++ t ++ .fixed (op ";" ++ doc s.doc ++ unitStruct name) ++
      .unitImpl name fs, fun w tokens h => ?_⟩
    obtain ⟨code, hcode, h⟩ := bind_eq_ok_iff.mp h
    obtain ⟨functions, hfunctions, h⟩ := bind_eq_ok_iff.mp h
    cases h
    have hfilled := hfs w functions <| by
      simp only [hcode, ok_bind]
      exact hfunctions
    simp [fill_append, ok_bind, (hcodes w code hcode).1, fill_unitImpl name hfilled]

end CrudScaffold.Renderer
