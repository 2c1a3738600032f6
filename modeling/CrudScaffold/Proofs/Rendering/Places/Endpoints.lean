import CrudScaffold.Proofs.Rendering.Template
import CrudScaffold.Rendering.Endpoints

/-!
# Controllers follow templates

A handler has places for the identifier adapter and for its mapper. The route table has none.
-/

namespace CrudScaffold.Renderer

open Code Code.Token

variable (r : Renderer)

/-- The template of the statement that decodes the identifier. -/
def decodeTemplate (adapter : Template) : Template :=
  .fixed (word "let" ++ word "id" ++ op "=") ++ adapter ++
    .fixed (op "::" ++ word "decode" ++ enclose .paren (word "id") ++ op "?" ++ op ";")

/-- The template of a value that goes through the mapper, if there is one. -/
def convertTemplate (function : String) (value back : Tokens) : Option Template → Template
  | some m => m ++ .fixed (op "::" ++ word function ++ enclose .paren (op "&" ++ value) ++ back)
  | none => .fixed value

/-- The template of a value that is shown inside whatever holds it. -/
def mapEachTemplate (container : Template) (mapper : Option Template) (value : String) : Template :=
  container ++ .fixed (op "." ++ word "map" ++ .opening .paren :: (op "|" ++ word value ++ op "|")) ++
    convertTemplate "to_dto" (word value) [] mapper ++ .fixed [.closing .paren]

/-- The template of the call of the service. -/
def callTemplate (operation : Template) (shape : HandlerShape) : Template :=
  .fixed (Phrase.member (word "self") "service" ++ op ".") ++ operation ++
    .fixed (enclose .paren (commas false (serviceArgs shape)))

/-- The template of what the service answers, with its failures passed on. -/
def answerTemplate (called : Template) : Template := called ++ .fixed (op "?")

/-- The template of a result that is given out. -/
def okTemplate (value : Template) : Template :=
  .fixed (word "Ok" ++ [.opening .paren]) ++ value ++ .fixed [.closing .paren]

section

variable {r : Renderer} {w : Wording} {c : Converters} {s : Template}
  {m : Option Template} {mapper : Option Tokens} {tokens : Tokens}

private theorem fill_decodeId (h : r.fill w s = .ok c.adapter) :
    r.fill w (decodeTemplate s) = .ok (decodeId c) := by
  simp [decodeTemplate, decodeId, fill_append, ok_bind, h, Phrase.bind, Phrase.call,
    Phrase.qualified, segmentsTokens, commas]

private theorem fill_showWith (value : String) (h : m.mapM (r.fill w) = .ok mapper) :
    r.fill w (convertTemplate "to_dto" (word value) [] m) = .ok (showWith mapper value) := by
  cases m with
  | none =>
    cases h
    exact fill_fixed _
  | some t =>
    obtain ⟨type, htype, rfl⟩ := map_eq_ok_iff.mp h
    simp [convertTemplate, showWith, fill_append, ok_bind, htype, Phrase.call, Phrase.qualified,
      Phrase.refer, segmentsTokens, commas]

private theorem fill_takeBody (h : m.mapM (r.fill w) = .ok c.mapper) :
    r.fill w (convertTemplate "to_model" (word "body") (op "?") m) = .ok (takeBody c) := by
  unfold takeBody
  cases m with
  | none =>
    cases hmapper : c.mapper with
    | none => exact fill_fixed _
    | some type =>
      rw [hmapper] at h
      cases h
  | some t =>
    obtain ⟨type, htype, hmapper⟩ := map_eq_ok_iff.mp h
    rw [← hmapper]
    simp [convertTemplate, fill_append, ok_bind, htype, Phrase.call, Phrase.qualified, Phrase.refer,
      segmentsTokens, commas]

private theorem fill_mapEach (value : String) (hs : r.fill w s = .ok tokens)
    (h : m.mapM (r.fill w) = .ok mapper) :
    r.fill w (mapEachTemplate s m value) = .ok (mapEach tokens mapper value) := by
  simp [mapEachTemplate, mapEach, fill_append, ok_bind, hs, fill_showWith value h, Phrase.method,
    Phrase.call, Phrase.member, Phrase.closure, commas, enclose]

private theorem fill_serviceCall (shape : HandlerShape) (h : r.fill w s = .ok tokens) :
    r.fill w (callTemplate s shape) = .ok (serviceCall tokens shape) := by
  simp [callTemplate, serviceCall, fill_append, ok_bind, h, Phrase.call]

private theorem fill_answer (h : r.fill w s = .ok tokens) :
    r.fill w (answerTemplate s) = .ok (tokens ++ op "?") :=
  fill_append_eq_ok h (fill_fixed _)

private theorem fill_ok (h : r.fill w s = .ok tokens) :
    r.fill w (okTemplate s) = .ok (Phrase.call (word "Ok") [tokens]) := by
  simp [okTemplate, fill_append, ok_bind, h, Phrase.call, commas, enclose]

end

/-- The converters of a controller, from its dependencies. -/
def convertersOf (s : Spec) : Rendered Converters := do
  let adapter ← r.required s .idAdapter
  let mapper ← r.dependencyType? s .mapper
  return ⟨adapter, mapper⟩

/-- The code of a handler follows a template if it does so for templates of the converters and of the
call of the service. -/
theorem templated_withCall (s : Spec) (operation : String) (shape : HandlerShape)
    {rest : Wording → Converters → Tokens → Rendered Tokens}
    (h : ∀ (a : Template) (m : Option Template) (called : Template), ∃ t : Template,
      ∀ (w : Wording) c operation tokens, r.fill w a = .ok c.adapter →
        m.mapM (r.fill w) = .ok c.mapper →
        r.fill w called = .ok (serviceCall operation shape) →
        rest w c operation = .ok tokens → r.fill w t = .ok tokens) :
    r.Templated fun w => (r.under w).convertersOf (s.rename w.rename) >>= fun c =>
      name operation >>= rest w c := by
  obtain ⟨a, ha⟩ := templated_required r s .idAdapter
  obtain ⟨m, hm⟩ := maybeTemplated_dependencyType? r s .mapper
  obtain ⟨n, hn⟩ := templated_name r operation
  obtain ⟨t, ht⟩ := h a m (callTemplate n shape)
  refine ⟨t, fun w tokens h => ?_⟩
  obtain ⟨c, hc, h⟩ := bind_eq_ok_iff.mp h
  obtain ⟨adapter, hadapter, hc⟩ := bind_eq_ok_iff.mp hc
  obtain ⟨mapper, hmapper, hc⟩ := bind_eq_ok_iff.mp hc
  cases hc
  obtain ⟨operation, hoperation, h⟩ := bind_eq_ok_iff.mp h
  exact ht w ⟨adapter, mapper⟩ operation tokens (ha w adapter hadapter) (hm w mapper hmapper)
    (fill_serviceCall shape (hn w operation hoperation)) h

private theorem templated_handlerBody (s : Spec) (h : Handler) :
    r.Templated fun w =>
      (r.under w).convertersOf (s.rename w.rename) >>= fun c =>
      (r.under w).handlerBody c { h with shape := h.shape.rename w.rename } := by
  obtain ⟨shape, serviceOperation⟩ := h
  refine templated_withCall r s serviceOperation shape fun a m called => ?_
  cases shape with
  | getById =>
    refine ⟨decodeTemplate a ++ okTemplate (mapEachTemplate (answerTemplate called) m "found"),
      fun w c operation tokens ha hm hcalled h => ?_⟩
    cases h
    exact fill_append_eq_ok (fill_decodeId ha)
      (fill_ok (fill_mapEach "found" (fill_answer hcalled) hm))
  | list =>
    let each : Tokens := op "." ++ word "into_iter" ++ enclose .paren []
    refine ⟨okTemplate (mapEachTemplate (answerTemplate called ++ .fixed each) m "found" ++
        .fixed (op "." ++ word "collect" ++ enclose .paren [])),
      fun w c operation tokens ha hm hcalled h => ?_⟩
    cases h
    have heach := fill_append_eq_ok (fill_answer hcalled) (fill_fixed each)
    have hall := fill_ok (fill_append_eq_ok (fill_mapEach "found" heach hm)
      (fill_fixed (op "." ++ word "collect" ++ enclose .paren [])))
    simpa [each, HandlerShape.rename, Phrase.method, Phrase.call, Phrase.member, commas] using hall
  | count =>
    refine ⟨called, fun w c operation tokens ha hm hcalled h => ?_⟩
    cases h
    exact hcalled
  | «exists» | delete =>
    refine ⟨decodeTemplate a ++ called, fun w c operation tokens ha hm hcalled h => ?_⟩
    cases h
    exact fill_append_eq_ok (fill_decodeId ha) hcalled
  | create =>
    refine ⟨.fixed (word "let" ++ word "entity" ++ op "=") ++
        convertTemplate "to_model" (word "body") (op "?") m ++
        .fixed (op ";" ++ word "let" ++ word "saved" ++ op "=") ++ answerTemplate called ++
        .fixed (op ";") ++ okTemplate (convertTemplate "to_dto" (word "saved") [] m),
      fun w c operation tokens ha hm hcalled h => ?_⟩
    cases h
    have hshown := fill_ok (fill_showWith "saved" hm)
    simp [fill_append, ok_bind, fill_takeBody hm, fill_answer hcalled, hshown, HandlerShape.rename,
      Phrase.bind]
  | patch =>
    refine ⟨decodeTemplate a ++ .fixed (word "let" ++ word "delta" ++ op "=") ++
        convertTemplate "to_model" (word "body") (op "?") m ++ .fixed (op ";") ++
        okTemplate (mapEachTemplate (answerTemplate called) m "patched"),
      fun w c operation tokens ha hm hcalled h => ?_⟩
    cases h
    have hshown := fill_ok (fill_mapEach "patched" (fill_answer hcalled) hm)
    simp [fill_append, ok_bind, fill_decodeId ha, fill_takeBody hm, hshown, HandlerShape.rename,
      Phrase.bind]
  | related mapper =>
    -- What is related has a mapper of its own, which is named in the handler and no dependency.
    cases mapper with
    | none =>
      refine ⟨decodeTemplate a ++ okTemplate (mapEachTemplate (answerTemplate called) none "related"),
        fun w c operation tokens ha hm hcalled h => ?_⟩
      cases h
      exact fill_append_eq_ok (fill_decodeId ha)
        (fill_ok (fill_mapEach "related" (fill_answer hcalled) rfl))
    | some mapper =>
      obtain ⟨t, ht⟩ := templated_named r mapper
      refine ⟨decodeTemplate a ++
          okTemplate (mapEachTemplate (answerTemplate called) (some t) "related"),
        fun w c operation tokens ha hm hcalled h => ?_⟩
      obtain ⟨related, hrelated, h⟩ := bind_eq_ok_iff.mp h
      obtain ⟨type, htype, rfl⟩ := map_eq_ok_iff.mp hrelated
      cases h
      have hmapper : (some t).mapM (r.fill w) = .ok (some type) := by simp [ht w type htype]
      exact fill_append_eq_ok (fill_decodeId ha)
        (fill_ok (fill_mapEach "related" (fill_answer hcalled) hmapper))

/-! ## Controllers -/

private theorem basePath_rename (σ : QualifiedName → QualifiedName) (s : Spec) :
    basePath (s.rename σ) = basePath s := by
  rw [basePath, basePath, Spec.constants_rename]

/-- A handler and its entry in the route table, from the dependencies of the controller. -/
def endpointOf (s : Spec) (o : Operation) : Rendered (Tokens × Tokens) := do
  let c ← r.convertersOf s
  r.endpoint s c o

/-- The entry of a handler in the route table has no places, the handler itself follows a template. -/
theorem exists_template_endpointOf (s : Spec) (o : Operation) :
    ∃ (entry : Tokens) (t : Template), ∀ (w : Wording) both,
      (r.under w).endpointOf (s.rename w.rename) (o.rename w.rename) = .ok both →
      both.1 = entry ∧ r.fill w t = .ok both.2 := by
  obtain ⟨t, ht⟩ := templated_signature r true o
  obtain ⟨text, params, returns, failure, body, route, about⟩ := o
  cases body with
  | handle h =>
    cases route with
    | none =>
      refine ⟨[], [], fun w both hboth => ?_⟩
      obtain ⟨c, -, hboth⟩ := bind_eq_ok_iff.mp hboth
      cases hboth
    | some route =>
      obtain ⟨b, hb⟩ := templated_handlerBody r s h
      let path := basePath s ++ route.path
      refine ⟨enclose .paren (commas false
          [Phrase.text route.method.text, Phrase.text path, Phrase.text text]),
        .fixed (Phrase.docLine s!" `{route.method.text} {path}`") ++ .publicFunction t b,
        fun w both hboth => ?_⟩
      obtain ⟨c, hc, hboth⟩ := bind_eq_ok_iff.mp hboth
      simp only [endpoint, Operation.rename, OperationBody.rename, basePath_rename] at hboth
      obtain ⟨signature, hsignature, hboth⟩ := bind_eq_ok_iff.mp hboth
      obtain ⟨body, hbody, hboth⟩ := bind_eq_ok_iff.mp hboth
      cases hboth
      have hbody := hb w body (bind_eq_ok_iff.mpr ⟨c, hc, hbody⟩)
      exact ⟨rfl, fill_append_eq_ok (fill_fixed _)
        (fill_publicFunction (ht w signature hsignature) hbody)⟩
  | abstract | query | persist | delegate | map | codec | predicate =>
    refine ⟨[], [], fun w both hboth => ?_⟩
    obtain ⟨c, -, hboth⟩ := bind_eq_ok_iff.mp hboth
    cases hboth

private theorem eachTemplated_entries (s : Spec) :
    r.EachTemplated fun w => List.map Prod.fst <$>
      s.operations.mapM fun o => (r.under w).endpointOf (s.rename w.rename) (o.rename w.rename) := by
  refine eachTemplated_map_mapM s.operations Prod.fst fun o _ => ?_
  obtain ⟨entry, t, h⟩ := exists_template_endpointOf r s o
  refine ⟨.fixed entry, fun w tokens htokens => ?_⟩
  obtain ⟨both, hboth, rfl⟩ := map_eq_ok_iff.mp htokens
  rw [fill_fixed, (h w both hboth).1]

private theorem eachTemplated_handlers (s : Spec) :
    r.EachTemplated fun w => List.map Prod.snd <$>
      s.operations.mapM fun o => (r.under w).endpointOf (s.rename w.rename) (o.rename w.rename) := by
  refine eachTemplated_map_mapM s.operations Prod.snd fun o _ => ?_
  obtain ⟨entry, t, h⟩ := exists_template_endpointOf r s o
  refine ⟨t, fun w tokens htokens => ?_⟩
  obtain ⟨both, hboth, rfl⟩ := map_eq_ok_iff.mp htokens
  exact (h w both hboth).2

/-- The template of the route table. -/
def routeTableTemplate (entries : List Template) : Template :=
  let triple := enclose .paren (commas false [staticText, staticText, staticText])
  .fixed (Phrase.fixedDocLine " `(method, path, handler)` for every endpoint." ++
      word "pub" ++ word "const" ++ word "ROUTES" ++ op ":" ++ op "&" ++ [.lifetime "static"] ++
      enclose .bracket triple ++ op "=" ++ op "&" ++ [.opening .bracket]) ++
    .commas false entries ++ .fixed (.closing .bracket :: op ";")

private theorem fill_routeTable {r : Renderer} {w : Wording} {ts : List Template}
    {entries : List Tokens} (h : r.fillEach w ts = .ok entries) :
    r.fill w (routeTableTemplate ts) = .ok (routeTable entries) := by
  simp [routeTableTemplate, fill_append, ok_bind, fill_commas false h, routeTable, enclose]

/-- Controllers follow a template. -/
theorem templated_controller (s : Spec) :
    r.Templated fun w => (r.under w).controller (s.rename w.rename) := by
  simp only [controller, Spec.name_rename, Spec.doc_rename, Spec.operations_rename,
    Spec.constants_rename, List.mapM_map]
  refine .after fun name => ?_
  obtain ⟨i, hi⟩ := templated_required r s .service
  obtain ⟨cs, hcs⟩ := eachTemplated_mapM s.constants fun c _ =>
    (.const (constantItem c) : r.Templated fun _ => constantItem c)
  obtain ⟨b, hb⟩ := maybeTemplated_dependencyType? r s .base
  obtain ⟨es, hes⟩ := eachTemplated_entries r s
  obtain ⟨hs, hhs⟩ := eachTemplated_handlers r s
  let held : Template := .fixed (word "Svc")
  refine ⟨.fixed (doc s.doc) ++
    .genericStruct name "Svc" (.fixed (word "service" ++ op ":" ++ word "Svc" ++ op ",") ++
      .baseField true b) ++
    .genericImpl name "Svc" none []
      (cs.flatten ++ routeTableTemplate es ++ .constructor "service" held b) ++
    .genericImpl name "Svc" (some i) [] hs.flatten, fun w tokens h => ?_⟩
  obtain ⟨interface, hinterface, h⟩ := bind_eq_ok_iff.mp h
  obtain ⟨adapter, hadapter, h⟩ := bind_eq_ok_iff.mp h
  obtain ⟨mapper, hmapper, h⟩ := bind_eq_ok_iff.mp h
  obtain ⟨constants, hconstants, h⟩ := bind_eq_ok_iff.mp h
  obtain ⟨base, hbase, h⟩ := bind_eq_ok_iff.mp h
  obtain ⟨both, hboth, h⟩ := bind_eq_ok_iff.mp h
  cases h
  have hbase := hb w base hbase
  have hendpoints : (s.operations.mapM fun o =>
      (r.under w).endpointOf (s.rename w.rename) (o.rename w.rename)) = .ok both := by
    have hconverters : (r.under w).convertersOf (s.rename w.rename) = .ok ⟨adapter, mapper⟩ := by
      simp [convertersOf, hadapter, hmapper, ok_bind]
    simp only [endpointOf, hconverters, ok_bind]
    exact hboth
  have htable := fill_routeTable (hes w _ (map_eq_ok_iff.mpr ⟨both, hendpoints, rfl⟩))
  have hhandlers := fill_flatten (hhs w _ (map_eq_ok_iff.mpr ⟨both, hendpoints, rfl⟩))
  have hheld : r.fill w held = .ok (word "Svc") := fill_fixed _
  have hfields := fill_append_eq_ok (fill_fixed (word "service" ++ op ":" ++ word "Svc" ++ op ","))
    (fill_baseField true hbase)
  have hfunctions := fill_append_eq_ok (fill_append_eq_ok
    (fill_flatten (hcs w constants hconstants)) htable) (fill_constructor "service" hheld hbase)
  have hbound : (some i).mapM (r.fill w) = .ok (some interface) := by simp [hi w interface hinterface]
  exact fill_append_eq_ok (fill_append_eq_ok (fill_append_eq_ok (fill_fixed _)
    (fill_genericStruct name "Svc" hfields)) (fill_genericImpl name "Svc" rfl fill_nil hfunctions))
    (fill_genericImpl name "Svc" hbound fill_nil hhandlers)

end CrudScaffold.Renderer
