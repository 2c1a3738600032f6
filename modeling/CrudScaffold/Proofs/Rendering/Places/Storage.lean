import CrudScaffold.Proofs.Rendering.Template
import CrudScaffold.Rendering.Storage

/-!
# Repositories and services follow templates

A query has places for the type that it starts from and for the target of a join, besides those of the
signature.
-/

namespace CrudScaffold.Renderer

open Code Code.Token

variable (r : Renderer)

/-! ## Repositories -/

mutual
/-- A fetch plan does not depend on the known types. -/
theorem plan_under (w : Wording) : ∀ graph, (r.under w).plan graph = r.plan graph
  | .node attributes subgraphs => by
    rw [plan, plan, subplans_under w subgraphs, under_inRuntime]

private theorem subplans_under (w : Wording) :
    ∀ subgraphs, (r.under w).subplans subgraphs = r.subplans subgraphs
  | [] => by rw [subplans, subplans]
  | (name, inner) :: rest => by
    rw [subplans, subplans, plan_under w inner, subplans_under w rest]
end

private theorem storeFunction?_rename (σ : QualifiedName → QualifiedName) (returns : Returns) :
    storeFunction? (returns.rename σ) = storeFunction? returns := by
  cases returns <;> rfl

/-- The template of a query. -/
def queryTemplate (root selection : Template) (notDisabled withPlan : Bool) : Template :=
  .fixed (r.inRuntime ["Query"] ++ op "::" ++ op "<") ++ root ++ .fixed (op ">" ++ op "::") ++
    selection ++ .fixed
      ((if notDisabled then op "." ++ Phrase.call (word "not_disabled") [] else []) ++
        if withPlan then
          op "." ++ Phrase.call (word "with_graph")
            [Phrase.call (Phrase.namePath ["Self", "entity_graph"]) []]
        else [])

private theorem fill_queryTemplate {w : Wording} {s t : Template} {root selection : Tokens}
    (notDisabled withPlan : Bool) (hs : r.fill w s = .ok root) (ht : r.fill w t = .ok selection) :
    r.fill w (r.queryTemplate s t notDisabled withPlan) =
      .ok (QueryCode.tokens r ⟨root, selection, notDisabled, withPlan⟩) := by
  simp [queryTemplate, QueryCode.tokens, fill_append, ok_bind, hs, ht, Phrase.turbofish,
    Phrase.angled, commas]

private theorem templated_query (own : QualifiedName) (hasPlan : Bool) (q : Query) :
    r.Templated fun w =>
      (r.under w).named own >>= fun model =>
      QueryCode.tokens r <$>
        (r.under w).queryCode model hasPlan { q with shape := q.shape.rename w.rename } := by
  obtain ⟨mt, hmt⟩ := templated_own r own
  obtain ⟨shape, notDisabled⟩ := q
  have hplain (selection : Tokens) (withPlan : Bool) : r.Templated fun w =>
      (r.under w).named own >>= fun model =>
      QueryCode.tokens r <$> Except.ok ⟨model, selection, notDisabled, withPlan⟩ := by
    refine ⟨r.queryTemplate mt (.fixed selection) notDisabled withPlan, fun w tokens h => ?_⟩
    obtain ⟨model, hmodel, h⟩ := bind_eq_ok_iff.mp h
    cases h
    exact fill_queryTemplate r notDisabled withPlan (hmt w model hmodel) (fill_fixed selection)
  cases shape with
  | byId => exact hplain selectById hasPlan
  | existsById => exact hplain selectById false
  | all => exact hplain selectAll hasPlan
  | count => exact hplain selectAll false
  | directEquality root reverseField reverseIsCollection =>
    obtain ⟨t, ht⟩ := templated_named r root
    let filter := if reverseIsCollection then "where_contains" else "where_related"
    let narrowed := Phrase.method selectAll filter [Phrase.text reverseField, word "id"]
    refine ⟨r.queryTemplate t (.fixed narrowed) false false, fun w tokens h => ?_⟩
    obtain ⟨model, -, h⟩ := bind_eq_ok_iff.mp h
    obtain ⟨code, hcode, rfl⟩ := map_eq_ok_iff.mp h
    obtain ⟨root', hroot, hcode⟩ := bind_eq_ok_iff.mp hcode
    cases hcode
    exact fill_queryTemplate r false false (ht w root' hroot) (fill_fixed narrowed)
  | join root joinField target =>
    obtain ⟨t, ht⟩ := templated_named r root
    obtain ⟨u, hu⟩ := templated_named r target
    let joined : Template := .fixed (Phrase.member selectById "join" ++ op "::" ++ op "<") ++ u ++
      .fixed (op ">" ++ enclose .paren (Phrase.text joinField))
    refine ⟨r.queryTemplate t joined notDisabled false, fun w tokens h => ?_⟩
    obtain ⟨model, -, h⟩ := bind_eq_ok_iff.mp h
    obtain ⟨code, hcode, rfl⟩ := map_eq_ok_iff.mp h
    obtain ⟨root', hroot, hcode⟩ := bind_eq_ok_iff.mp hcode
    obtain ⟨target', htarget, hcode⟩ := bind_eq_ok_iff.mp hcode
    cases hcode
    refine fill_queryTemplate r notDisabled false (ht w root' hroot) ?_
    simp [joined, fill_append, ok_bind, hu w target' htarget, Phrase.call, Phrase.turbofish,
      Phrase.angled, commas]

private theorem templated_queryBody (s : Spec) (hasPlan : Bool) (o : Operation) (q : Query) :
    r.Templated fun w =>
      (r.under w).queryBody (s.rename w.rename) hasPlan (o.rename w.rename)
        { q with shape := q.shape.rename w.rename } := by
  obtain ⟨t, ht⟩ := templated_query r s.source.name hasPlan q
  simp only [queryBody, Spec.source_rename, Operation.rename, storeFunction?_rename]
  cases storeFunction? o.returns with
  | none =>
    refine ⟨[], fun w tokens h => ?_⟩
    obtain ⟨model, -, h⟩ := bind_eq_ok_iff.mp h
    obtain ⟨code, -, h⟩ := bind_eq_ok_iff.mp h
    cases h
  | some function =>
    refine ⟨.fixed (Phrase.member store function ++ [.opening .paren]) ++ t ++
      .fixed [.closing .paren], fun w tokens h => ?_⟩
    obtain ⟨model, hmodel, h⟩ := bind_eq_ok_iff.mp h
    obtain ⟨code, hcode, h⟩ := bind_eq_ok_iff.mp h
    cases h
    have hquery := ht w (code.tokens r) <| bind_eq_ok_iff.mpr
      ⟨model, hmodel, map_eq_ok_iff.mpr ⟨code, hcode, rfl⟩⟩
    have hunder : code.tokens (r.under w) = code.tokens r := rfl
    simp [fill_append, ok_bind, hquery, hunder, Phrase.method, Phrase.call, commas, enclose]

private theorem templated_persistBody (s : Spec) (p : Persist) :
    r.Templated fun w => (r.under w).persistBody (s.rename w.rename) p := by
  obtain ⟨mt, hmt⟩ := templated_own r s.source.name
  have htyped (function : String) (args : List Tokens) : r.Templated fun w =>
      (fun model => Phrase.call (Phrase.turbofish (Phrase.member store function) [model]) args) <$>
        (r.under w).named s.source.name := by
    refine (templated_own r s.source.name).map _ (Phrase.member store function ++ op "::" ++ op "<")
      (op ">" ++ enclose .paren (commas false args)) fun model => ?_
    simp [Phrase.call, Phrase.turbofish, Phrase.angled, commas]
  have hplain (body : Tokens) : r.Templated fun w =>
      (fun _ => body) <$> (r.under w).named s.source.name := by
    refine ⟨.fixed body, fun w tokens h => ?_⟩
    obtain ⟨model, -, rfl⟩ := map_eq_ok_iff.mp h
    exact fill_fixed body
  simp only [persistBody, Spec.source_rename, bind_pure_comp]
  cases p with
  | save => exact hplain _
  | patch => exact hplain _
  | deleteById soft => cases soft <;> exact htyped _ _
  | deleteAll soft => cases soft <;> exact htyped _ _

private theorem templated_storageMethod (s : Spec) (o : Operation) :
    r.Templated fun w =>
      (r.under w).storageMethod (s.rename w.rename) (o.rename w.rename) := by
  obtain ⟨t, ht⟩ := templated_signature r true o
  have hbody {body : Wording → Rendered Tokens} (h : r.Templated body) :
      r.Templated fun w =>
        (r.under w).signature true (o.rename w.rename) >>= fun signature =>
        body w >>= fun body => pure (operationDoc o ++ publicFunction signature body) := by
    obtain ⟨b, hb⟩ := h
    refine ⟨.fixed (operationDoc o) ++ .publicFunction t b, fun w tokens h => ?_⟩
    obtain ⟨signature, hsignature, h⟩ := bind_eq_ok_iff.mp h
    obtain ⟨body, hbody, h⟩ := bind_eq_ok_iff.mp h
    cases h
    simp [fill_append, ok_bind, fill_publicFunction (ht w signature hsignature) (hb w body hbody)]
  simp only [storageMethod, Spec.entityGraph?_rename]
  obtain ⟨name, params, returns, failure, body, route, text⟩ := o
  cases body with
  | query q => exact hbody (templated_queryBody r s s.entityGraph?.isSome _ q)
  | persist p => exact hbody (templated_persistBody r s p)
  | abstract | delegate | map | codec | predicate | handle =>
    exact hbody (.const (.error (.notStorage name)))

private theorem planFunction_under (w : Wording) (graph : EntityGraph) :
    (r.under w).planFunction graph = r.planFunction graph := by
  rw [planFunction, planFunction, plan_under, under_inRuntime]

/-- The function of the fetch plan of a repository, if it has one. -/
def fetchFunction (s : Spec) : Tokens :=
  match s.entityGraph? with
  | some graph => r.planFunction graph
  | none => []

/-- Repositories follow a template. -/
theorem templated_repository (s : Spec) :
    r.Templated fun w => (r.under w).repository (s.rename w.rename) := by
  simp only [repository, Spec.name_rename, Spec.doc_rename, Spec.operations_rename,
    Spec.entityGraph?_rename, List.mapM_map, planFunction_under, under_inRuntime]
  refine .after fun name => ?_
  obtain ⟨b, hb⟩ := maybeTemplated_dependencyType? r s .base
  obtain ⟨ms, hms⟩ := eachTemplated_mapM s.operations fun o _ => templated_storageMethod r s o
  let held : Template := .fixed (word "S")
  refine ⟨.fixed (doc s.doc) ++
    .genericStruct name "S" (.fixed (word "store" ++ op ":" ++ word "S" ++ op ",") ++
      .baseField false b) ++
    .genericImpl name "S" none [] (.constructor "store" held b ++ .accessor "store" held ++
      .baseAccessor b ++ .fixed (r.fetchFunction s)) ++
    .genericImpl name "S" (some (.fixed (r.inRuntime ["Store"]))) [] ms.flatten,
    fun w tokens h => ?_⟩
  obtain ⟨base, hbase, h⟩ := bind_eq_ok_iff.mp h
  obtain ⟨methods, hmethods, h⟩ := bind_eq_ok_iff.mp h
  cases h
  have hbase := hb w base hbase
  have hheld : r.fill w held = .ok (word "S") := fill_fixed _
  have hfields := fill_append_eq_ok (fill_fixed (word "store" ++ op ":" ++ word "S" ++ op ","))
    (fill_baseField false hbase)
  have hfunctions := fill_append_eq_ok (fill_append_eq_ok (fill_append_eq_ok
    (fill_constructor "store" hheld hbase) (fill_accessor "store" hheld)) (fill_baseAccessor hbase))
    (fill_fixed (r.fetchFunction s))
  have hbound : (some (Template.fixed (r.inRuntime ["Store"]))).mapM (r.fill w) =
      .ok (some (r.inRuntime ["Store"])) := by
    simp
  exact fill_append_eq_ok (fill_append_eq_ok (fill_append_eq_ok (fill_fixed _)
    (fill_genericStruct name "S" hfields)) (fill_genericImpl name "S" rfl fill_nil hfunctions))
    (fill_genericImpl name "S" hbound fill_nil (fill_flatten (hms w methods hmethods)))

/-! ## Services -/

private theorem templated_declaredMethod (o : Operation) :
    r.Templated fun w => (r.under w).declaredMethod (o.rename w.rename) := by
  simp only [declaredMethod, bind_pure_comp]
  exact (templated_signature r true o).map _ (operationDoc o) (op ";") fun signature => rfl

/-- Service interfaces follow a template. -/
theorem templated_serviceInterface (s : Spec) :
    r.Templated fun w => (r.under w).serviceInterface (s.rename w.rename) := by
  simp only [serviceInterface, Spec.name_rename, Spec.doc_rename, Spec.operations_rename,
    List.mapM_map]
  refine .after fun name => ?_
  obtain ⟨ms, hms⟩ := eachTemplated_mapM s.operations fun o _ => templated_declaredMethod r o
  refine ⟨.fixed (doc s.doc ++ word "pub" ++ word "trait" ++ name ++ [.opening .brace]) ++
    ms.flatten ++ .fixed [.closing .brace], fun w tokens h => ?_⟩
  obtain ⟨methods, hmethods, h⟩ := bind_eq_ok_iff.mp h
  cases h
  simp [fill_append, ok_bind, fill_flatten (hms w methods hmethods), Phrase.braced, enclose]

private theorem templated_delegatingMethod (o : Operation) :
    r.Templated fun w => (r.under w).delegatingMethod (o.rename w.rename) := by
  cases hbody : o.body with
  | delegate role operation =>
    cases role with
    | repository =>
      obtain ⟨t, ht⟩ := templated_signature r true o
      obtain ⟨n, hn⟩ := templated_name r operation
      obtain ⟨as, has⟩ := eachTemplated_mapM o.params fun p _ =>
        templated_name r p.name
      refine ⟨t ++ .fixed (.opening .brace :: (Phrase.member (word "self") "repository" ++ op ".")) ++
        n ++ .fixed [.opening .paren] ++ .commas false as ++
        .fixed [.closing .paren, .closing .brace], fun w tokens h => ?_⟩
      simp only [delegatingMethod, forwarded, Operation.rename, hbody, OperationBody.rename,
        List.mapM_map] at h
      obtain ⟨signature, hsignature, h⟩ := bind_eq_ok_iff.mp h
      obtain ⟨target, htarget, h⟩ := bind_eq_ok_iff.mp h
      obtain ⟨args, hargs, h⟩ := bind_eq_ok_iff.mp h
      cases h
      have hsigned := ht w signature (by
        simpa only [Operation.rename, hbody, OperationBody.rename] using hsignature)
      simp [fill_append, ok_bind, hsigned, hn w target htarget, fill_commas false (has w args hargs),
        Phrase.braced, Phrase.call, enclose]
    | service | mapper | idAdapter | base =>
      simp only [delegatingMethod, Operation.rename, hbody, OperationBody.rename]
      exact .const _
  | abstract | query | persist | map | codec | predicate | handle =>
    simp only [delegatingMethod, Operation.rename, hbody, OperationBody.rename]
    exact .const _

/-- Service implementations follow a template. -/
theorem templated_serviceImpl (s : Spec) :
    r.Templated fun w => (r.under w).serviceImpl (s.rename w.rename) := by
  simp only [serviceImpl, Spec.name_rename, Spec.doc_rename, Spec.operations_rename, List.mapM_map,
    under_inRuntime]
  refine .after fun name => ?_
  obtain ⟨i, hi⟩ := templated_required r s .service
  obtain ⟨t, ht⟩ := templated_required r s .repository
  obtain ⟨b, hb⟩ := maybeTemplated_dependencyType? r s .base
  obtain ⟨ms, hms⟩ := eachTemplated_mapM s.operations fun o _ => templated_delegatingMethod r o
  let held : Template := t ++ .fixed (Phrase.angled [word "S"])
  refine ⟨.fixed (doc s.doc) ++
    .genericStruct name "S" (.fixed (word "repository" ++ op ":") ++ held ++ .fixed (op ",") ++
      .baseField true b) ++
    .genericImpl name "S" none [] (.constructor "repository" held b ++
      .accessor "repository" held) ++
    .genericImpl name "S" (some (.fixed (r.inRuntime ["Store"]))) (i ++ .fixed (word "for"))
      ms.flatten, fun w tokens h => ?_⟩
  obtain ⟨interface, hinterface, h⟩ := bind_eq_ok_iff.mp h
  obtain ⟨repository, hrepository, h⟩ := bind_eq_ok_iff.mp h
  obtain ⟨base, hbase, h⟩ := bind_eq_ok_iff.mp h
  obtain ⟨methods, hmethods, h⟩ := bind_eq_ok_iff.mp h
  cases h
  have hbase := hb w base hbase
  have hheld := fill_append_eq_ok (ht w repository hrepository)
    (fill_fixed (Phrase.angled [word "S"]))
  have hfields := fill_append_eq_ok (fill_append_eq_ok (fill_append_eq_ok
    (fill_fixed (word "repository" ++ op ":")) hheld) (fill_fixed (op ",")))
    (fill_baseField true hbase)
  have hfunctions := fill_append_eq_ok (fill_constructor "repository" hheld hbase)
    (fill_accessor "repository" hheld)
  have hbound : (some (Template.fixed (r.inRuntime ["Store"]))).mapM (r.fill w) =
      .ok (some (r.inRuntime ["Store"])) := by
    simp
  have htrait := fill_append_eq_ok (hi w interface hinterface) (fill_fixed (word "for"))
  exact fill_append_eq_ok (fill_append_eq_ok (fill_append_eq_ok (fill_fixed _)
    (fill_genericStruct name "S" hfields)) (fill_genericImpl name "S" rfl fill_nil hfunctions))
    (fill_genericImpl name "S" hbound htrait (fill_flatten (hms w methods hmethods)))

end CrudScaffold.Renderer
