import CrudScaffold.Model.Catalog
import CrudScaffold.Proofs.Assembly.Calls
import CrudScaffold.Proofs.Assembly.Closure

/-!
# Soft-deleted rows in rendered repositories

The rows of a disableable model are disabled instead of deleted, and queries are to leave disabled rows
out. The filter is decided twice: the operation says whether the model is disableable, and the shape of
the query says whether it starts from the model. The lookup by a reverse field starts from the related
type and never filters, also where the related type is the model itself.
-/

namespace CrudScaffold

open Code Code.Token

namespace Renderer

/-! ## The end of a query -/

/-- The call that leaves disabled rows out of a query. -/
def filterCall : Tokens := op "." ++ Phrase.call (word "not_disabled") []

/-- The call that gives the fetch plan to a query. -/
def planCall : Tokens :=
  op "." ++ Phrase.call (word "with_graph")
    [Phrase.call (Phrase.namePath ["Self", "entity_graph"]) []]

/-- A query leaves disabled rows out: the filter is its last call but for that of the fetch plan. -/
def LeavesOut (query : Tokens) : Prop :=
  filterCall <:+ query ∨ filterCall ++ planCall <:+ query

instance (query : Tokens) : Decidable (LeavesOut query) := inferInstanceAs (Decidable (_ ∨ _))

/-- Whatever stands in front of these tokens, neither call is at their end. -/
def PlainEnd (tokens : Tokens) : Prop :=
  ∀ front, ¬ filterCall <:+ front ++ tokens ∧ ¬ filterCall ++ planCall <:+ front ++ tokens

variable {r : Renderer} {model : Tokens} {hasPlan : Bool} {q : Query} {code : QueryCode}

/-- No selection ends in one of the calls. -/
theorem plainEnd_of_queryCode (h : r.queryCode model hasPlan q = .ok code) :
    PlainEnd code.selection := by
  have hbyId : PlainEnd selectById := by
    intro front
    simp [← List.reverse_prefix, filterCall, planCall, selectById, Phrase.call, Phrase.namePath,
      Phrase.qualified, segmentsTokens, enclose, commas, word, op, operator]
  have hall : PlainEnd selectAll := by
    intro front
    simp [← List.reverse_prefix, filterCall, planCall, selectAll, Phrase.call, Phrase.namePath,
      Phrase.qualified, segmentsTokens, enclose, commas, word, op, operator]
  unfold queryCode at h
  cases hshape : q.shape with
  | byId =>
    simp only [hshape] at h
    exact Except.ok.inj h ▸ hbyId
  | existsById =>
    simp only [hshape] at h
    exact Except.ok.inj h ▸ hbyId
  | all =>
    simp only [hshape] at h
    exact Except.ok.inj h ▸ hall
  | count =>
    simp only [hshape] at h
    exact Except.ok.inj h ▸ hall
  | directEquality root reverseField reverseIsCollection =>
    simp only [hshape] at h
    obtain ⟨root, -, h⟩ := bind_eq_ok_iff.mp h
    cases h
    intro front
    simp [← List.reverse_prefix, filterCall, planCall, Phrase.method, Phrase.call, Phrase.text,
      Phrase.namePath, Phrase.qualified, segmentsTokens, enclose, commas, word, op, operator]
  | join root joinField target =>
    simp only [hshape] at h
    obtain ⟨root, -, h⟩ := bind_eq_ok_iff.mp h
    obtain ⟨target, -, h⟩ := bind_eq_ok_iff.mp h
    cases h
    intro front
    simp [← List.reverse_prefix, filterCall, planCall, Phrase.call, Phrase.text,
      Phrase.namePath, Phrase.qualified, segmentsTokens, enclose, commas, word, op, operator]

/-- What is rendered of a query shows whether disabled rows are left out. -/
theorem leavesOut_tokens_iff (h : PlainEnd code.selection) :
    LeavesOut (code.tokens r) ↔ code.notDisabled = true := by
  obtain ⟨root, selection, notDisabled, withPlan⟩ := code
  let front := Phrase.turbofish (r.inRuntime ["Query"]) [root] ++ op "::"
  have htokens : QueryCode.tokens r ⟨root, selection, notDisabled, withPlan⟩ =
      front ++ selection ++ (if notDisabled then filterCall else []) ++
        if withPlan then planCall else [] := rfl
  rw [htokens]
  unfold LeavesOut
  cases notDisabled with
  | true =>
    cases withPlan with
    | false =>
      simp only [↓reduceIte, Bool.false_eq_true, List.append_nil, iff_true]
      exact .inl (List.suffix_append _ _)
    | true =>
      simp only [↓reduceIte, iff_true, List.append_assoc _ filterCall]
      exact .inr (List.suffix_append _ _)
  | false =>
    obtain ⟨hfilter, hboth⟩ := h front
    cases withPlan with
    | false => simp [hfilter, hboth]
    | true =>
      have hplan : ¬ filterCall <:+ front ++ selection ++ planCall := by
        simp [← List.reverse_prefix, filterCall, planCall, Phrase.call, Phrase.namePath,
          Phrase.qualified, segmentsTokens, enclose, commas, word, op, operator]
      simp only [Bool.false_eq_true, ↓reduceIte, List.append_nil, iff_false, not_or]
      exact ⟨hplan, fun hends => hfilter (List.suffix_append_self_iff.mp hends)⟩

/-- A query leaves disabled rows out if its operation says so, but for the lookup by a reverse field,
which never does. -/
theorem notDisabled_cases (h : r.queryCode model hasPlan q = .ok code) :
    (∃ root reverseField reverseIsCollection,
      q.shape = .directEquality root reverseField reverseIsCollection ∧
        r.named root = .ok code.root ∧ code.notDisabled = false) ∨
      code.notDisabled = q.notDisabled := by
  unfold queryCode at h
  cases hshape : q.shape with
  | directEquality root reverseField reverseIsCollection =>
    simp only [hshape] at h
    obtain ⟨tokens, hroot, h⟩ := bind_eq_ok_iff.mp h
    cases h
    exact .inl ⟨root, reverseField, reverseIsCollection, rfl, hroot, rfl⟩
  | join root joinField target =>
    simp only [hshape] at h
    obtain ⟨root, -, h⟩ := bind_eq_ok_iff.mp h
    obtain ⟨target, -, h⟩ := bind_eq_ok_iff.mp h
    cases h
    exact .inr rfl
  | byId | existsById | all | count =>
    simp only [hshape] at h
    exact .inr (Except.ok.inj h ▸ rfl)

/-! ## The methods of a repository -/

/-- The query of an operation of a repository, as it is rendered. -/
def writtenQuery? (r : Renderer) (s : Spec) (o : Operation) : Option QueryCode :=
  match o.body, r.named s.source.name with
  | .query q, .ok model => (r.queryCode model s.entityGraph?.isSome q).toOption
  | _, _ => none

/-- A query that is rendered is that of an operation that queries. -/
theorem exists_queryCode_of_writtenQuery? {r : Renderer} {s : Spec} {o : Operation}
    {code : QueryCode} (h : r.writtenQuery? s o = some code) :
    ∃ q model, o.body = .query q ∧ r.named s.source.name = .ok model ∧
      r.queryCode model s.entityGraph?.isSome q = .ok code := by
  unfold writtenQuery? at h
  split at h
  · next q model hbody hmodel =>
    refine ⟨q, model, hbody, hmodel, ?_⟩
    cases hcode : r.queryCode model s.entityGraph?.isSome q with
    | error fault => simp [hcode, Except.toOption] at h
    | ok code' =>
      rw [hcode] at h
      exact congrArg Except.ok (Option.some.inj h)
  · cases h

/-- The call by which the store makes a change. -/
def changeCall (model : Tokens) : Persist → Tokens
  | .save => Phrase.method store "save" [word "entity"]
  | .patch => Phrase.method store "patch" [word "id", word "delta"]
  | .deleteById soft =>
    let function := if soft then "disable_by_id" else "delete_by_id"
    Phrase.call (Phrase.turbofish (Phrase.member store function) [model]) [word "id"]
  | .deleteAll soft =>
    let function := if soft then "disable_all" else "delete_all"
    Phrase.call (Phrase.turbofish (Phrase.member store function) [model]) []

/-- A method of a repository hands its query to the store or has the store make its change. -/
inductive Written (r : Renderer) (s : Spec) (model : Tokens) (o : Operation) : Tokens → Prop where
  | query {signature : Tokens} {code : QueryCode} (function : String)
    (headed : r.signature true o = .ok signature) (asks : r.writtenQuery? s o = some code) :
    Written r s model o
      (operationDoc o ++ publicFunction signature (Phrase.method store function [code.tokens r]))
  | change {signature : Tokens} {p : Persist} (headed : r.signature true o = .ok signature)
    (changes : o.body = .persist p) :
    Written r s model o (operationDoc o ++ publicFunction signature (changeCall model p))

variable {s : Spec} {o : Operation} {method tokens : Tokens}

/-- Changes are rendered as calls of the store. -/
theorem persistBody_eq (hmodel : r.named s.source.name = .ok model) (p : Persist) :
    r.persistBody s p = .ok (changeCall model p) := by
  unfold persistBody
  rw [hmodel]
  cases p with
  | save | patch => rfl
  | deleteById soft | deleteAll soft => cases soft <;> rfl

/-- A method that queries is rendered only where the model can be named. -/
theorem exists_model_of_storageMethod (hq : o.body = .query q)
    (h : r.storageMethod s o = .ok method) : ∃ model, r.named s.source.name = .ok model := by
  unfold storageMethod at h
  obtain ⟨signature, -, h⟩ := bind_eq_ok_iff.mp h
  simp only [hq] at h
  obtain ⟨body, hbody, -⟩ := bind_eq_ok_iff.mp h
  obtain ⟨model, hmodel, -⟩ := bind_eq_ok_iff.mp hbody
  exact ⟨model, hmodel⟩

/-- Every method that is rendered is one of the two. -/
theorem written_of_storageMethod (hmodel : r.named s.source.name = .ok model)
    (h : r.storageMethod s o = .ok method) : Written r s model o method := by
  unfold storageMethod at h
  obtain ⟨signature, hsignature, h⟩ := bind_eq_ok_iff.mp h
  cases hkind : o.body with
  | query q =>
    simp only [hkind] at h
    obtain ⟨body, hbody, h⟩ := bind_eq_ok_iff.mp h
    obtain ⟨model', hmodel', hbody⟩ := bind_eq_ok_iff.mp hbody
    obtain ⟨code, hcode, hbody⟩ := bind_eq_ok_iff.mp hbody
    have hasks : r.writtenQuery? s o = some code := by
      simp only [writtenQuery?, hkind, hmodel', hcode, Except.toOption]
    split at hbody
    · next function _ =>
      cases hbody
      cases h
      exact .query function hsignature hasks
    · cases hbody
  | persist p =>
    simp only [hkind, persistBody_eq hmodel] at h
    cases h
    exact .change hsignature hkind
  | abstract | delegate | map | codec | predicate | handle =>
    simp only [hkind] at h
    cases h

/-- A rendered repository ends in its methods, one for each operation. -/
theorem exists_methods_of_repository (h : r.repository s = .ok tokens) :
    ∃ front name methods,
      tokens = front ++ genericImpl name "S" (some (r.inRuntime ["Store"])) [] (Phrase.all methods) ∧
      List.Forall₂ (fun o method => r.storageMethod s o = .ok method) s.operations methods := by
  unfold repository at h
  obtain ⟨name, -, h⟩ := bind_eq_ok_iff.mp h
  obtain ⟨base, -, h⟩ := bind_eq_ok_iff.mp h
  obtain ⟨methods, hmethods, h⟩ := bind_eq_ok_iff.mp h
  refine ⟨_, name, methods, (Except.ok.inj h).symm, ?_⟩
  exact forall₂_of_mapM_eq_ok hmethods fun _ _ _ hmethod => hmethod

end Renderer

/-- The body deletes rows, or disables them instead. -/
def OperationBody.isDeletion : OperationBody → Bool
  | .persist (.deleteById _) | .persist (.deleteAll _) => true
  | _ => false

namespace Assembly

open Renderer

variable {a : Assembly} {o : Operation} {q : Query} {r : Renderer} {s : Spec} {model : Tokens}

/-! ## The operations of a repository -/

/-- Every query says whether the model is disableable, and lookups by a reverse field follow to-one
relations that have one. -/
theorem query_of_mem_storageOperations (ho : o ∈ a.storageOperations) (hq : o.body = .query q) :
    q.notDisabled = a.model.traits.disableable ∧
      ∀ root reverseField reverseIsCollection,
        q.shape = .directEquality root reverseField reverseIsCollection →
          ∃ f ∈ a.model.toOneRelations, f.target = some root ∧ f.reverse.isSome = true := by
  obtain ⟨given, rfl, hgiven | ⟨f, hf, hgiven⟩⟩ := mem_storageOperations_iff.mp ho
  · have hall : ∀ given ∈ a.baselineOperations, ∀ q, given.body = .query q →
        q.notDisabled = a.model.traits.disableable ∧
          ∀ root reverseField reverseIsCollection,
            q.shape ≠ .directEquality root reverseField reverseIsCollection := by
      simp [baselineOperations, query]
    obtain ⟨hflag, hshape⟩ := hall given hgiven q hq
    exact ⟨hflag, fun _ _ _ h => absurd h (hshape _ _ _)⟩
  · obtain ⟨shape, hshape, rfl⟩ := Option.map_eq_some_iff.mp hgiven
    obtain rfl := OperationBody.query.inj hq
    refine ⟨rfl, fun root reverseField reverseIsCollection h => ⟨f, hf, ?_⟩⟩
    obtain ⟨target, htarget, hshape⟩ := Option.map_eq_some_iff.mp hshape
    dsimp only at h
    rw [h] at hshape
    cases hreverse : f.reverse with
    | none =>
      rw [hreverse] at hshape
      cases hshape
    | some reverse =>
      rw [hreverse] at hshape
      cases hshape
      exact ⟨htarget, rfl⟩

/-- Repositories have two deletions, which disable rows if the model is disableable. -/
theorem deletions_storageOperations :
    (a.storageOperations.map Operation.body).filter OperationBody.isDeletion =
      [.persist (.deleteById a.model.traits.disableable),
        .persist (.deleteAll a.model.traits.disableable)] := by
  have hfinders : ((a.model.toOneRelations.filterMap a.finderOperation?).map Operation.body).filter
      OperationBody.isDeletion = [] := by
    rw [List.filter_eq_nil_iff]
    intro body hbody
    obtain ⟨o, ho, rfl⟩ := List.mem_map.mp hbody
    obtain ⟨f, -, hf⟩ := List.mem_filterMap.mp ho
    obtain ⟨shape, -, rfl⟩ := Option.map_eq_some_iff.mp hf
    exact Bool.false_ne_true
  unfold storageOperations
  rw [List.map_map]
  change List.filter _ (List.map Operation.body _) = _
  rw [List.map_append, List.filter_append, hfinders]
  rfl

/-! ## What the rendered queries leave out -/

/-- A to-one relation leads to the type of the model itself, from where a named field leads back. -/
def ReturnsToItself (a : Assembly) (r : Renderer) (model : Tokens) : Prop :=
  ∃ f ∈ a.model.toOneRelations, f.reverse.isSome = true ∧
    ∃ target, f.target = some target ∧ r.named target = .ok model

/-- Queries on the type of the model leave disabled rows out exactly if the model is disableable. -/
def HidesDisabled (a : Assembly) (r : Renderer) (s : Spec) (model : Tokens) : Prop :=
  ∀ o ∈ s.operations, ∀ code, r.writtenQuery? s o = some code → code.root = model →
    (LeavesOut (code.tokens r) ↔ a.model.traits.disableable = true)

/-- A model that is not disableable has no filter in any query. -/
theorem not_leavesOut_of_not_disableable (hs : a.repositorySpec = .ok s)
    (hsoft : a.model.traits.disableable = false) (ho : o ∈ s.operations) {code : QueryCode}
    (hcode : r.writtenQuery? s o = some code) : ¬ LeavesOut (code.tokens r) := by
  rw [(views_repositorySpec hs).1] at ho
  obtain ⟨q, model, hq, -, hcode⟩ := exists_queryCode_of_writtenQuery? hcode
  rw [leavesOut_tokens_iff (plainEnd_of_queryCode hcode)]
  rcases notDisabled_cases hcode with ⟨_, _, _, -, -, hflag⟩ | hflag
  · simp [hflag]
  · simp [hflag, (query_of_mem_storageOperations ho hq).1, hsoft]

/-- The lookup by a reverse field that leads back from the model's own type is a query on that type
without a filter. -/
theorem exists_unfiltered (hs : a.repositorySpec = .ok s)
    (hmodel : r.named a.model.name = .ok model) (hreturns : a.ReturnsToItself r model) :
    ∃ o ∈ s.operations, ∃ code, r.writtenQuery? s o = some code ∧ code.root = model ∧
      ¬ LeavesOut (code.tokens r) := by
  obtain ⟨f, hf, hreverse, target, htarget, hroot⟩ := hreturns
  obtain ⟨reverse, hreverse⟩ := Option.isSome_iff_exists.mp hreverse
  let shape : QueryShape := .directEquality target reverse.name (!reverse.oneToOne)
  have hshape : a.lookupShape? f = some shape := by
    unfold lookupShape?
    rw [htarget, hreverse]
    rfl
  obtain ⟨given, hgiven, hbody⟩ : ∃ given, a.finderOperation? f = some given ∧
      given.body = a.query shape := by
    unfold finderOperation?
    rw [hshape]
    exact ⟨_, rfl, rfl⟩
  let o : Operation := { given with failure := some .runtime }
  have ho : o ∈ a.storageOperations :=
    mem_storageOperations_iff.mpr ⟨given, rfl, .inr ⟨f, hf, hgiven⟩⟩
  obtain ⟨code, hcode, hown, hflag⟩ : ∃ code, r.queryCode model s.entityGraph?.isSome
      ⟨shape, a.model.traits.disableable⟩ = .ok code ∧ code.root = model ∧
        code.notDisabled = false := by
    simp only [queryCode, shape, hroot]
    exact ⟨_, rfl, rfl, rfl⟩
  have hwritten : r.writtenQuery? s o = some code := by
    have hquery : o.body = .query ⟨shape, a.model.traits.disableable⟩ := hbody
    simp only [writtenQuery?, hquery, (of_repositorySpec hs).2.2, hmodel, hcode, Except.toOption]
  refine ⟨o, (views_repositorySpec hs).1 ▸ ho, code, hwritten, hown, ?_⟩
  rw [leavesOut_tokens_iff (plainEnd_of_queryCode hcode), hflag]
  exact Bool.false_ne_true

/-- The filter is where it should be, unless a disableable model is looked up by a field that leads
back from its own type. -/
theorem hidesDisabled_iff (hs : a.repositorySpec = .ok s)
    (hmodel : r.named a.model.name = .ok model) :
    a.HidesDisabled r s model ↔
      ¬ (a.model.traits.disableable = true ∧ a.ReturnsToItself r model) := by
  constructor
  · rintro hhides ⟨hsoft, hreturns⟩
    obtain ⟨o, ho, code, hcode, hown, hopen⟩ := exists_unfiltered hs hmodel hreturns
    exact hopen ((hhides o ho code hcode hown).mpr hsoft)
  · intro hno o ho code hcode hown
    cases hsoft : a.model.traits.disableable with
    | false =>
      simp [not_leavesOut_of_not_disableable hs hsoft ho hcode]
    | true =>
      rw [(views_repositorySpec hs).1] at ho
      obtain ⟨q, model', hq, -, hcode⟩ := exists_queryCode_of_writtenQuery? hcode
      obtain ⟨hflag, hdirect⟩ := query_of_mem_storageOperations ho hq
      rw [leavesOut_tokens_iff (plainEnd_of_queryCode hcode)]
      rcases notDisabled_cases hcode with ⟨root, reverseField, many, hshape, hroot, -⟩ | hsame
      · obtain ⟨f, hf, htarget, hreverse⟩ := hdirect root reverseField many hshape
        exact absurd ⟨hsoft, f, hf, hreverse, root, htarget, hown ▸ hroot⟩ hno
      · rw [hsame, hflag, hsoft]

/-- In a rendered repository, each method asks the store for what its operation says. Queries on the
type of the model leave disabled rows out exactly if the model is disableable, unless it is and a named
field leads back to it from its own type; and deletions disable rows exactly if it is. -/
theorem repository_hides_disabled_iff {tokens : Tokens} (hs : a.repositorySpec = .ok s)
    (htokens : r.repository s = .ok tokens) :
    ∃ model front name methods, r.named a.model.name = .ok model ∧
      tokens = front ++
        genericImpl name "S" (some (r.inRuntime ["Store"])) [] (Phrase.all methods) ∧
      List.Forall₂ (Written r s model) s.operations methods ∧
      (a.HidesDisabled r s model ↔
        ¬ (a.model.traits.disableable = true ∧ a.ReturnsToItself r model)) ∧
      (s.operations.map Operation.body).filter OperationBody.isDeletion =
        [.persist (.deleteById a.model.traits.disableable),
          .persist (.deleteAll a.model.traits.disableable)] := by
  have hsource : s.source = a.model := (of_repositorySpec hs).2.2
  have hoperations : s.operations = a.storageOperations := (views_repositorySpec hs).1
  obtain ⟨front, name, methods, htokens, hmethods⟩ := exists_methods_of_repository htokens
  obtain ⟨model, hmodel⟩ : ∃ model, r.named a.model.name = .ok model := by
    -- The first operation finds a row of the model.
    rw [hoperations] at hmethods
    cases hmethods with
    | cons hfirst _ => exact hsource ▸ exists_model_of_storageMethod rfl hfirst
  refine ⟨model, front, name, methods, hmodel, htokens, ?_, hidesDisabled_iff hs hmodel, ?_⟩
  · exact hmethods.imp fun o method h => written_of_storageMethod (hsource ▸ hmodel) h
  · rw [hoperations]
    exact deletions_storageOperations

-- A category with a parent category, which may name the field by which it leads back.
private def categories (reverse : Option String) : Manifest where
  models :=
    [{ name := "Category", space := "shop::model", disableable := true,
       identifier := some { type := some "u64" },
       fields := [{ name := "parent", type := "Category", cardinality := some .manyToOne,
                    bidirectional := reverse.isSome, reverse }] }]

private def categoryAssembly? (reverse : Option String) : Option Assembly :=
  let c := Catalog.ofManifest (categories reverse) [] {} "scrud_runtime"
  c.models.head?.map fun model => ⟨model, c.graph, {}⟩

private def categoryRenderer : Except GenerationError Renderer :=
  ofCrates "scrud_runtime" "scrudgen_codec" []

private def categoryFacts {α : Type} (reverse : Option String)
    (facts : Assembly → Renderer → Spec → α) : Option α := do
  let a ← categoryAssembly? reverse
  let r ← categoryRenderer.toOption
  let s ← a.repositorySpec.toOption
  let _ ← (r.repository s).toOption
  return facts a r s

private theorem exists_of_categoryFacts {α : Type} {reverse : Option String}
    {facts : Assembly → Renderer → Spec → α} {x : α} (h : categoryFacts reverse facts = some x) :
    ∃ a r s tokens, categoryAssembly? reverse = some a ∧ categoryRenderer = .ok r ∧
      a.repositorySpec = .ok s ∧ r.repository s = .ok tokens ∧ facts a r s = x := by
  obtain ⟨a, ha, h⟩ := Option.bind_eq_some_iff.mp h
  obtain ⟨r, hr, h⟩ := Option.bind_eq_some_iff.mp h
  obtain ⟨s, hs, h⟩ := Option.bind_eq_some_iff.mp h
  obtain ⟨tokens, htokens, h⟩ := Option.bind_eq_some_iff.mp h
  exact ⟨a, r, s, tokens, ha, toOption_eq_some_iff.mp hr, toOption_eq_some_iff.mp hs,
    toOption_eq_some_iff.mp htokens, Option.some.inj h⟩

/-- Where no field leads back, the parent of a category is looked up by a join, and disabled categories
are left out of that and of all other queries. -/
theorem joined_parents_hide_disabled_categories :
    ∃ a r s tokens model, categoryAssembly? none = some a ∧ categoryRenderer = .ok r ∧
      a.repositorySpec = .ok s ∧ r.repository s = .ok tokens ∧ r.named a.model.name = .ok model ∧
      a.model.traits.disableable = true ∧ a.model.toOneRelations ≠ [] ∧
      a.HidesDisabled r s model := by
  have hfacts : categoryFacts none (fun a _ _ => (a.model.traits.disableable,
      a.model.toOneRelations.map fun f => f.reverse.isSome)) = some (true, [false]) := by
    decide +kernel
  obtain ⟨a, r, s, tokens, ha, hr, hs, htokens, hfacts⟩ := exists_of_categoryFacts hfacts
  obtain ⟨hsoft, hreverse⟩ := Prod.mk.inj hfacts
  obtain ⟨model, _, _, _, hmodel, -, -, hhides, -⟩ := repository_hides_disabled_iff hs htokens
  have hrelations : a.model.toOneRelations ≠ [] := by
    intro hnone
    rw [hnone] at hreverse
    cases hreverse
  refine ⟨a, r, s, tokens, model, ha, hr, hs, htokens, hmodel, hsoft, hrelations, hhides.mpr ?_⟩
  rintro ⟨-, f, hf, hback, -⟩
  have hmem := List.mem_map_of_mem (f := fun f : Model.Field => f.reverse.isSome) hf
  rw [hreverse, List.mem_singleton, hback] at hmem
  cases hmem

private def parentLookup : String :=
  "scrud_runtime :: Query :: < crate :: shop :: model :: Category > " ++
    ":: all () . where_contains (\"children\" , id)"

/-- Where the children of a category lead back to it, its parent is looked up by them, and disabled
categories are not left out. -/
theorem parent_lookup_shows_disabled_categories :
    ∃ a r s tokens, categoryAssembly? (some "children") = some a ∧ categoryRenderer = .ok r ∧
      a.repositorySpec = .ok s ∧ r.repository s = .ok tokens ∧
      a.model.traits.disableable = true ∧
      ∃ o ∈ s.operations, ∃ code, r.writtenQuery? s o = some code ∧
        r.named a.model.name = .ok code.root ∧ ¬ LeavesOut (code.tokens r) ∧
        render (code.tokens r) = parentLookup := by
  have hfacts : categoryFacts (some "children") (fun a r s => decide
      (a.model.traits.disableable = true ∧ ∃ o ∈ s.operations,
        ∃ code ∈ r.writtenQuery? s o, (r.named a.model.name).toOption = some code.root ∧
          ¬ LeavesOut (code.tokens r) ∧ render (code.tokens r) = parentLookup)) = some true := by
    decide +kernel
  obtain ⟨a, r, s, tokens, ha, hr, hs, htokens, hfacts⟩ := exists_of_categoryFacts hfacts
  obtain ⟨hsoft, o, ho, code, hcode, hroot, hopen, htext⟩ := of_decide_eq_true hfacts
  exact ⟨a, r, s, tokens, ha, hr, hs, htokens, hsoft, o, ho, code, hcode,
    toOption_eq_some_iff.mp hroot, hopen, htext⟩

end Assembly

end CrudScaffold
