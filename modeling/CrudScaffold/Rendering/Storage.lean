import CrudScaffold.Rendering.Basic

/-!
# Rendered repositories and services

A query is a chain of calls on the runtime's query builder, handed to a function of the store.
-/

namespace CrudScaffold.Renderer

open Code Code.Token

variable (r : Renderer)

/-! ## Fetch plans -/

mutual
/-- The calls that build a fetch plan. -/
def plan : EntityGraph → Tokens
  | .node attributes subgraphs =>
    Phrase.call (r.inRuntime ["EntityGraph", "new"]) [] ++
      Phrase.all (attributes.map fun a =>
        op "." ++ Phrase.call (word "attribute") [Phrase.text a]) ++
      subplans subgraphs

/-- The calls that add the subplans. -/
def subplans : List (String × EntityGraph) → Tokens
  | [] => []
  | (name, inner) :: rest =>
    op "." ++ Phrase.call (word "subgraph") [Phrase.text name, plan inner] ++ subplans rest
end

/-- The function that gives the fetch plan. -/
def planFunction (graph : EntityGraph) : Tokens :=
  Phrase.fixedDocLine " Relations fetched together with the model." ++
    publicFunction
      (word "fn" ++ word "entity_graph" ++ enclose .paren [] ++ op "->" ++
        r.inRuntime ["EntityGraph"])
      (r.plan graph)

/-! ## Queries -/

/-- How a query is built. -/
structure QueryCode where
  /-- The type whose instances are selected from. -/
  root : Tokens
  /-- The call that starts the query, with the calls that narrow it down. -/
  selection : Tokens
  notDisabled : Bool
  withPlan : Bool

/-- The calls of a query. -/
def QueryCode.tokens (r : Renderer) (q : QueryCode) : Tokens :=
  Phrase.turbofish (r.inRuntime ["Query"]) [q.root] ++ op "::" ++ q.selection ++
    (if q.notDisabled then op "." ++ Phrase.call (word "not_disabled") [] else []) ++
    if q.withPlan then
      op "." ++ Phrase.call (word "with_graph")
        [Phrase.call (Phrase.namePath ["Self", "entity_graph"]) []]
    else []

/-- Start from the instance with the given identifier. -/
def selectById : Tokens := Phrase.call (word "by_id") [word "id"]

/-- Start from all instances. -/
def selectAll : Tokens := Phrase.call (word "all") []

/-- How a query is built for the model. Soft-deleted rows are left out where the query starts from
the model itself, and the fetch plan goes with queries that give instances of the model. -/
def queryCode (model : Tokens) (hasPlan : Bool) (q : Query) : Rendered QueryCode :=
  match q.shape with
  | .byId => .ok ⟨model, selectById, q.notDisabled, hasPlan⟩
  | .existsById => .ok ⟨model, selectById, q.notDisabled, false⟩
  | .all => .ok ⟨model, selectAll, q.notDisabled, hasPlan⟩
  | .count => .ok ⟨model, selectAll, q.notDisabled, false⟩
  | .directEquality root reverseField reverseIsCollection => do
    let root ← r.named root
    let filter := if reverseIsCollection then "where_contains" else "where_related"
    let narrowed := Phrase.method selectAll filter [Phrase.text reverseField, word "id"]
    return ⟨root, narrowed, false, false⟩
  | .join root joinField target => do
    let root ← r.named root
    let target ← r.named target
    let joined := Phrase.call
      (Phrase.turbofish (Phrase.member selectById "join") [target]) [Phrase.text joinField]
    return ⟨root, joined, q.notDisabled, false⟩

/-- The function of the store that gives the result. -/
def storeFunction? : Returns → Option String
  | .optional _ => some "fetch_optional"
  | .many _ => some "fetch_all"
  | .count => some "count"
  | .flag => some "exists"
  | .unit | .value _ => none

/-- The store of a repository. -/
def store : Tokens := Phrase.member (word "self") "store"

/-- The body of an operation that queries. -/
def queryBody (s : Spec) (hasPlan : Bool) (o : Operation) (q : Query) : Rendered Tokens := do
  let model ← r.named s.source.name
  let code ← r.queryCode model hasPlan q
  match storeFunction? o.returns with
  | some function => return Phrase.method store function [code.tokens r]
  | none => .error (.noResultShape o.name)

/-- The body of an operation that changes what is stored. -/
def persistBody (s : Spec) (p : Persist) : Rendered Tokens := do
  let model ← r.named s.source.name
  let typed (function : String) (args : List Tokens) : Tokens :=
    Phrase.call (Phrase.turbofish (Phrase.member store function) [model]) args
  return match p with
    | .save => Phrase.method store "save" [word "entity"]
    | .patch => Phrase.method store "patch" [word "id", word "delta"]
    | .deleteById true => typed "disable_by_id" [word "id"]
    | .deleteById false => typed "delete_by_id" [word "id"]
    | .deleteAll true => typed "disable_all" []
    | .deleteAll false => typed "delete_all" []

/-! ## Repositories -/

/-- A method of a repository. -/
def storageMethod (s : Spec) (o : Operation) : Rendered Tokens := do
  let signature ← r.signature true o
  let body ← match o.body with
    | .query q => r.queryBody s s.entityGraph?.isSome o q
    | .persist p => r.persistBody s p
    | _ => .error (.notStorage o.name)
  return operationDoc o ++ publicFunction signature body

/-- A repository. -/
def repository (s : Spec) : Rendered Tokens := do
  let name ← name s.name.name
  let base ← r.dependencyType? s .base
  let methods ← s.operations.mapM (r.storageMethod s)
  let baseAccessor := match base with
    | some type => accessor "base" type
    | none => []
  let planFn := match s.entityGraph? with
    | some graph => r.planFunction graph
    | none => []
  return doc s.doc ++
    genericStruct name "S" (word "store" ++ op ":" ++ word "S" ++ op "," ++ baseField false base) ++
    genericImpl name "S" none []
      (constructor "store" (word "S") base ++ accessor "store" (word "S") ++ baseAccessor ++
        planFn) ++
    genericImpl name "S" (some (r.inRuntime ["Store"])) [] (Phrase.all methods)

/-! ## Services -/

/-- A method that is only declared. -/
def declaredMethod (o : Operation) : Rendered Tokens := do
  let signature ← r.signature true o
  return operationDoc o ++ signature ++ op ";"

/-- The interface of a service. -/
def serviceInterface (s : Spec) : Rendered Tokens := do
  let name ← name s.name.name
  let methods ← s.operations.mapM r.declaredMethod
  return doc s.doc ++ word "pub" ++ word "trait" ++ name ++ Phrase.braced (Phrase.all methods)

/-- A method that hands its parameters on to the repository. -/
def delegatingMethod (o : Operation) : Rendered Tokens :=
  match o.body with
  | .delegate .repository operation => do
    let signature ← r.signature true o
    let target ← name operation
    let args ← forwarded o
    return signature ++ Phrase.braced
      (Phrase.call (Phrase.member (word "self") "repository" ++ op "." ++ target) args)
  | .delegate role _ => .error (.delegatesElsewhere o.name role)
  | _ => .error (.noDelegate o.name)

/-- The implementation of a service. -/
def serviceImpl (s : Spec) : Rendered Tokens := do
  let name ← name s.name.name
  let interface ← r.required s .service
  let repository ← r.required s .repository
  let base ← r.dependencyType? s .base
  let methods ← s.operations.mapM r.delegatingMethod
  let held := Phrase.applied repository [word "S"]
  return doc s.doc ++
    genericStruct name "S"
      (word "repository" ++ op ":" ++ held ++ op "," ++ baseField true base) ++
    genericImpl name "S" none []
      (constructor "repository" held base ++ accessor "repository" held) ++
    genericImpl name "S" (some (r.inRuntime ["Store"])) (interface ++ word "for")
      (Phrase.all methods)

end CrudScaffold.Renderer
