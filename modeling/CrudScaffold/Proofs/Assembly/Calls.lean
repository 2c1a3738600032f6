import CrudScaffold.Proofs.Assembly.Routes
import CrudScaffold.Rendering.Storage

/-!
# Calls between the layers

Handlers call the service, and the service calls the repository. Interface and implementation of the
service declare what the repository has; a handler passes exactly the parameters of the operation that
it calls, and its body is decided by what the operation gives back.
-/

namespace CrudScaffold

open Code Code.Token

/-! ## What callers see -/

/-- What callers see of an operation. -/
structure Heading where
  name : String
  params : List Param
  returns : Returns
  failure : Option Failure
  deriving DecidableEq, Repr

/-- The heading of an operation. -/
def Operation.heading (o : Operation) : Heading := ⟨o.name, o.params, o.returns, o.failure⟩

/-- What is passed for a parameter by a caller that has a value of its name. -/
def Param.argument (p : Param) : Tokens :=
  match p.mode with
  | .owned => word p.name
  | .ref => Phrase.refer (word p.name)
  | .refMut => Phrase.refer (word "mut" ++ word p.name)

/-- Handlers of a shape can use results of a form. -/
inductive HandlerShape.Uses : HandlerShape → Returns → Prop where
  | getById (t : TypeRef) : Uses .getById (.optional t)
  | list (t : TypeRef) : Uses .list (.many t)
  | count : Uses .count .count
  | exists : Uses .exists .flag
  | create (t : TypeRef) : Uses .create (.value t)
  | patch (t : TypeRef) : Uses .patch (.optional t)
  | delete : Uses .delete .unit
  | related (mapper : Option QualifiedName) (t : TypeRef) : Uses (.related mapper) (.optional t)

namespace Renderer

variable {r : Renderer}

/-- Operations under one heading have one signature. -/
theorem signature_eq_of_heading {o o' : Operation} (h : o.heading = o'.heading) :
    r.signature true o = r.signature true o' := by
  obtain ⟨hname, hparams, hreturns, hfailure⟩ := Heading.mk.inj h
  unfold signature returnType
  rw [hname, hparams, hreturns, hfailure]

/-- Lists of operations under the same headings have the same signatures. -/
theorem map_signature_eq {operations operations' : List Operation}
    (h : operations.map Operation.heading = operations'.map Operation.heading) :
    operations.map (r.signature true) = operations'.map (r.signature true) := by
  induction operations generalizing operations' with
  | nil =>
    rw [List.map_nil, eq_comm, List.map_eq_nil_iff] at h
    rw [h]
  | cons o operations ih =>
    cases operations' with
    | nil => cases h
    | cons o' operations' =>
      obtain ⟨hhead, htail⟩ := List.cons.inj h
      rw [List.map_cons, List.map_cons, signature_eq_of_heading hhead, ih htail]

/-- The statement of a handler that provides a parameter of the service: an identifier is decoded
from the path, a model is taken from the body of the request. -/
def provide (c : Converters) (p : Param) : Tokens :=
  if p.name = "id" then decodeId c else Phrase.bind (word p.name) (takeBody c)

/-- What a handler does with the result of a call: a value is shown, also inside an option or a
list, and anything else is handed on. -/
def giveOut (called : Tokens) (mapper : Option Tokens) (value : String) : Returns → Tokens
  | .optional _ => Phrase.call (word "Ok") [mapEach (called ++ op "?") mapper value]
  | .many _ =>
    let each := Phrase.method (called ++ op "?") "into_iter" []
    Phrase.call (word "Ok") [Phrase.method (mapEach each mapper value) "collect" []]
  | .value _ =>
    Phrase.bind (word value) (called ++ op "?") ++
      Phrase.call (word "Ok") [showWith mapper value]
  | .unit | .count | .flag => called

end Renderer

namespace Assembly

open Renderer

variable {a : Assembly}

/-! ## The service and its repository -/

/-- The parameters of the operations that handlers of a shape call. -/
def calledWith (a : Assembly) : HandlerShape → List Param
  | .getById | .exists | .delete | .related _ => [a.idParam]
  | .list | .count => []
  | .create => [⟨"entity", a.modelType, .owned⟩]
  | .patch => [a.idParam, ⟨"delta", a.modelType, .owned⟩]

/-- Every storage operation is one of the baseline operations or follows a relation with a target. -/
theorem mem_storageOperations_iff {o : Operation} :
    o ∈ a.storageOperations ↔
      ∃ given, { given with failure := some .runtime } = o ∧ (given ∈ a.baselineOperations ∨
        ∃ f ∈ a.model.toOneRelations, a.finderOperation? f = some given) := by
  simp only [storageOperations, List.mem_map, List.mem_append, List.mem_filterMap]
  exact exists_congr fun given => and_comm

/-- What storage operations take is called as one of three parameters. -/
theorem name_of_mem_params {o : Operation} (ho : o ∈ a.storageOperations) {p : Param}
    (hp : p ∈ o.params) : p.name ∈ ["id", "entity", "delta"] := by
  obtain ⟨given, rfl, hgiven | ⟨f, -, hgiven⟩⟩ := mem_storageOperations_iff.mp ho
  · have hall : ∀ given ∈ a.baselineOperations, ∀ p ∈ given.params,
        p.name ∈ ["id", "entity", "delta"] := by
      simp [baselineOperations, idParam]
    exact hall given hgiven p hp
  · obtain ⟨shape, -, rfl⟩ := Option.map_eq_some_iff.mp hgiven
    rw [List.mem_singleton.mp hp]
    exact List.mem_cons_self

/-- The parameters of a storage operation can be passed on by their names. -/
theorem forwarded_eq {stored o : Operation} (hstored : stored ∈ a.storageOperations)
    (ho : o.params = stored.params) : forwarded o = .ok (o.params.map fun p => word p.name) := by
  have hname : ∀ text ∈ ["id", "entity", "delta"], name text = .ok (word text) := by decide
  refine mapM_eq_ok_map fun p hp => ?_
  rw [ho] at hp
  exact hname p.name (name_of_mem_params hstored hp)

/-- An operation of the service implementation calls the operation of its own name, with its own
parameters in their order. -/
structure Forwards (o : Operation) : Prop where
  body : o.body = .delegate .repository o.name
  rendered : ∀ (r : Renderer) tokens, r.delegatingMethod o = .ok tokens →
    ∃ signature target, r.signature true o = .ok signature ∧ name o.name = .ok target ∧
      tokens = signature ++ Phrase.braced
        (Phrase.call (Phrase.member (word "self") "repository" ++ op "." ++ target)
          (o.params.map fun p => word p.name))

/-- Every operation of a service implementation forwards its call. -/
theorem forwards_of_mem_serviceImplSpec {o : Operation} (ho : o ∈ a.serviceImplSpec.operations) :
    Forwards o := by
  rw [operations_serviceImplSpec] at ho
  obtain ⟨stored, hstored, rfl⟩ := List.mem_map.mp ho
  refine ⟨rfl, fun r tokens htokens => ?_⟩
  obtain ⟨signature, hsignature, htokens⟩ := bind_eq_ok_iff.mp htokens
  obtain ⟨target, htarget, htokens⟩ := bind_eq_ok_iff.mp htokens
  obtain ⟨args, hargs, htokens⟩ := bind_eq_ok_iff.mp htokens
  have hforwarded := hargs.symm.trans (forwarded_eq hstored rfl)
  cases hforwarded
  cases htokens
  exact ⟨signature, target, hsignature, htarget, rfl⟩

/-! ## Controllers and their service -/

/-- A handler of a shape can call an operation: it has what the operation takes, and can use what it
gives. -/
structure Fits (a : Assembly) (shape : HandlerShape) (o : Operation) : Prop where
  params : o.params = a.calledWith shape
  returns : shape.Uses o.returns
  failure : o.failure = some .runtime

/-- Each baseline handler calls a baseline operation that fits it. -/
theorem exists_baseline_of_mem {o : Operation} (ho : o ∈ a.baselineHandlers) :
    ∃ h, o.body = .handle h ∧ ∃ given ∈ a.baselineOperations, given.name = h.serviceOperation ∧
      given.params = a.calledWith h.shape ∧ h.shape.Uses given.returns := by
  simp only [baselineHandlers, List.mem_cons, List.not_mem_nil, or_false] at ho
  rcases ho with rfl | rfl | rfl | rfl | rfl | rfl | rfl
  · exact ⟨_, rfl, _, List.mem_of_getElem? (i := 0) rfl, rfl, rfl, .getById _⟩
  · exact ⟨_, rfl, _, List.mem_of_getElem? (i := 1) rfl, rfl, rfl, .list _⟩
  · exact ⟨_, rfl, _, List.mem_of_getElem? (i := 2) rfl, rfl, rfl, .count⟩
  · exact ⟨_, rfl, _, List.mem_of_getElem? (i := 3) rfl, rfl, rfl, .exists⟩
  · exact ⟨_, rfl, _, List.mem_of_getElem? (i := 4) rfl, rfl, rfl, .create _⟩
  · exact ⟨_, rfl, _, List.mem_of_getElem? (i := 5) rfl, rfl, rfl, .patch _⟩
  · exact ⟨_, rfl, _, List.mem_of_getElem? (i := 6) rfl, rfl, rfl, .delete⟩

/-- The handler of a relation calls the lookup of the same relation: both leave out exactly the
relations without a target. -/
theorem exists_finder_of_relatedHandler? {f : Model.Field} {o : Operation}
    (ho : a.relatedHandler? f = some o) :
    ∃ h, o.body = .handle h ∧ ∃ given, a.finderOperation? f = some given ∧
      given.name = h.serviceOperation ∧ given.params = a.calledWith h.shape ∧
      h.shape.Uses given.returns := by
  obtain ⟨target, htarget, rfl⟩ := Option.map_eq_some_iff.mp ho
  obtain ⟨given, hgiven⟩ : ∃ given, a.finderOperation? f = some given := by
    rw [finderOperation?, lookupShape?, htarget]
    exact ⟨_, rfl⟩
  refine ⟨_, rfl, given, hgiven, ?_⟩
  obtain ⟨shape, -, rfl⟩ := Option.map_eq_some_iff.mp hgiven
  exact ⟨rfl, rfl, .related _ _⟩

/-- Every handler calls a storage operation that fits it. -/
theorem exists_fitting_of_mem_handlers {o : Operation} (ho : o ∈ a.handlers) :
    ∃ h, o.body = .handle h ∧
      ∃ stored ∈ a.storageOperations, stored.name = h.serviceOperation ∧ a.Fits h.shape stored := by
  obtain ⟨handler, hhandler, rfl⟩ := List.mem_map.mp ho
  rcases List.mem_append.mp hhandler with hbaseline | hrelated
  · obtain ⟨h, hbody, given, hgiven, hname, hparams, huses⟩ := exists_baseline_of_mem hbaseline
    refine ⟨h, hbody, { given with failure := some .runtime }, ?_, hname, hparams, huses, rfl⟩
    exact mem_storageOperations_iff.mpr ⟨given, rfl, .inl hgiven⟩
  · obtain ⟨f, hf, hrelated⟩ := List.mem_filterMap.mp hrelated
    obtain ⟨h, hbody, given, hgiven, hname, hparams, huses⟩ :=
      exists_finder_of_relatedHandler? hrelated
    refine ⟨h, hbody, { given with failure := some .runtime }, ?_, hname, hparams, huses, rfl⟩
    exact mem_storageOperations_iff.mpr ⟨given, rfl, .inr ⟨f, hf, hgiven⟩⟩

/-- What a handler passes are the parameters of the operations that fit it. -/
theorem serviceArgs_eq (shape : HandlerShape) :
    serviceArgs shape = (a.calledWith shape).map Param.argument := by
  cases shape <;> rfl

/-- The body of a handler is decided by the operation that it calls: each parameter is provided under
its name, then all of them are passed in order, and the result is given out by its form. -/
theorem handlerBody_of_fits {r : Renderer} {c : Converters} {h : Handler} {o : Operation}
    (hname : o.name = h.serviceOperation) (hfits : a.Fits h.shape o) {body : Tokens}
    (hbody : r.handlerBody c h = .ok body) :
    ∃ operation mapper value, name o.name = .ok operation ∧
      body = Phrase.all (o.params.map (provide c)) ++
        giveOut (Phrase.call (Phrase.member (word "self") "service" ++ op "." ++ operation)
          (o.params.map Param.argument)) mapper value o.returns := by
  obtain ⟨operation, hoperation, hbody⟩ := bind_eq_ok_iff.mp hbody
  refine ⟨operation, ?_⟩
  have hprovided : Phrase.all (o.params.map (provide c)) =
      match h.shape with
      | .getById | .exists | .delete | .related _ => decodeId c
      | .list | .count => []
      | .create => Phrase.bind (word "entity") (takeBody c)
      | .patch => decodeId c ++ Phrase.bind (word "delta") (takeBody c) := by
    rw [hfits.params]
    cases h.shape <;> simp [calledWith, idParam, provide, Phrase.all]
  rw [hname, hprovided, hfits.params, ← serviceArgs_eq]
  obtain ⟨shape, called⟩ := h
  have huses := hfits.returns
  generalize o.returns = returns at huses
  cases huses with
  | getById t =>
    cases hbody
    exact ⟨c.mapper, "found", hoperation, rfl⟩
  | list t =>
    cases hbody
    exact ⟨c.mapper, "found", hoperation, rfl⟩
  | count =>
    cases hbody
    exact ⟨none, "", hoperation, rfl⟩
  | «exists» =>
    cases hbody
    exact ⟨none, "", hoperation, rfl⟩
  | create t =>
    cases hbody
    refine ⟨c.mapper, "saved", hoperation, ?_⟩
    exact List.append_assoc _ _ _
  | patch t =>
    cases hbody
    exact ⟨c.mapper, "patched", hoperation, rfl⟩
  | delete =>
    cases hbody
    exact ⟨none, "", hoperation, rfl⟩
  | related mapper t =>
    cases mapper with
    | none =>
      cases hbody
      exact ⟨none, "related", hoperation, rfl⟩
    | some m =>
      obtain ⟨shown, -, hbody⟩ := bind_eq_ok_iff.mp hbody
      cases hbody
      exact ⟨shown, "related", hoperation, rfl⟩

/-! ## All layers -/

/-- With services turned on, the service has an interface and an implementation which list the
operations of the repository: the same headings in the same order, and so the same signatures. The
implementation forwards every operation to the repository, and every handler of the controller calls
an operation of the interface that fits it, with a body that is decided by that operation. -/
theorem calls_fit (hservice : a.model.generation.service = true) {repository : Spec}
    (hrepository : a.repositorySpec = .ok repository) :
    ∃ interface impl, a.serviceSpecs = [interface, impl] ∧
      interface.kind = .serviceInterface ∧ impl.kind = .serviceImpl ∧
      interface.operations.map Operation.heading = repository.operations.map Operation.heading ∧
      impl.operations.map Operation.heading = repository.operations.map Operation.heading ∧
      (∀ r : Renderer,
        interface.operations.map (r.signature true) = repository.operations.map (r.signature true) ∧
        impl.operations.map (r.signature true) = repository.operations.map (r.signature true)) ∧
      impl.dependency? .repository = some ⟨.repository, .named repository.name⟩ ∧
      (∀ o ∈ impl.operations, Forwards o) ∧
      ∀ controller, a.controllerSpec? = some controller →
        controller.dependency? .service = some ⟨.service, .named interface.name⟩ ∧
        ∀ o ∈ controller.operations, ∃ h, o.body = .handle h ∧
          ∃ called ∈ interface.operations, called.name = h.serviceOperation ∧
            a.Fits h.shape called ∧
            ∀ (r : Renderer) c body, r.handlerBody c h = .ok body →
              ∃ operation mapper value, name called.name = .ok operation ∧
                body = Phrase.all (called.params.map (provide c)) ++
                  giveOut
                    (Phrase.call (Phrase.member (word "self") "service" ++ op "." ++ operation)
                      (called.params.map Param.argument)) mapper value called.returns := by
  have hstored := (views_repositorySpec hrepository).1
  have hinterface : a.serviceInterfaceSpec.operations.map Operation.heading =
      repository.operations.map Operation.heading := by
    rw [hstored, operations_serviceInterfaceSpec, List.map_map]
    rfl
  have himpl : a.serviceImplSpec.operations.map Operation.heading =
      repository.operations.map Operation.heading := by
    rw [hstored, operations_serviceImplSpec, List.map_map]
    rfl
  refine ⟨a.serviceInterfaceSpec, a.serviceImplSpec, ?_, rfl, rfl, hinterface, himpl, fun r => ?_,
    ?_, fun o => forwards_of_mem_serviceImplSpec, fun controller hcontroller => ?_⟩
  · rw [serviceSpecs, if_pos hservice]
  · exact ⟨map_signature_eq hinterface, map_signature_eq himpl⟩
  · obtain ⟨plan, -, hrepository⟩ := bind_eq_ok_iff.mp hrepository
    cases hrepository
    rfl
  · have hspec := Resolver.eq_of_controllerSpec? hcontroller
    subst hspec
    refine ⟨rfl, fun o ho => ?_⟩
    rw [operations_controllerSpec] at ho
    obtain ⟨h, hbody, stored, hmem, hname, hfits⟩ := exists_fitting_of_mem_handlers ho
    have hcalled : a.Fits h.shape { stored with body := .abstract } :=
      ⟨hfits.params, hfits.returns, hfits.failure⟩
    refine ⟨h, hbody, { stored with body := .abstract }, ?_, hname, hcalled, fun r c body => ?_⟩
    · rw [operations_serviceInterfaceSpec]
      exact List.mem_map_of_mem hmem
    · exact handlerBody_of_fits (o := { stored with body := .abstract }) hname hcalled

/-! ### Calls for a customer with an address -/

private def callingResolver : Resolver where
  index := ⟨[(⟨⟨"shop::model"⟩, "Address"⟩, .model)]⟩
  naming := {}
  dtos := []
  runtimeCrate := "scrud_runtime"

private def callingCustomer : Manifest.Model where
  name := "Customer"
  space := "shop::model"
  identifier := some { type := some "u64" }
  fields :=
    [{ name := "homeAddress", type := "Address", cardinality := some .manyToOne,
       target := some "Address" }]

/-- The handlers of a customer call seven baseline operations and the lookup of the address, and each
of these operations fits. -/
theorem customer_calls_fit :
    ∃ model interface impl controller,
      callingResolver.resolve callingCustomer = .ok model ∧
      let a : Assembly := ⟨model, {}, {}⟩
      a.serviceSpecs = [interface, impl] ∧ a.controllerSpec? = some controller ∧
      interface.operations.map Operation.name = baselineNames ++ ["find_home_address"] ∧
      controller.operations.map Operation.name = baselineHandlerNames ++ ["get_homeAddress"] ∧
      (∀ o ∈ impl.operations, Forwards o) ∧
      ∀ o ∈ controller.operations, ∃ h, o.body = .handle h ∧
        ∃ called ∈ interface.operations, called.name = h.serviceOperation ∧ a.Fits h.shape called := by
  obtain ⟨model, hresolve⟩ : ∃ model, callingResolver.resolve callingCustomer = .ok model := ⟨_, rfl⟩
  let a : Assembly := ⟨model, {}, {}⟩
  have hservice : a.model.generation.service = true := by
    cases hresolve
    rfl
  obtain ⟨repository, hrepository⟩ : ∃ repository, a.repositorySpec = .ok repository := by
    cases hresolve
    exact ⟨_, rfl⟩
  obtain ⟨controller, hcontroller⟩ : ∃ controller, a.controllerSpec? = some controller := by
    cases hresolve
    exact ⟨_, rfl⟩
  obtain ⟨interface, impl, hspecs, -, -, -, -, -, -, hforwards, hhandlers⟩ :=
    calls_fit hservice hrepository
  refine ⟨model, interface, impl, controller, hresolve, hspecs, hcontroller, ?_, ?_, hforwards, ?_⟩
  · cases hresolve
    cases hspecs
    rfl
  · cases hresolve
    cases hcontroller
    rfl
  · intro o ho
    obtain ⟨h, hbody, called, hmem, hname, hfits, -⟩ := (hhandlers controller hcontroller).2 o ho
    exact ⟨h, hbody, called, hmem, hname, hfits⟩

end Assembly

end CrudScaffold
