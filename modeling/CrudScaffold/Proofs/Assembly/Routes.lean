import CrudScaffold.Proofs.Assembly.Operations
import CrudScaffold.Proofs.Text.WordCase
import CrudScaffold.Rendering.Endpoints

/-!
# The route table of a controller

A controller has one handler for each to-one relation beside its baseline handlers. Handlers take
their names from the fields as they are and are never confused. Routes take theirs from the fields
in kebab case, where two fields may be the same, and one word makes a baseline route. The rendered
table has one row for each handler, with the route below the base path of the controller.
-/

namespace CrudScaffold

open Code Text

/-- The to-one relations of a model in kebab case. -/
def Model.relationSegments (m : Model) : List String :=
  m.toOneRelations.map fun f => kebabCase f.name

/-- In kebab case the same relations coincide as in snake case. -/
theorem Model.nodup_relationSegments_iff {m : Model} :
    m.relationSegments.Nodup ↔ m.relationWords.Nodup := by
  unfold Model.relationSegments Model.relationWords List.Nodup
  rw [List.pairwise_map, List.pairwise_map]
  exact List.Pairwise.iff fun f g => not_congr kebabCase_eq_iff

namespace Assembly

variable {a : Assembly}

/-- The names of the baseline handlers, which are the same for every model. -/
def baselineHandlerNames : List String :=
  ["get", "list", "count", "exists", "create", "patch", "delete"]

/-- The routes of the baseline handlers. -/
def baselineRoutes : List Route :=
  [⟨.get, "/\x7bid\x7d"⟩, ⟨.get, ""⟩, ⟨.get, "/count"⟩, ⟨.get, "/\x7bid\x7d/exists"⟩, ⟨.post, ""⟩,
   ⟨.patch, "/\x7bid\x7d"⟩, ⟨.delete, "/\x7bid\x7d"⟩]

/-- The route of a related instance. -/
def relatedRoute (segment : String) : Route := ⟨.get, "/\x7bid\x7d/" ++ segment⟩

/-- The routes that the handlers of a controller have. -/
def routes (a : Assembly) : List Route :=
  baselineRoutes ++ a.model.relationSegments.map relatedRoute

section Targets

variable (htargets : ∀ f ∈ a.model.toOneRelations, ∃ target, f.target = some target)
include htargets

/-- The baseline handlers come first, then one handler for each to-one relation. -/
theorem names_handlers :
    a.handlers.map Operation.name =
      baselineHandlerNames ++ (a.model.toOneRelations.map Model.Field.name).map ("get_" ++ ·) := by
  have hrelated : (a.model.toOneRelations.filterMap a.relatedHandler?).map Operation.name =
      a.model.toOneRelations.map fun f => "get_" ++ f.name := by
    refine map_filterMap_eq_map fun f hf => ?_
    obtain ⟨target, htarget⟩ := htargets f hf
    simp only [relatedHandler?, htarget, Option.map_some]
  simp only [handlers, List.map_map, List.map_append, Function.comp_def, hrelated]
  rfl

/-- Every handler has a route. -/
theorem routes_handlers : a.handlers.map Operation.route = a.routes.map some := by
  have hrelated : (a.model.toOneRelations.filterMap a.relatedHandler?).map Operation.route =
      a.model.toOneRelations.map fun f => some (relatedRoute (kebabCase f.name)) := by
    refine map_filterMap_eq_map fun f hf => ?_
    obtain ⟨target, htarget⟩ := htargets f hf
    simp only [relatedHandler?, htarget, Option.map_some, relatedRoute]
  simp only [handlers, List.map_map, List.map_append, Function.comp_def, hrelated, routes,
    Model.relationSegments]
  rfl

end Targets

/-- Handlers of distinct fields have distinct names, and none that a baseline handler has. -/
theorem nodup_handlerNames {fields : List String} (h : fields.Nodup) :
    (baselineHandlerNames ++ fields.map ("get_" ++ ·)).Nodup := by
  have hprefix : Function.Injective ("get_" ++ ·) := fun _ _ => (String.append_right_inj _).mp
  refine (nodup_append_map_iff hprefix (by decide)).mpr ⟨h, fun field _ => ?_⟩
  simp only [baselineHandlerNames, List.mem_cons, ← String.toList_inj, String.toList_append]
  simp

/-- One word makes a related route of a baseline route. -/
theorem relatedRoute_mem_baselineRoutes_iff {segment : String} :
    relatedRoute segment ∈ baselineRoutes ↔ segment = "exists" := by
  simp only [relatedRoute, baselineRoutes, List.mem_cons, Route.mk.injEq, ← String.toList_inj,
    String.toList_append]
  simp

/-- The routes are distinct exactly if the segments are, and none makes a baseline route. -/
theorem nodup_routes_iff :
    a.routes.Nodup ↔ a.model.relationSegments.Nodup ∧ "exists" ∉ a.model.relationSegments := by
  have hrelated : Function.Injective relatedRoute := fun _ _ h =>
    (String.append_right_inj _).mp (Route.mk.inj h).2
  rw [routes, nodup_append_map_iff hrelated (by decide)]
  refine and_congr_right fun _ => ?_
  simp only [relatedRoute_mem_baselineRoutes_iff]
  exact ⟨fun h hmem => h _ hmem rfl, fun h segment hmem => ne_of_mem_of_not_mem hmem h⟩

end Assembly

/-! ## The rendered table -/

/-- A row of the route table. -/
structure RouteRow where
  method : String
  path : String
  handler : String
  deriving DecidableEq, Repr

/-- Where a handler answers: its method and full path. -/
def RouteRow.place (row : RouteRow) : String × String := (row.method, row.path)

/-- A row as it is written. -/
def RouteRow.tokens (row : RouteRow) : Tokens :=
  Token.enclose .paren
    (Token.commas false [Phrase.text row.method, Phrase.text row.path, Phrase.text row.handler])

namespace Renderer

variable {r : Renderer} {s : Spec}

/-- The row of a handler under a route. -/
def routeRow (s : Spec) (o : Operation) (route : Route) : RouteRow :=
  ⟨route.method.text, basePath s ++ route.path, o.name⟩

/-- The rows of the handlers that have a route. -/
def routeRows (s : Spec) : List RouteRow :=
  s.operations.filterMap fun o => o.route.map (routeRow s o)

/-- A handler is rendered together with its row. -/
theorem entry_of_endpoint {c : Converters} {o : Operation} {rendered : Tokens × Tokens}
    (h : r.endpoint s c o = .ok rendered) :
    (o.route.map (routeRow s o)).map RouteRow.tokens = some rendered.1 := by
  unfold endpoint at h
  split at h
  · next handler route _ hroute =>
    obtain ⟨signature, -, h⟩ := bind_eq_ok_iff.mp h
    obtain ⟨body, -, h⟩ := bind_eq_ok_iff.mp h
    cases h
    rw [hroute]
    rfl
  · cases h
  · cases h

/-- The body of an implementation is part of it. -/
theorem infix_genericImpl (name : Tokens) (parameter : String) (bound : Option Tokens)
    (trait body : Tokens) : body <:+: genericImpl name parameter bound trait body :=
  ((List.prefix_append body _).isInfix.trans (List.suffix_cons _ _).isInfix).trans
    (List.suffix_append _ _).isInfix

/-- A rendered controller holds the table of its rows. -/
theorem routeTable_infix_controller {tokens : Tokens} (h : r.controller s = .ok tokens) :
    routeTable ((routeRows s).map RouteRow.tokens) <:+: tokens := by
  obtain ⟨name, -, h⟩ := bind_eq_ok_iff.mp h
  obtain ⟨interface, -, h⟩ := bind_eq_ok_iff.mp h
  obtain ⟨adapter, -, h⟩ := bind_eq_ok_iff.mp h
  obtain ⟨mapper, -, h⟩ := bind_eq_ok_iff.mp h
  obtain ⟨constants, -, h⟩ := bind_eq_ok_iff.mp h
  obtain ⟨base, -, h⟩ := bind_eq_ok_iff.mp h
  obtain ⟨endpoints, hendpoints, h⟩ := bind_eq_ok_iff.mp h
  cases h
  have hrows : endpoints.map (some ∘ Prod.fst) =
      s.operations.map fun o => (o.route.map (routeRow s o)).map RouteRow.tokens :=
    map_eq_of_mapM_eq_ok (fun _ _ hendpoint => (entry_of_endpoint hendpoint).symm) hendpoints
  have hentries : endpoints.map Prod.fst = (routeRows s).map RouteRow.tokens :=
    calc endpoints.map Prod.fst = (endpoints.map (some ∘ Prod.fst)).filterMap id := by
          rw [List.filterMap_map, ← List.filterMap_eq_map]
          rfl
      _ = (routeRows s).map RouteRow.tokens := by
          rw [hrows, List.filterMap_map, routeRows, List.map_filterMap]
          rfl
  rw [← hentries]
  exact ((List.infix_append _ _ _).trans (infix_genericImpl _ _ _ _ _)).trans
    (List.infix_append _ _ _)

/-- A row for each handler, as long as all of them have a route. -/
theorem handlers_routeRows {routes : List Route}
    (h : s.operations.map Operation.route = routes.map some) :
    (routeRows s).map RouteRow.handler = s.operations.map Operation.name := by
  refine map_filterMap_eq_map fun o ho => ?_
  have hmem : o.route ∈ routes.map some := h ▸ List.mem_map_of_mem ho
  obtain ⟨route, -, hroute⟩ := List.mem_map.mp hmem
  rw [← hroute]
  rfl

/-- A row gives the method and the full path of its route. -/
theorem places_routeRows {routes : List Route}
    (h : s.operations.map Operation.route = routes.map some) :
    (routeRows s).map RouteRow.place =
      routes.map fun route => (route.method.text, basePath s ++ route.path) :=
  calc (routeRows s).map RouteRow.place
    _ = (s.operations.map Operation.route).filterMap
          (Option.map fun route => (route.method.text, basePath s ++ route.path)) := by
        rw [routeRows, List.map_filterMap, List.filterMap_map]
        simp only [Option.map_map]
        rfl
    _ = routes.map fun route => (route.method.text, basePath s ++ route.path) := by
        rw [h, List.filterMap_map, ← List.filterMap_eq_map]
        rfl

/-- Below one base path, routes are distinct exactly if methods and full paths are. -/
theorem nodup_places_iff (base : String) {routes : List Route} :
    (routes.map fun route => (route.method.text, base ++ route.path)).Nodup ↔ routes.Nodup := by
  have hmethod : Function.Injective HttpMethod.text := by
    intro x y
    cases x <;> cases y <;> decide
  refine List.nodup_map_iff fun x y hplace => ?_
  obtain ⟨hmethods, hpaths⟩ := Prod.mk.inj hplace
  obtain ⟨method, path⟩ := x
  rw [Route.mk.injEq]
  exact ⟨hmethod hmethods, (String.append_right_inj _).mp hpaths⟩

/-- The base path of a controller is the path fragment of its model. -/
theorem basePath_controllerSpec (a : Assembly) :
    basePath a.controllerSpec = "/" ++ Naming.pathFragment a.model := by
  rw [basePath, Assembly.constants_controllerSpec]
  rfl

end Renderer

/-! ## Controllers of resolved models -/

namespace Resolver

open Assembly Renderer

variable {r : Resolver} {m : Manifest.Model} {model : Model} {s : Spec}

/-- A controller that is not left out is the controller of the model. -/
theorem eq_of_controllerSpec? {a : Assembly} (hs : a.controllerSpec? = some s) :
    s = a.controllerSpec := by
  unfold controllerSpec? at hs
  split at hs
  · exact (Option.some.inj hs).symm
  · cases hs

/-- A controller has its baseline handlers and one handler for each to-one relation. -/
theorem operations_of_controllerSpec? (h : r.resolve m = .ok model) {a : Assembly}
    (ha : a.model = model) (hs : a.controllerSpec? = some s) :
    s.operations.map Operation.name = baselineHandlerNames ++
        (model.toOneRelations.map Model.Field.name).map ("get_" ++ ·) ∧
      s.operations.map Operation.route = a.routes.map some := by
  subst ha
  have htargets : ∀ f ∈ a.model.toOneRelations, ∃ target, f.target = some target :=
    fun f => exists_target_of_resolve h
  rw [eq_of_controllerSpec? hs, operations_controllerSpec]
  exact ⟨names_handlers htargets, routes_handlers htargets⟩

/-- Handlers of the controller of a resolved model have distinct names, and each has a route. The
routes are distinct exactly if the to-one relations are distinct in kebab case and none of them is
then `exists`; where all relations are in snake case, only the latter matters. The rendered table
has one row for each handler, with its route below the path fragment of the model, and its rows
differ in method or full path under the same condition. -/
theorem routes_distinct_iff (h : r.resolve m = .ok model) (graph : ModelGraph) (naming : Naming)
    (hs : (⟨model, graph, naming⟩ : Assembly).controllerSpec? = some s) :
    let segments := model.relationSegments
    let routes := baselineRoutes ++ segments.map relatedRoute
    (s.operations.map Operation.name).Nodup ∧
    s.operations.map Operation.route = routes.map some ∧
    (routes.Nodup ↔ segments.Nodup ∧ "exists" ∉ segments) ∧
    ((∀ f ∈ model.toOneRelations, snakeCase f.name = f.name) → segments.Nodup) ∧
    (routeRows s).map RouteRow.handler = s.operations.map Operation.name ∧
    (routeRows s).map RouteRow.place =
      routes.map (fun x => (x.method.text, "/" ++ Naming.pathFragment model ++ x.path)) ∧
    (((routeRows s).map RouteRow.place).Nodup ↔ segments.Nodup ∧ "exists" ∉ segments) ∧
    ∀ (renderer : Renderer) (tokens : Tokens), renderer.controller s = .ok tokens →
      routeTable ((routeRows s).map RouteRow.tokens) <:+: tokens := by
  intro segments routes
  obtain ⟨hnames, hroutes⟩ := operations_of_controllerSpec? h rfl hs
  have hfields : (model.toOneRelations.map Model.Field.name).Nodup :=
    (List.filter_sublist.map Model.Field.name).nodup (nodup_fields_of_resolve h)
  have hdistinct : routes.Nodup ↔ segments.Nodup ∧ "exists" ∉ segments :=
    nodup_routes_iff (a := ⟨model, graph, naming⟩)
  have hplaces : (routeRows s).map RouteRow.place =
      routes.map fun x => (x.method.text, "/" ++ Naming.pathFragment model ++ x.path) := by
    have hbase : basePath s = "/" ++ Naming.pathFragment model := by
      rw [eq_of_controllerSpec? hs, basePath_controllerSpec]
    rw [places_routeRows hroutes, hbase]
    rfl
  refine ⟨?_, hroutes, hdistinct, fun hsnake => ?_, handlers_routeRows hroutes, hplaces, ?_,
    fun _ _ hrendered => routeTable_infix_controller hrendered⟩
  · rw [hnames]
    exact nodup_handlerNames hfields
  · exact Model.nodup_relationSegments_iff.mpr (nodup_relationWords h hsnake)
  · rw [hplaces, nodup_places_iff, hdistinct]

/-! ### Routes of a customer with two addresses -/

private def routedResolver : Resolver where
  index := ⟨[(⟨⟨"shop::model"⟩, "Address"⟩, .model)]⟩
  naming := {}
  dtos := []
  runtimeCrate := "scrud_runtime"

private def routedCustomer (first second : String) : Manifest.Model where
  name := "Customer"
  space := "shop::model"
  identifier := some { type := some "u64" }
  fields :=
    [{ name := first, type := "Address", cardinality := some .manyToOne, target := some "Address" },
     { name := second, type := "Address", cardinality := some .manyToOne, target := some "Address" }]

/-- Both addresses have routes of their own beside the routes of the customer. -/
theorem two_addresses_have_routes :
    ∃ model s, routedResolver.resolve (routedCustomer "home_address" "workplace") = .ok model ∧
      (⟨model, {}, {}⟩ : Assembly).controllerSpec? = some s ∧
      s.operations.map Operation.route =
        (baselineRoutes ++ ["home-address", "workplace"].map relatedRoute).map some ∧
      (s.operations.map Operation.name).Nodup ∧ ((routeRows s).map RouteRow.place).Nodup := by
  obtain ⟨model, hresolve⟩ : ∃ model,
      routedResolver.resolve (routedCustomer "home_address" "workplace") = .ok model := ⟨_, rfl⟩
  obtain ⟨s, hs⟩ : ∃ s, (⟨model, {}, {}⟩ : Assembly).controllerSpec? = some s := by
    cases hresolve
    exact ⟨_, rfl⟩
  have hsegments : model.relationSegments = ["home-address", "workplace"] := by
    cases hresolve
    rfl
  obtain ⟨hnames, hroutes, -, -, -, -, hrows, -⟩ := routes_distinct_iff hresolve {} {} hs
  rw [hsegments] at hroutes hrows
  exact ⟨model, s, hresolve, hs, hroutes, hnames, hrows.mpr (by decide)⟩

/-- Two spellings of one name have one route, for two handlers and in two rows of the table. -/
theorem home_address_has_two_handlers :
    ∃ model s, routedResolver.resolve (routedCustomer "homeAddress" "home_address") = .ok model ∧
      (⟨model, {}, {}⟩ : Assembly).controllerSpec? = some s ∧
      ¬ (s.operations.map Operation.route).Nodup ∧
      (routeRows s).length = s.operations.length ∧
      ¬ ((routeRows s).map RouteRow.place).Nodup := by
  obtain ⟨model, hresolve⟩ : ∃ model,
      routedResolver.resolve (routedCustomer "homeAddress" "home_address") = .ok model := ⟨_, rfl⟩
  obtain ⟨s, hs⟩ : ∃ s, (⟨model, {}, {}⟩ : Assembly).controllerSpec? = some s := by
    cases hresolve
    exact ⟨_, rfl⟩
  have htwice : ¬ (⟨model, {}, {}⟩ : Assembly).routes.Nodup := by
    have hsegments : model.relationSegments = ["home-address", "home-address"] := by
      cases hresolve
      rfl
    rw [nodup_routes_iff, hsegments]
    decide
  have hroutes := (operations_of_controllerSpec? hresolve rfl hs).2
  have hrows : (routeRows s).length = s.operations.length := by
    simpa using congrArg List.length (handlers_routeRows hroutes)
  refine ⟨model, s, hresolve, hs, ?_, hrows, ?_⟩
  · rwa [hroutes, List.nodup_map_iff fun _ _ => Option.some.inj]
  · rwa [places_routeRows hroutes, nodup_places_iff]

end Resolver

end CrudScaffold
