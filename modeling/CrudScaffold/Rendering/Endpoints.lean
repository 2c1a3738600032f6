import CrudScaffold.Rendering.Basic

/-!
# Rendered controllers

A handler decodes the identifier from the path, calls the service and shows the result through a
mapper. All routes stand in a table.
-/

namespace CrudScaffold.Renderer

open Code Code.Token

variable (r : Renderer)

/-- The base path of a controller: its first constant of that name. -/
def basePath (s : Spec) : String :=
  match s.constants.find? fun c => c.name == "BASE_PATH" with
  | some c => c.value
  | none => ""

/-- A reference to a text that lives forever. -/
def staticText : Tokens := op "&" ++ [.lifetime "static"] ++ word "str"

/-- A public constant. -/
def constantItem (c : Constant) : Rendered Tokens := do
  let name ← name c.name
  return word "pub" ++ word "const" ++ name ++ op ":" ++ staticText ++ op "=" ++
    Phrase.text c.value ++ op ";"

/-! ## Handlers -/

/-- The type functions that a handler goes through. -/
structure Converters where
  adapter : Tokens
  mapper : Option Tokens

/-- The statement that decodes the identifier. -/
def decodeId (c : Converters) : Tokens :=
  Phrase.bind (word "id")
    (Phrase.call (Phrase.qualified [c.adapter, word "decode"]) [word "id"] ++ op "?")

/-- A value as it is given out: through a mapper if there is one. -/
def showWith (mapper : Option Tokens) (value : String) : Tokens :=
  match mapper with
  | some m => Phrase.call (Phrase.qualified [m, word "to_dto"]) [Phrase.refer (word value)]
  | none => word value

/-- The body of a request as a model. -/
def takeBody (c : Converters) : Tokens :=
  match c.mapper with
  | some m =>
    Phrase.call (Phrase.qualified [m, word "to_model"]) [Phrase.refer (word "body")] ++ op "?"
  | none => word "body"

/-- What a handler passes to the service. -/
def serviceArgs : HandlerShape → List Tokens
  | .getById | .exists | .delete | .related _ => [Phrase.refer (word "id")]
  | .list | .count => []
  | .create => [word "entity"]
  | .patch => [Phrase.refer (word "id"), word "delta"]

/-- The call of the service. -/
def serviceCall (operation : Tokens) (shape : HandlerShape) : Tokens :=
  Phrase.call (Phrase.member (word "self") "service" ++ op "." ++ operation) (serviceArgs shape)

/-- A value under a name, shown inside whatever holds it. -/
def mapEach (container : Tokens) (mapper : Option Tokens) (value : String) : Tokens :=
  Phrase.method container "map" [Phrase.closure value (showWith mapper value)]

/-- The body of a handler. -/
def handlerBody (c : Converters) (h : Handler) : Rendered Tokens := do
  let operation ← name h.serviceOperation
  let called := serviceCall operation h.shape
  let ok (value : Tokens) : Tokens := Phrase.call (word "Ok") [value]
  match h.shape with
  | .getById => return decodeId c ++ ok (mapEach (called ++ op "?") c.mapper "found")
  | .list =>
    let each := Phrase.method (called ++ op "?") "into_iter" []
    return ok (Phrase.method (mapEach each c.mapper "found") "collect" [])
  | .count => return called
  | .exists | .delete => return decodeId c ++ called
  | .create =>
    return Phrase.bind (word "entity") (takeBody c) ++
      Phrase.bind (word "saved") (called ++ op "?") ++ ok (showWith c.mapper "saved")
  | .patch =>
    return decodeId c ++ Phrase.bind (word "delta") (takeBody c) ++
      ok (mapEach (called ++ op "?") c.mapper "patched")
  | .related mapper =>
    let mapper ← match mapper with
      | some m => some <$> r.named m
      | none => pure none
    return decodeId c ++ ok (mapEach (called ++ op "?") mapper "related")

/-- A handler, and its entry in the route table. -/
def endpoint (s : Spec) (c : Converters) (o : Operation) : Rendered (Tokens × Tokens) :=
  match o.body, o.route with
  | .handle h, some route => do
    let path := basePath s ++ route.path
    let entry := enclose .paren
      (commas false [Phrase.text route.method.text, Phrase.text path, Phrase.text o.name])
    let signature ← r.signature true o
    let body ← r.handlerBody c h
    let docLine := Phrase.docLine s!" `{route.method.text} {path}`"
    return (entry, docLine ++ publicFunction signature body)
  | .handle _, none => .error (.noRoute o.name)
  | _, _ => .error (.notAHandler o.name)

/-- The table of all routes. -/
def routeTable (entries : List Tokens) : Tokens :=
  let triple := enclose .paren (commas false [staticText, staticText, staticText])
  Phrase.fixedDocLine " `(method, path, handler)` for every endpoint." ++
    word "pub" ++ word "const" ++ word "ROUTES" ++ op ":" ++ op "&" ++ [.lifetime "static"] ++
    enclose .bracket triple ++ op "=" ++ op "&" ++ enclose .bracket (commas false entries) ++ op ";"

/-- A controller. -/
def controller (s : Spec) : Rendered Tokens := do
  let name ← name s.name.name
  let interface ← r.required s .service
  let adapter ← r.required s .idAdapter
  let mapper ← r.dependencyType? s .mapper
  let constants ← s.constants.mapM constantItem
  let base ← r.dependencyType? s .base
  let endpoints ← s.operations.mapM (r.endpoint s ⟨adapter, mapper⟩)
  return doc s.doc ++
    genericStruct name "Svc"
      (word "service" ++ op ":" ++ word "Svc" ++ op "," ++ baseField true base) ++
    genericImpl name "Svc" none []
      (Phrase.all constants ++ routeTable (endpoints.map Prod.fst) ++
        constructor "service" (word "Svc") base) ++
    genericImpl name "Svc" (some interface) [] (Phrase.all (endpoints.map Prod.snd))

end CrudScaffold.Renderer
