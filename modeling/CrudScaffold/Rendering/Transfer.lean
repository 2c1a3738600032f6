import CrudScaffold.Rendering.Basic

/-!
# Rendered DTOs and mappers
-/

namespace CrudScaffold.Renderer

open Code Code.Token

variable (r : Renderer)

/-! ## DTOs -/

/-- A field of a rendered structure. -/
structure RenderedField where
  attributes : Tokens
  name : Tokens
  type : Tokens

/-- Serialisation of a member: absent values are left out and read back as absent, lists may be left
out. -/
def memberAttributes : TypeRef → Tokens
  | .optional _ =>
    Phrase.attr (Phrase.call (word "serde")
      [word "default", word "skip_serializing_if" ++ op "=" ++ Phrase.text "Option::is_none"])
  | .list _ => Phrase.attr (Phrase.call (word "serde") [word "default"])
  | _ => []

/-- A field of a DTO. -/
def dtoField (f : FieldMember) : Rendered RenderedField := do
  let name ← name f.name
  let type ← r.type f.type
  return ⟨memberAttributes f.type, name, type⟩

/-- The fields of a DTO. -/
def dtoFields (s : Spec) : Rendered (List RenderedField) := s.fields.mapM r.dtoField

/-- A public field with a comma after it. -/
def RenderedField.tokens (f : RenderedField) : Tokens :=
  f.attributes ++ word "pub" ++ f.name ++ op ":" ++ f.type ++ op ","

/-- Traits of a DTO. -/
def dtoTraits : Tokens :=
  Phrase.derive [word "Debug", word "Clone", Phrase.namePath ["serde", "Serialize"],
    Phrase.namePath ["serde", "Deserialize"]]

/-- A DTO. -/
def dto (s : Spec) : Rendered Tokens := do
  let name ← name s.name.name
  let fields ← r.dtoFields s
  return doc s.doc ++ dtoTraits ++ word "pub" ++ word "struct" ++ name ++
    Phrase.braced (Phrase.all (fields.map RenderedField.tokens))

/-! ## Mappers -/

/-- A helper of the runtime crate for conversions. -/
def helper (name : String) (args : List Tokens) : Tokens :=
  Phrase.call (r.inRuntime ["mapping", name]) args

/-- A function of a type. -/
def associated (type : Tokens) (function : String) : Tokens :=
  Phrase.qualified [type, word function]

/-- A field of a variable. -/
def fieldOf (owner : String) (field : Tokens) : Tokens := word owner ++ op "." ++ field

/-- The value of a DTO field. -/
def shown (c : Conversion) (source : Tokens) : Rendered Tokens :=
  match c with
  | .direct => .ok (Phrase.method source "clone" [])
  | .embed mapper => do
    return r.helper "embed" [Phrase.refer source, associated (← r.named mapper) "to_dto"]
  | .embedList mapper => do
    return r.helper "embed_all" [Phrase.refer source, associated (← r.named mapper) "to_dto"]
  | .reference => .ok (r.helper "reference" [Phrase.refer source])
  | .referenceList => .ok (r.helper "references" [Phrase.refer source])

/-- The value of a model field. -/
def taken (c : Conversion) (source : Tokens) : Rendered Tokens :=
  match c with
  | .direct => .ok (Phrase.method source "clone" [])
  | .embed mapper => do
    let args := [Phrase.refer source, associated (← r.named mapper) "to_model"]
    return r.helper "unembed" args ++ op "?"
  | .embedList mapper => do
    let args := [Phrase.refer source, associated (← r.named mapper) "to_model"]
    return r.helper "unembed_all" args ++ op "?"
  | .reference => .ok (r.helper "dereference" [Phrase.refer source] ++ op "?")
  | .referenceList => .ok (r.helper "dereference_all" [Phrase.refer source] ++ op "?")

/-- One field of the DTO that is built. -/
def shownField (c : FieldCopy) : Rendered Tokens := do
  let field ← name c.field
  let value ← r.shown c.conversion (fieldOf "model" field)
  return field ++ op ":" ++ value

/-- The assignment of one field of the model. -/
def assignedField (c : FieldCopy) : Rendered Tokens := do
  let field ← name c.field
  let value ← r.taken c.conversion (fieldOf "dto" field)
  return fieldOf "model" field ++ op "=" ++ value ++ op ";"

/-- The assignment of the identifier; a DTO without one leaves the identifier alone. -/
def assignedId (adapter id : Tokens) : Tokens :=
  word "if" ++ word "let" ++ Phrase.call (word "Some") [word "raw"] ++ op "=" ++
    Phrase.method (fieldOf "dto" id) "as_deref" [] ++
    Phrase.braced (fieldOf "model" id ++ op "=" ++
      Phrase.call (associated adapter "decode") [word "raw"] ++ op "?" ++ op ";")

/-- Assignments of the identifier and of all carried fields. -/
def assignments (m : Mapping) (adapter : Tokens) : Rendered Tokens := do
  let id ← name m.idField
  let fields ← m.copies.mapM r.assignedField
  return assignedId adapter id ++ Phrase.all fields

/-- The value of a function that succeeds. -/
def succeed (value : Tokens) : Tokens := Phrase.call (word "Ok") [value]

/-- The body of a mapping. -/
def mappingBody (m : Mapping) (model adapter id : Tokens) : Rendered Tokens :=
  match m.direction with
  | .toDto => do
    let dto ← r.named m.dto
    let copies ← m.copies.mapM r.shownField
    let encoded := Phrase.call (associated adapter "encode") [Phrase.refer (fieldOf "model" id)]
    return dto ++ Phrase.braced (commas true ((id ++ op ":" ++ encoded) :: copies))
  | .toModel => do
    let body ← r.assignments m adapter
    let fresh := op "<" ++ model ++ word "as" ++ op "::" ++
      Phrase.namePath ["core", "default", "Default"] ++ op ">" ++ op "::" ++
      Phrase.call (word "default") []
    return word "let" ++ word "mut" ++ word "model" ++ op "=" ++ fresh ++ op ";" ++ body ++
      succeed (word "model")
  | .ontoModel => do
    let body ← r.assignments m adapter
    return body ++ succeed (enclose .paren [])

/-- A function of a mapper. -/
def mapperFunction (o : Operation) : Rendered Tokens := do
  match o.body with
  | .map m =>
    let signature ← r.signature false o
    let model ← r.named m.model
    let adapter ← r.named m.idAdapter
    let id ← name m.idField
    let body ← r.mappingBody m model adapter id
    return operationDoc o ++ publicFunction signature body
  | _ => .error (.notAMapping o.name)

/-- A mapper. -/
def mapper (s : Spec) : Rendered Tokens := do
  let name ← name s.name.name
  let functions ← s.operations.mapM r.mapperFunction
  return doc s.doc ++ unitStruct name ++ unitImpl name functions

end CrudScaffold.Renderer
