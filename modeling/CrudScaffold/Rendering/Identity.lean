import CrudScaffold.Rendering.Basic

/-!
# Rendered identifier adapters
-/

namespace CrudScaffold.Renderer

open Code Code.Token

variable (r : Renderer)

/-- An identifier type with the code that writes and reads it. -/
structure IdentifierCode where
  type : Tokens
  encode : Tokens
  decode : Tokens

/-- The name of the composite type of an arity. -/
def compositeName : Arity → String
  | .two => "Pair"
  | .three => "Triple"
  | .four => "Quadruple"

/-- The error for a scalar identifier that does not read. -/
def scalarMalformed : Tokens :=
  let fields := [word "value" ++ op ":" ++ Phrase.method (word "raw") "to_string" [],
    word "arity" ++ op ":" ++ [.literal "1"]]
  Phrase.bind (word "malformed")
    (op "||" ++ r.inCodec ["MalformedIdentifier"] ++ Phrase.braced (commas true fields))

/-- A value is blank. -/
def isBlankText (value : String) : Tokens :=
  Phrase.method (Phrase.method (word value) "trim" []) "is_empty" []

/-- The code of a scalar identifier: its own text form, unless that is blank. -/
def scalarCode (aliasName type : Tokens) : IdentifierCode where
  type
  encode :=
    Phrase.method (Phrase.call (word "Some") [Phrase.method (word "id") "to_string" []]) "filter"
      [Phrase.closure "encoded" (op "!" ++ isBlankText "encoded")]
  decode :=
    r.scalarMalformed ++ word "if" ++ isBlankText "raw" ++
      Phrase.braced (word "return" ++
        Phrase.call (word "Err") [Phrase.call (word "malformed") []] ++ op ";") ++
      Phrase.method
        (Phrase.call (Phrase.turbofish (Phrase.member (word "raw") "parse") [aliasName]) [])
        "map_err" [Phrase.closure "_" (Phrase.call (word "malformed") [])]

/-- The builder of one component. -/
def componentBuilder (entity : Tokens) : Tokens :=
  op "<" ++ entity ++ word "as" ++ r.inCodec ["FromIdentifier"] ++ op ">" ++ op "::" ++
    word "from_identifier"

/-- The code of a composite identifier: the codec's type over the entities of the slots. -/
def compositeCode (aliasName : Tokens) (arity : Arity) (entities : List Tokens) :
    IdentifierCode where
  type := Phrase.applied (r.inCodec [compositeName arity]) entities
  encode := Phrase.method (word "id") "encode" []
  decode := Phrase.qualified
    [aliasName, Phrase.call (word "decode_with") (word "raw" :: entities.map r.componentBuilder)]

/-- The code of an identifier. -/
def identifierCode (aliasName : Tokens) : CodecContract → Rendered IdentifierCode
  | .scalar idType => r.scalarCode aliasName <$> r.type (.declared idType)
  | .composite _ arity slots => do
    let entities ← slots.mapM fun s => r.named s.entity
    return r.compositeCode aliasName arity entities

/-- A function of an identifier adapter. -/
def adapterFunction (code : IdentifierCode) (o : Operation) : Rendered Tokens := do
  let signature ← r.signature false o
  match o.body with
  | .codec .encode => return publicFunction signature code.encode
  | .codec .decode => return publicFunction signature code.decode
  | _ => .error (.notACodec o.name)

/-- An identifier adapter and the alias that it publishes. -/
def idAdapter (s : Spec) : Rendered Tokens := do
  let name ← name s.name.name
  match s.identifier? with
  | none => .error .noContract
  | some contract =>
    let aliasName ← Renderer.name contract.aliasName.name
    let code ← r.identifierCode aliasName contract.codec
    let functions ← s.operations.mapM (r.adapterFunction code)
    return Phrase.docLine s!" Identifier of [`{s.source.name}`]." ++
      word "pub" ++ word "type" ++ aliasName ++ op "=" ++ code.type ++ op ";" ++
      doc s.doc ++ unitStruct name ++ unitImpl name functions

end CrudScaffold.Renderer
