import CrudScaffold.Manifest.Basic
import CrudScaffold.Toml.Reader
import CrudScaffold.Toml.Shape

/-!
# Reading a manifest

The tables of a document that make up a manifest, with the names and defaults of their keys.
-/

namespace CrudScaffold.Manifest

open Toml Toml.Decoder

/-- One component of a composite identifier. -/
def Slot.decode : Decoder Slot :=
  record "CompositeSlotBag" [("entity", string.check), ("id_type", string.check)] fun f => do
    .ok { entity := ← f.required "entity" string
          idType := ← f.withDefault "id_type" string "String" }

/-- A declared identifier. -/
def Identifier.decode : Decoder Identifier :=
  record "IdentifierBag"
    [("field", string.check), ("type", string.check), ("composite", (list Slot.decode).check)]
    fun f => do
      .ok { field := ← f.withDefault "field" string "id"
            type := ← f.optional "type" string
            composite := ← f.optional "composite" (list Slot.decode) }

/-- Superclass overrides. -/
def Superclasses.decode : Decoder Superclasses :=
  record "SuperclassBag"
    [("repository", string.check), ("service_impl", string.check), ("controller", string.check)]
    fun f => do
      .ok { repository := ← f.optional "repository" string
            serviceImpl := ← f.optional "service_impl" string
            controller := ← f.optional "controller" string }

/-- What to generate for a model. -/
def Generation.decode : Decoder Generation :=
  record "GenerationBag"
    [("controller", boolean.check), ("service", boolean.check), ("path_fragment", string.check),
     ("superclass", Superclasses.decode.check)]
    fun f => do
      .ok { controller := ← f.withDefault "controller" boolean true
            service := ← f.withDefault "service" boolean true
            pathFragment := ← f.optional "path_fragment" string
            superclass := ← f.withDefault "superclass" Superclasses.decode {} }

/-- A declared field. -/
def Field.decode : Decoder Field :=
  record "FieldBag"
    [("name", string.check), ("type", string.check),
     ("cardinality", (variant Cardinality.named).check), ("target", string.check),
     ("bidirectional", boolean.check), ("reverse", string.check), ("optional", boolean.check)]
    fun f => do
      .ok { name := ← f.required "name" string
            type := ← f.required "type" string
            cardinality := ← f.optional "cardinality" (variant Cardinality.named)
            target := ← f.optional "target" string
            bidirectional := ← f.withDefault "bidirectional" boolean false
            reverse := ← f.optional "reverse" string
            optional := ← f.withDefault "optional" boolean false }

/-- A declared model. -/
def Model.decode : Decoder Model :=
  record "ModelBag"
    [("name", string.check), ("namespace", string.check), ("entity", boolean.check),
     ("scrud_bean", boolean.check), ("disableable", boolean.check), ("audited", boolean.check),
     ("dtos", (list string).check), ("eager_fetch", (list string).check),
     ("identifier", Identifier.decode.check), ("generate", Generation.decode.check),
     ("field", (list Field.decode).check)]
    fun f => do
      .ok { name := ← f.required "name" string
            space := ← f.required "namespace" string
            entity := ← f.withDefault "entity" boolean true
            scrudBean := ← f.withDefault "scrud_bean" boolean true
            disableable := ← f.withDefault "disableable" boolean false
            audited := ← f.withDefault "audited" boolean false
            dtos := ← f.withDefault "dtos" (list string) []
            eagerFetch := ← f.withDefault "eager_fetch" (list string) []
            identifier := ← f.optional "identifier" Identifier.decode
            generate := ← f.withDefault "generate" Generation.decode {}
            fields := ← f.withDefault "field" (list Field.decode) [] }

/-- A declared DTO. -/
def Dto.decode : Decoder Dto :=
  record "DtoBag"
    [("name", string.check), ("model", string.check), ("namespace", string.check),
     ("fields", (list string).check)]
    fun f => do
      .ok { name := ← f.required "name" string
            model := ← f.required "model" string
            space := ← f.optional "namespace" string
            fields := ← f.optional "fields" (list string) }

/-- Settings of the generator. -/
def Generator.decode : Decoder Generator :=
  record "GeneratorSection"
    [("settings", (entries string).check), ("known_types", (list string).check),
     ("runtime_crate", string.check), ("codec_crate", string.check)]
    fun f => do
      .ok { settings := ← f.withDefault "settings" (entries string) []
            knownTypes := ← f.withDefault "known_types" (list string) []
            runtimeCrate := ← f.optional "runtime_crate" string
            codecCrate := ← f.optional "codec_crate" string }

end Manifest

/-- A manifest. -/
def Manifest.decode : Toml.Decoder Manifest :=
  Toml.record "Manifest"
    [("generator", Manifest.Generator.decode.check),
     ("model", (Toml.Decoder.list Manifest.Model.decode).check),
     ("dto", (Toml.Decoder.list Manifest.Dto.decode).check)]
    fun f => do
      .ok { generator := ← f.withDefault "generator" Manifest.Generator.decode {}
            models := ← f.withDefault "model" (.list Manifest.Model.decode) []
            dtos := ← f.withDefault "dto" (.list Manifest.Dto.decode) [] }

/-- Why a text could not be read as the value that was asked for. -/
inductive ReadError where
  /-- The text is no document. -/
  | notADocument
  /-- The document does not have the right shape. -/
  | shape (fault : Toml.ShapeError)
  deriving DecidableEq, Repr

/-- Read a value from the text of a document. -/
def Toml.Decoder.ofText {α : Type} (d : Toml.Decoder α) (text : String) : Except ReadError α :=
  match Toml.parse text with
  | none => .error .notADocument
  | some entries => (d (.table entries)).mapError .shape

/-- Read the text of a manifest. -/
def Manifest.ofText (text : String) : Except ReadError Manifest := Manifest.decode.ofText text

end CrudScaffold
