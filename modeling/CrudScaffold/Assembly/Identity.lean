import CrudScaffold.Assembly.Basic
import CrudScaffold.Codec.Segments

/-!
# Identifier adapters

The adapter of a model publishes its identifier type under an alias and carries identifiers to and
from their text form. Composite identifiers are left to the codec.
-/

namespace CrudScaffold.Assembly

variable (a : Assembly)

/-- The slots of a composite identifier: the codec's slot names beside the declared components. -/
def codecSlots (arity : Arity) (slots : List Model.Slot) : List CodecSlot :=
  arity.slotNames.zipWith (fun name s => ⟨name, s.entity, s.idType⟩) slots

/-- How identifiers of the model are written. -/
def codecContract : CodecContract :=
  match a.model.identifier.kind with
  | .scalar idType => .scalar idType
  | .composite arity slots => .composite separator arity (codecSlots arity slots)

/-- The published identifier type. -/
def identifierContract : IdentifierContract where
  aliasName := a.naming.idAliasName a.model
  modelField := a.model.identifier.field
  codec := a.codecContract

/-- The operation that writes an identifier. -/
def encodeOperation : Operation where
  name := "encode"
  params := [⟨"id", a.idType, .ref⟩]
  returns := .optional .text
  body := .codec .encode

/-- The operation that reads an identifier. -/
def decodeOperation : Operation where
  name := "decode"
  params := [⟨"raw", .text, .ref⟩]
  returns := .value a.idType
  failure := some .malformed
  body := .codec .decode

/-- The identifier adapter. -/
def idAdapterSpec : Spec where
  name := a.artifact .idAdapter
  kind := .idAdapter
  members :=
    [.identifier a.identifierContract, .operation a.encodeOperation, .operation a.decodeOperation]
  doc := s!"Converts [`{a.model.name}`] identifiers to and from their canonical string form."
  source := a.model

end CrudScaffold.Assembly
