import CrudScaffold.Codec.Segments

/-!
# Composite identifiers

A composite identifier is an ordered tuple of two to four component entities. Two composites are
the same identifier when their components have the same identifiers, whatever else the components
carry. The written form is the joined component identifiers, and reading hands each segment to the
builder of its slot.
-/

namespace CrudScaffold

/-- Things that can give the text of their identifier. -/
class Identifiable (α : Type) where
  identifier : α → Option String

/-- Things that can be built back from the text of their identifier. -/
class FromIdentifier (α : Type) where
  fromIdentifier : String → α

export Identifiable (identifier)
export FromIdentifier (fromIdentifier)

instance : Identifiable String := ⟨some⟩

instance : FromIdentifier String := ⟨id⟩

instance {α : Type} [Identifiable α] : Identifiable (Option α) := ⟨fun a => a.bind identifier⟩

/-- Natural numbers are identified by their decimal text. -/
instance : Identifiable Nat := ⟨fun n => some (toString n)⟩

/-- Integers are identified by their decimal text. -/
instance : Identifiable Int := ⟨fun n => some (toString n)⟩

/-- Two components, typically the key of a join model. -/
structure Pair (α β : Type) where
  left : α
  right : β

/-- Three components. -/
structure Triple (α β γ : Type) where
  left : α
  middle : β
  right : γ

/-- Four components. -/
structure Quadruple (α β γ δ : Type) where
  left : α
  innerLeft : β
  innerRight : γ
  right : δ

/-- Tuples of identifiable components, in slot order. -/
class Composite (κ : Type) where
  componentIds : κ → List (Option String)

export Composite (componentIds)

namespace Composite

variable {κ : Type} [Composite κ]

/-- The written form; `none` when no component has an identifier. -/
def encode (c : κ) : Option String := Segments.encode (componentIds c)

/-- The written form, empty when there is nothing to write. -/
def display (c : κ) : String := (encode c).getD ""

/-- Same component identifiers in the same slots. -/
def same (a b : κ) : Bool := componentIds a == componentIds b

/-- Equal composites hash alike, because only the component identifiers are hashed. -/
def hashCode (c : κ) : UInt64 := hash (componentIds c)

/-- Values that are the same have one hash code. -/
theorem hashCode_eq_of_same {a b : κ} (h : same a b = true) : hashCode a = hashCode b := by
  have : componentIds a = componentIds b := by simpa [same] using h
  simp [hashCode, this]

end Composite

namespace Pair

variable {α β : Type}

instance [Identifiable α] [Identifiable β] : Composite (Pair α β) :=
  ⟨fun c => [identifier c.left, identifier c.right]⟩

/-- Read a written pair, handing each segment to its slot builder. -/
def decodeWith (value : String) (left : String → α) (right : String → β) :
    Except MalformedIdentifier (Pair α β) :=
  match Segments.split value .two with
  | .ok [l, r] => .ok ⟨left l, right r⟩
  | .ok _ => .error ⟨value, 2⟩
  | .error e => .error e

/-- Read a written pair. -/
def decode [FromIdentifier α] [FromIdentifier β] (value : String) :
    Except MalformedIdentifier (Pair α β) :=
  decodeWith value fromIdentifier fromIdentifier

end Pair

namespace Triple

variable {α β γ : Type}

instance [Identifiable α] [Identifiable β] [Identifiable γ] : Composite (Triple α β γ) :=
  ⟨fun c => [identifier c.left, identifier c.middle, identifier c.right]⟩

/-- Read a written triple, handing each segment to its slot builder. -/
def decodeWith (value : String) (left : String → α) (middle : String → β) (right : String → γ) :
    Except MalformedIdentifier (Triple α β γ) :=
  match Segments.split value .three with
  | .ok [l, m, r] => .ok ⟨left l, middle m, right r⟩
  | .ok _ => .error ⟨value, 3⟩
  | .error e => .error e

/-- Read a written triple. -/
def decode [FromIdentifier α] [FromIdentifier β] [FromIdentifier γ] (value : String) :
    Except MalformedIdentifier (Triple α β γ) :=
  decodeWith value fromIdentifier fromIdentifier fromIdentifier

end Triple

namespace Quadruple

variable {α β γ δ : Type}

instance [Identifiable α] [Identifiable β] [Identifiable γ] [Identifiable δ] :
    Composite (Quadruple α β γ δ) :=
  ⟨fun c => [identifier c.left, identifier c.innerLeft, identifier c.innerRight,
    identifier c.right]⟩

/-- Read a written quadruple, handing each segment to its slot builder. -/
def decodeWith (value : String) (left : String → α) (innerLeft : String → β)
    (innerRight : String → γ) (right : String → δ) :
    Except MalformedIdentifier (Quadruple α β γ δ) :=
  match Segments.split value .four with
  | .ok [l, il, ir, r] => .ok ⟨left l, innerLeft il, innerRight ir, right r⟩
  | .ok _ => .error ⟨value, 4⟩
  | .error e => .error e

/-- Read a written quadruple. -/
def decode [FromIdentifier α] [FromIdentifier β] [FromIdentifier γ] [FromIdentifier δ]
    (value : String) : Except MalformedIdentifier (Quadruple α β γ δ) :=
  decodeWith value fromIdentifier fromIdentifier fromIdentifier fromIdentifier

end Quadruple

end CrudScaffold
