import CrudScaffold.Codec.Arity
import CrudScaffold.Text.Blank
import CrudScaffold.Text.Pieces

/-!
# Segments of an encoded identifier

A composite identifier is written as its component identifiers with a separator between each two.
Writing keeps the position of an absent or blank component as an empty segment; reading accepts
nothing but the right number of segments, none of them blank.
-/

namespace CrudScaffold

open Text

/-- Stands between two component identifiers. -/
def separator : Char := '_'

/-- A text that does not split into the expected number of non-blank segments. -/
structure MalformedIdentifier where
  value : String
  arity : Nat
  deriving DecidableEq, Repr

/-- The wording of the refusal. -/
def MalformedIdentifier.message (e : MalformedIdentifier) : String :=
  s!"identifier '{e.value}' must have {e.arity} non-blank parts separated by '{separator}'"

namespace Segments

/-- What is written for one component: nothing for an absent or blank one. -/
def written : Option String → List Char
  | some s => if isBlank s.toList then [] else s.toList
  | none => []

/-- Join component identifiers; `none` when no component has any content. -/
def encode (segments : List (Option String)) : Option String :=
  if segments.all fun s => (written s).isEmpty then none
  else some (.ofList (join [separator] (segments.map written)))

/-- Cut an encoded identifier into exactly as many non-blank segments as the arity asks for. -/
def split (value : String) (arity : Arity) : Except MalformedIdentifier (List String) :=
  let parts := splitAtChar separator value.toList
  if parts.length = arity.count ∧ parts.all (fun p => !isBlank p) then
    .ok (parts.map .ofList)
  else
    .error ⟨value, arity.count⟩

/-- A successful split has one part per component. -/
theorem length_of_split {value : String} {arity : Arity} {parts : List String}
    (h : split value arity = .ok parts) : parts.length = arity.count := by
  simp only [split] at h
  split at h
  · next hp => injection h with h; subst h; simpa using hp.1
  · cases h

end Segments

end CrudScaffold
