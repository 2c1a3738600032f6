import CrudScaffold.Text.Blank
import CrudScaffold.Text.Pieces

/-!
# Namespaces

A namespace is a module path whose segments are separated by `::`; the empty text is the root. Its
parent ends before the rightmost separator, and a child is one segment longer.
-/

namespace CrudScaffold

open Text

/-- A module path as it is written. -/
structure Namespace where
  text : String
  deriving DecidableEq, Repr, Inhabited, Ord

namespace Namespace

/-- The outermost namespace. -/
def root : Namespace := ⟨""⟩

/-- The namespace of a text, without the colons at its ends. -/
def ofText (path : String) : Namespace := ⟨.ofList (stripWhile (· == ':') path.toList)⟩

/-- The outermost namespace has an empty text. -/
def isRoot (ns : Namespace) : Bool := ns.text.isEmpty

/-- The segments from the outside in; empty ones do not count. -/
def segments (ns : Namespace) : List String :=
  ((splitPath ns.text.toList).filter fun s => !s.isEmpty).map .ofList

/-- One level up; the root is its own parent. -/
def parent (ns : Namespace) : Namespace :=
  match splitLastPath ns.text.toList with
  | some (outer, _) => ⟨.ofList outer⟩
  | none => root

/-- One level down. -/
def child (ns : Namespace) (segment : String) : Namespace :=
  if ns.isRoot then ⟨segment⟩ else ⟨ns.text ++ "::" ++ segment⟩

end Namespace

end CrudScaffold
