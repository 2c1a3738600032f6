import CrudScaffold.FilePath
import CrudScaffold.Name.Namespace
import CrudScaffold.Text.WordCase

/-!
# Qualified names

A namespace and a simple name: the identity of every model and of every generated artifact. A
qualified name is written as a path `a::b::Name`, and every artifact has one source file, found by
following the segments of its namespace.
-/

namespace CrudScaffold

open Text

/-- A simple name in a namespace. -/
structure QualifiedName where
  space : Namespace
  name : String
  deriving DecidableEq, Repr, Inhabited, Ord

/-- The name in this namespace. -/
def Namespace.qualify (ns : Namespace) (name : String) : QualifiedName := ⟨ns, name⟩

namespace QualifiedName

/-- Read a path. Spaces around it and colons in front of it do not count; what follows the rightmost
separator is the simple name, which must not be empty. -/
def parse (path : String) : Option QualifiedName :=
  let trimmed := trim path.toList
  if endsWith [':', ':'] trimmed then none
  else
    let inner := trimmed.dropWhile (· == ':')
    match splitLastPath inner with
    | some (outer, name) =>
      if name.isEmpty then none else some ⟨.ofText (.ofList outer), .ofList name⟩
    | none => if inner.isEmpty then none else some ⟨.root, .ofList inner⟩

/-- The path under which the name is written. -/
def path (n : QualifiedName) : String :=
  if n.space.isRoot then n.name else n.space.text ++ "::" ++ n.name

instance : ToString QualifiedName := ⟨path⟩

/-- The names come in the order of their namespace texts, then of their simple names. -/
def le (a b : QualifiedName) : Bool := (compare a b).isLE

/-- The source file of the artifact: one directory for each segment of the namespace, then the
simple name in snake case. -/
def relativeFile (n : QualifiedName) (extension : String) : FilePath :=
  (FilePath.ofParts n.space.segments).push ⟨snakeCase n.name ++ "." ++ extension⟩

end QualifiedName

/-- A text that does not name anything. -/
structure NotQualified where
  text : String
  deriving DecidableEq, Repr

/-- The wording of the refusal. -/
def NotQualified.message (e : NotQualified) : String := s!"'{e.text}' is not a qualified name"

/-- Read a serialised name. -/
def QualifiedName.deserialize (text : String) : Except NotQualified QualifiedName :=
  match QualifiedName.parse text with
  | some n => .ok n
  | none => .error ⟨text⟩

end CrudScaffold
