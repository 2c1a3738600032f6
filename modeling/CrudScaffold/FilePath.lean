import CrudScaffold.Text.Pieces

/-!
# File paths

A path is a text whose parts are separated by slashes. Appending a relative path puts a slash between
the two where one is missing; appending an absolute path replaces what stood before. The components
of a path are the view by which two paths lead to the same place.
-/

namespace CrudScaffold

open Text

/-- A path as it is written. -/
structure FilePath where
  text : String
  deriving DecidableEq, Repr, Inhabited

/-- One step along a path. -/
inductive FilePath.Component where
  /-- The slash that opens an absolute path. -/
  | root
  /-- A single dot at the start of a relative path. -/
  | here
  /-- Two dots. -/
  | parent
  /-- The name of a directory or file. -/
  | named (name : String)
  deriving DecidableEq, Repr

namespace FilePath

/-- The path starts at the root. -/
def isAbsolute (p : FilePath) : Bool := startsWith ['/'] p.text.toList

/-- Append a path: an absolute one replaces what stood before. -/
def push (p q : FilePath) : FilePath :=
  if q.isAbsolute then q
  else if p.text.isEmpty || endsWith ['/'] p.text.toList then ⟨p.text ++ q.text⟩
  else ⟨p.text ++ "/" ++ q.text⟩

/-- Append parts one after the other, starting from nothing. -/
def ofParts (parts : List String) : FilePath :=
  parts.foldl (fun p part => p.push ⟨part⟩) ⟨""⟩

/-- The component that a part between two slashes stands for; an empty part and a single dot stand
for none. -/
def Component.ofPart? (part : List Char) : Option Component :=
  match part with
  | [] | ['.'] => none
  | ['.', '.'] => some .parent
  | name => some (.named (.ofList name))

/-- The components of a path: repeated slashes count once and single dots are dropped, but for one
that opens a relative path. -/
def components (p : FilePath) : List Component :=
  let parts := splitAtChar '/' p.text.toList
  let opening : List Component :=
    if p.isAbsolute then [.root]
    else if parts.head? = some ['.'] then [.here]
    else []
  opening ++ parts.filterMap Component.ofPart?

/-- The steps that following a path takes: as its components, but a single dot asks at any point for a
directory. -/
def steps (p : FilePath) : List Component :=
  let parts := splitAtChar '/' p.text.toList
  (if p.isAbsolute then [.root] else []) ++
    parts.filterMap fun part => if part = ['.'] then some .here else Component.ofPart? part

/-- The path ends with a slash, so that it can only name a directory. -/
def endsOpen (p : FilePath) : Bool := endsWith ['/'] p.text.toList

/-- The path ends with a name. -/
def endsNamed (p : FilePath) : Bool :=
  match p.steps.getLast? with
  | some (.named _) => true
  | _ => false

/-- The text of a component. -/
def Component.text : Component → String
  | .root => ""
  | .here => "."
  | .parent => ".."
  | .named name => name

/-- The path with these components. -/
def ofComponents (cs : List Component) : FilePath :=
  if cs = [.root] then ⟨"/"⟩ else ⟨"/".intercalate (cs.map Component.text)⟩

/-- The path without its last component. -/
def outer (p : FilePath) : FilePath := ofComponents p.components.dropLast

end FilePath

end CrudScaffold
