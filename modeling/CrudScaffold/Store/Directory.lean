import CrudScaffold.Files
import CrudScaffold.Store.Basic

/-!
# Artifacts as files

Every artifact is a file below the output root. An artifact that is found below a source root instead
counts as there.
-/

namespace CrudScaffold

/-- Where artifacts are kept and looked for. -/
structure ArtifactRoots where
  output : FilePath
  sources : List FilePath := []
  deriving DecidableEq, Repr

namespace ArtifactRoots

/-- The ending of source files. -/
def extension : String := "rs"

/-- The file of an artifact below a root. -/
def fileBelow (root : FilePath) (n : QualifiedName) : FilePath := root.push (n.relativeFile extension)

/-- The file to which an artifact is written. -/
def pathOf (r : ArtifactRoots) (n : QualifiedName) : FilePath := fileBelow r.output n

variable {m : Type → Type} [Monad m]

/-- One of the paths leads to a file. -/
def anyFile (files : Files m) : List FilePath → m Bool
  | [] => return false
  | p :: rest => do if ← files.isFile p then return true else anyFile files rest

/-- Write an artifact to its file. -/
def write (r : ArtifactRoots) (files : Files m) (n : QualifiedName) (text : String) :
    m (Except IoFault Unit) := do
  let path := r.pathOf n
  match ← files.makeDirectories path.outer with
  | .ok () => files.create path text
  | .error fault => return .error fault

/-- The store of files. -/
def store (r : ArtifactRoots) (files : Files m) : Store m where
  holds n := anyFile files ((r.output :: r.sources).map fun root => fileBelow root n)
  write n text := r.write files n text

end ArtifactRoots

end CrudScaffold
