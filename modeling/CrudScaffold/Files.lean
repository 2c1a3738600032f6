import CrudScaffold.Error
import CrudScaffold.FilePath

/-!
# Access to files
-/

namespace CrudScaffold

/-- What is done with files, with its effects in a monad. -/
structure Files (m : Type → Type) where
  /-- The path leads to a file. -/
  isFile : FilePath → m Bool
  /-- Make a directory and all directories that lead to it, as far as they are missing. -/
  makeDirectories : FilePath → m (Except IoFault Unit)
  /-- Make a file that is not there yet. -/
  create : FilePath → String → m (Except IoFault Unit)
  /-- Make a file or replace one. -/
  write : FilePath → String → m (Except IoFault Unit)
  /-- The text of a file. -/
  read : FilePath → m (Except IoFault String)

end CrudScaffold
