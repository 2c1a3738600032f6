import CrudScaffold.Error
import CrudScaffold.Files
import CrudScaffold.Manifest.Decode

/-!
# Manifests in files
-/

namespace CrudScaffold

/-- The error of a manifest that cannot be read. -/
def Manifest.fileError (path : FilePath) (fault : IoFault) : GenerationError :=
  .configuration s!"Failed to read manifest '{path.text}': {fault.message}"

/-- Read the manifest in a file. -/
def Files.readManifest {m : Type → Type} [Monad m] (files : Files m) (path : FilePath) :
    m (Except GenerationError Manifest) := do
  match ← files.read path with
  | .error fault => return .error (Manifest.fileError path fault)
  | .ok text => return (Manifest.ofText text).mapError .unreadable

end CrudScaffold
