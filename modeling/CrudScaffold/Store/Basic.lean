import CrudScaffold.Error

/-!
# Stores

A store keeps artifacts under their names. It is asked whether it holds a name and told to write an
artifact; writing never replaces an artifact that is there.
-/

namespace CrudScaffold

/-- A place where artifacts are kept, with its effects in a monad. -/
structure Store (m : Type → Type) where
  /-- An artifact of this name is there. -/
  holds : QualifiedName → m Bool
  /-- Keep an artifact under a new name. -/
  write : QualifiedName → String → m (Except IoFault Unit)

end CrudScaffold
