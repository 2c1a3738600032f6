/-!
# Kinds of generated artifacts
-/

namespace CrudScaffold

/-- The kinds of generated artifacts. -/
inductive ArtifactKind where
  | dto
  | mapper
  | idAdapter
  | repository
  | serviceInterface
  | serviceImpl
  | controller
  | predicateFactory
  deriving DecidableEq, Repr

namespace ArtifactKind

/-- All kinds. -/
def all : List ArtifactKind :=
  [dto, mapper, idAdapter, repository, serviceInterface, serviceImpl, controller, predicateFactory]

/-- The name of a kind. -/
def text : ArtifactKind → String
  | dto => "Dto"
  | mapper => "Mapper"
  | idAdapter => "IdAdapter"
  | repository => "Repository"
  | serviceInterface => "ServiceInterface"
  | serviceImpl => "ServiceImpl"
  | controller => "Controller"
  | predicateFactory => "PredicateFactory"

/-- The kinds under their names. -/
def named : List (String × ArtifactKind) := all.map fun k => (k.text, k)

/-- Where artifacts of the kind live below the parent namespace of their model; those without a place
of their own live beside the model. -/
def subspace? : ArtifactKind → Option String
  | dto => some "dto"
  | mapper => some "mapper"
  | repository => some "repository"
  | serviceInterface | serviceImpl => some "service"
  | controller => some "controller"
  | idAdapter | predicateFactory => none

/-- Every kind is found again under its name. -/
theorem lookup_text (k : ArtifactKind) : named.lookup k.text = some k := by
  cases k <;> decide

end ArtifactKind

end CrudScaffold
