import CrudScaffold.Model.Basic
import CrudScaffold.Settings
import CrudScaffold.Spec.Kind

/-!
# Naming conventions

The qualified name of an artifact is decided by the namespace and simple name of its model, the kind
of the artifact and, where there are several of a kind, the DTO variant. Settings can replace the
suffixes.
-/

namespace CrudScaffold

open Text

/-- The suffix of each kind of generated name. -/
structure Naming where
  dto : String := "Dto"
  mapper : String := "Mapper"
  idAdapter : String := "IdAdapter"
  idAlias : String := "Id"
  repository : String := "Repository"
  service : String := "Service"
  serviceImpl : String := "ServiceImpl"
  controller : String := "Controller"
  predicates : String := "Predicates"
  deriving DecidableEq, Repr

namespace Naming

/-- The key under which settings replace a suffix. -/
def key (kind : String) : String := "naming." ++ kind ++ "_suffix"

/-- The naming of some settings. -/
def ofSettings (s : Settings) : Naming :=
  let usual : Naming := {}
  { dto := s.getD (key "dto") usual.dto
    mapper := s.getD (key "mapper") usual.mapper
    idAdapter := s.getD (key "id_adapter") usual.idAdapter
    idAlias := s.getD (key "id_alias") usual.idAlias
    repository := s.getD (key "repository") usual.repository
    service := s.getD (key "service") usual.service
    serviceImpl := s.getD (key "service_impl") usual.serviceImpl
    controller := s.getD (key "controller") usual.controller
    predicates := s.getD (key "predicates") usual.predicates }

variable (n : Naming)

/-- The name of the variant that a model without declared ones gets. -/
def defaultDtoName (model : String) : String := model ++ n.dto

/-- The namespace of the artifacts of a kind. -/
def spaceFor (m : Model) (kind : ArtifactKind) : Namespace :=
  match kind.subspace? with
  | some segment => m.parentSpace.child segment
  | none => m.space

/-- The simple name of the artifact of a kind. -/
def simpleName (model : String) : ArtifactKind → String
  | .dto => n.defaultDtoName model
  | .mapper => n.defaultDtoName model ++ n.mapper
  | .idAdapter => model ++ n.idAdapter
  | .repository => model ++ n.repository
  | .serviceInterface => model ++ n.service
  | .serviceImpl => model ++ n.serviceImpl
  | .controller => model ++ n.controller
  | .predicateFactory => model ++ n.predicates

/-- The qualified name of the artifact of a kind. -/
def artifact (m : Model) (kind : ArtifactKind) : QualifiedName :=
  (spaceFor m kind).qualify (n.simpleName m.simpleName kind)

/-- The qualified name of the DTO of a variant. -/
def dtoName (m : Model) (v : Model.DtoVariant) : QualifiedName :=
  (v.space.getD (spaceFor m .dto)).qualify v.name

/-- The qualified name of the mapper of a variant. -/
def mapperName (m : Model) (v : Model.DtoVariant) : QualifiedName :=
  (spaceFor m .mapper).qualify (v.name ++ n.mapper)

/-- The alias that names the identifier type of a model. -/
def idAliasName (m : Model) : QualifiedName := m.space.qualify (m.simpleName ++ n.idAlias)

/-- The vowels after which a final y stays in the plural. -/
def isVowel (c : Char) : Bool := c == 'a' || c == 'e' || c == 'i' || c == 'o' || c == 'u'

/-- The plural of a word. -/
def plural (word : String) : String :=
  match word.toList.reverse with
  | 's' :: _ | 'x' :: _ | 'z' :: _ | 'h' :: 'c' :: _ | 'h' :: 's' :: _ => word ++ "es"
  | 'y' :: stem =>
    if (stem.head?.map isVowel).getD false then word ++ "s"
    else String.ofList stem.reverse ++ "ies"
  | _ => word ++ "s"

/-- The first part of the paths under which a controller answers: the declared one without slashes at
its ends, or the plural of the model's name. -/
def pathFragment (m : Model) : String :=
  match m.generation.pathFragment with
  | some fragment => .ofList (stripWhile (· == '/') fragment.toList)
  | none => plural (kebabCase m.simpleName)

/-- The name of the lookup that follows a relation field. -/
def finder (field : String) : String := "find_" ++ snakeCase field

end Naming

end CrudScaffold
