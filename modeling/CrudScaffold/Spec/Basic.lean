import CrudScaffold.Model.Basic
import CrudScaffold.Spec.Kind
import CrudScaffold.Spec.Member

/-!
# Artifact specifications

One generated unit, described apart from the text it is rendered to.
-/

namespace CrudScaffold

/-- The description of one artifact. -/
structure Spec where
  name : QualifiedName
  kind : ArtifactKind
  members : List Member := []
  doc : String := ""
  /-- The model that it was built for. -/
  source : Model
  deriving Repr

namespace Spec

variable (s : Spec)

/-- The fields. -/
def fields : List FieldMember := s.members.filterMap fun | .field f => some f | _ => none

/-- The operations. -/
def operations : List Operation := s.members.filterMap fun | .operation o => some o | _ => none

/-- The dependencies. -/
def dependencies : List Dependency :=
  s.members.filterMap fun | .dependency d => some d | _ => none

/-- The constants. -/
def constants : List Constant := s.members.filterMap fun | .constant c => some c | _ => none

/-- The first dependency in a role. -/
def dependency? (role : DependencyRole) : Option Dependency :=
  s.dependencies.find? fun d => d.role == role

/-- The first identifier contract. -/
def identifier? : Option IdentifierContract :=
  s.members.findSome? fun | .identifier c => some c | _ => none

/-- The first fetch plan. -/
def entityGraph? : Option EntityGraph :=
  s.members.findSome? fun | .entityGraph g => some g | _ => none

end Spec

end CrudScaffold
