import CrudScaffold.Assembly.Basic
import CrudScaffold.Code.Reading
import CrudScaffold.Code.Tree.Element

/-!
# Predicate factories

Every entity gets a factory of predicates, one for each field. What a predicate compares with follows
from the relation of the field, or from its declared type.
-/

namespace CrudScaffold.Assembly

open Code

variable (a : Assembly)

/-- The type inside an optional type; any other type as it is written. -/
def withoutOption (declared : String) : String :=
  match Ty.ofText? declared >>= Ty.optional? with
  | some inner => Token.render inner.tokens
  | none => declared

/-- The category of a plain value and the type of the values it is compared with. -/
def scalarOperand (declared : String) : OperandCategory × TypeRef :=
  let value := withoutOption declared
  match Ty.ofText? value >>= Ty.lastName? with
  | some "String" | some "str" | some "char" => (.text, .text)
  | some "bool" => (.boolean, .declared value)
  | _ => (.comparable, .declared value)

/-- The category of a field and the type of the values it is compared with. -/
def operand (f : Model.Field) : OperandCategory × TypeRef :=
  match f.relation with
  | .toOne => (.relationId, .text)
  | .toMany => (.collectionMembership, .text)
  | .embedded =>
    (.embedded, match f.target with
      | some target => .named target
      | none => .declared (withoutOption f.declaredType))
  | .scalar => scalarOperand f.declaredType

/-- The identifier field of the related model. -/
def relatedIdField (f : Model.Field) : String :=
  match f.target >>= a.graph.get? with
  | some related => related.identifier.field
  | none => "id"

/-- The attribute that the predicate of a field is about. -/
def predicatePath (f : Model.Field) : String :=
  match (operand f).1 with
  | .relationId | .collectionMembership => f.name ++ "." ++ a.relatedIdField f
  | _ => f.name

/-- The constructor of the predicates of a field. -/
def predicateOperation (f : Model.Field) : Operation where
  name := f.name
  params :=
    [⟨"operator", .runtime "predicate::Operator", .owned⟩, ⟨"values", .list (operand f).2, .owned⟩]
  returns := .optional (.runtime "predicate::Predicate")
  body := .predicate (a.predicatePath f) (operand f).1

/-- The predicate factory. -/
def predicatesSpec : Spec where
  name := a.artifact .predicateFactory
  kind := .predicateFactory
  members := a.model.fields.map fun f => .operation (a.predicateOperation f)
  doc := s!"Filter predicates over [`{a.model.name}`]."
  source := a.model

end CrudScaffold.Assembly
