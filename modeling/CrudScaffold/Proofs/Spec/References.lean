import CrudScaffold.Spec.Basic

/-!
# References between artifacts

The generated artifacts that an artifact refers to, by their names and by the kinds that it takes them
for. They are read off its description alone: from the dependencies, from what mappings and handlers
call and give, and from the members that show relation fields.
-/

namespace CrudScaffold

/-- The qualified names in a type. -/
def TypeRef.names : TypeRef → List QualifiedName
  | .named name => [name]
  | .list inner => inner.names
  | .optional inner => inner.names
  | .declared _ | .text | .runtime _ => []

/-- The qualified names in what an operation gives back. -/
def Returns.names : Returns → List QualifiedName
  | .value type | .optional type | .many type => type.names
  | .unit | .count | .flag => []

/-- The kind of artifact that fills a role; a delegate is no artifact. -/
def DependencyRole.kind? : DependencyRole → Option ArtifactKind
  | .repository => some .repository
  | .service => some .serviceInterface
  | .mapper => some .mapper
  | .idAdapter => some .idAdapter
  | .base => none

/-- The mapper that carries a field over. -/
def Conversion.mapper? : Conversion → Option QualifiedName
  | .embed mapper | .embedList mapper => some mapper
  | .direct | .reference | .referenceList => none

namespace Operation

variable (o : Operation)

/-- The qualified names in the signature. -/
def names : List QualifiedName := o.params.flatMap (fun p => p.type.names) ++ o.returns.names

/-- The artifacts that an operation refers to. A mapping goes between the model and a DTO. A handler
takes and gives DTOs, except that a related instance without a mapper is given as it is. -/
def references : List (ArtifactKind × QualifiedName) :=
  match o.body with
  | .map mapping =>
    [(.dto, mapping.dto), (.idAdapter, mapping.idAdapter)] ++
      (mapping.copies.filterMap fun c => c.conversion.mapper?).map (.mapper, ·) ++
      (o.names.filter fun n => n != mapping.model).map (.dto, ·)
  | .handle ⟨.related none, _⟩ => []
  | .handle ⟨.related (some mapper), _⟩ => (.mapper, mapper) :: o.names.map (.dto, ·)
  | .handle _ => o.names.map (.dto, ·)
  | .abstract | .query _ | .persist _ | .delegate _ _ | .codec _ | .predicate _ _ => []

/-- The identifier aliases in the signature: the types of identifiers that are passed in, and of the
identifier that is read. -/
def aliases : List QualifiedName :=
  (o.params.filter fun p => p.name == "id").flatMap (fun p => p.type.names) ++
    if o.body = .codec .decode then o.returns.names else []

end Operation

/-- The artifacts that a member refers to, if the artifact was built for this model. A field refers to
DTOs where it shows a relation. -/
def Member.references (source : Model) : Member → List (ArtifactKind × QualifiedName)
  | .field f =>
    if (f.sourceField >>= source.field?).any fun g => g.relation.isRelation then
      f.type.names.map (.dto, ·)
    else []
  | .operation o => o.references
  | .dependency d =>
    match d.role.kind? with
    | some kind => d.type.names.map (kind, ·)
    | none => []
  | .identifier _ | .entityGraph _ | .constant _ => []

namespace Spec

variable (s : Spec)

/-- The artifacts that an artifact refers to. -/
def references : List (ArtifactKind × QualifiedName) :=
  s.members.flatMap (Member.references s.source)

/-- The identifier aliases in the signatures of all operations. -/
def aliases : List QualifiedName := s.operations.flatMap Operation.aliases

end Spec

end CrudScaffold
