import CrudScaffold.Spec.Basic

/-!
# Renaming what an artifact refers to

A description refers to models, generated types and types from elsewhere by their names: in types, in
the roots and targets of queries, in mappings and handlers, and in the slots of identifiers. They can be
replaced by others. What the artifact itself declares keeps its name, and no text is changed.
-/

namespace CrudScaffold

variable (σ : QualifiedName → QualifiedName)

/-- The type with other names in it. -/
def TypeRef.rename : TypeRef → TypeRef
  | .named n => .named (σ n)
  | .list inner => .list inner.rename
  | .optional inner => .optional inner.rename
  | .declared type => .declared type
  | .text => .text
  | .runtime item => .runtime item

/-- The parameter with other names in its type. -/
def Param.rename (p : Param) : Param := { p with type := p.type.rename σ }

/-- The result with other names in its type. -/
def Returns.rename : Returns → Returns
  | .value type => .value (type.rename σ)
  | .optional type => .optional (type.rename σ)
  | .many type => .many (type.rename σ)
  | .unit => .unit
  | .count => .count
  | .flag => .flag

/-- The query shape over other types. -/
def QueryShape.rename : QueryShape → QueryShape
  | .directEquality root reverseField reverseIsCollection =>
    .directEquality (σ root) reverseField reverseIsCollection
  | .join root joinField target => .join (σ root) joinField (σ target)
  | .byId => .byId
  | .all => .all
  | .count => .count
  | .existsById => .existsById

/-- The conversion by other mappers. -/
def Conversion.rename : Conversion → Conversion
  | .embed mapper => .embed (σ mapper)
  | .embedList mapper => .embedList (σ mapper)
  | .direct => .direct
  | .reference => .reference
  | .referenceList => .referenceList

/-- The mapping between other types. -/
def Mapping.rename (m : Mapping) : Mapping :=
  { m with
    model := σ m.model
    dto := σ m.dto
    idAdapter := σ m.idAdapter
    copies := m.copies.map fun c => { c with conversion := c.conversion.rename σ } }

/-- The handler shape with another mapper. -/
def HandlerShape.rename : HandlerShape → HandlerShape
  | .related mapper => .related (mapper.map σ)
  | .getById => .getById
  | .list => .list
  | .count => .count
  | .exists => .exists
  | .create => .create
  | .patch => .patch
  | .delete => .delete

/-- The body with other names in it. -/
def OperationBody.rename : OperationBody → OperationBody
  | .query q => .query { q with shape := q.shape.rename σ }
  | .map m => .map (m.rename σ)
  | .handle h => .handle { h with shape := h.shape.rename σ }
  | .abstract => .abstract
  | .persist p => .persist p
  | .delegate role operation => .delegate role operation
  | .codec operation => .codec operation
  | .predicate path operand => .predicate path operand

/-- The operation with other names in its signature and in its body. -/
def Operation.rename (o : Operation) : Operation :=
  { o with
    params := o.params.map (Param.rename σ)
    returns := o.returns.rename σ
    body := o.body.rename σ }

/-- The codec contract over other entities. -/
def CodecContract.rename : CodecContract → CodecContract
  | .composite separator arity slots =>
    .composite separator arity (slots.map fun s => { s with entity := σ s.entity })
  | .scalar idType => .scalar idType

/-- The member with other names in it. The alias of an identifier is declared here and stays. -/
def Member.rename : Member → Member
  | .field f => .field { f with type := f.type.rename σ }
  | .operation o => .operation (o.rename σ)
  | .dependency d => .dependency { d with type := d.type.rename σ }
  | .identifier c => .identifier { c with codec := c.codec.rename σ }
  | .entityGraph g => .entityGraph g
  | .constant c => .constant c

namespace Spec

/-- The description with other names in its members. -/
def rename (s : Spec) : Spec := { s with members := s.members.map (Member.rename σ) }

variable (s : Spec)

/-- A renamed specification keeps its own name. -/
@[simp] theorem name_rename : (s.rename σ).name = s.name := rfl

/-- A renamed specification is of the same kind. -/
@[simp] theorem kind_rename : (s.rename σ).kind = s.kind := rfl

/-- Documentation is not renamed. -/
@[simp] theorem doc_rename : (s.rename σ).doc = s.doc := rfl

/-- The source of a specification is not renamed. -/
@[simp] theorem source_rename : (s.rename σ).source = s.source := rfl

/-- Fields are renamed in their types. -/
theorem fields_rename :
    (s.rename σ).fields = s.fields.map fun f => { f with type := f.type.rename σ } := by
  unfold Spec.fields Spec.rename
  rw [List.filterMap_map, List.map_filterMap]
  congr 1
  funext m
  cases m <;> rfl

/-- Operations are renamed one by one. -/
theorem operations_rename :
    (s.rename σ).operations = s.operations.map (Operation.rename σ) := by
  unfold Spec.operations Spec.rename
  rw [List.filterMap_map, List.map_filterMap]
  congr 1
  funext m
  cases m <;> rfl

/-- Constants are not renamed. -/
theorem constants_rename : (s.rename σ).constants = s.constants := by
  unfold Spec.constants Spec.rename
  rw [List.filterMap_map]
  congr 1
  funext m
  cases m <;> rfl

/-- Dependencies are renamed in their types. -/
theorem dependency?_rename (role : DependencyRole) :
    (s.rename σ).dependency? role =
      (s.dependency? role).map fun d => { d with type := d.type.rename σ } := by
  have hdependencies : (s.rename σ).dependencies =
      s.dependencies.map fun d => { d with type := d.type.rename σ } := by
    unfold Spec.dependencies Spec.rename
    rw [List.filterMap_map, List.map_filterMap]
    congr 1
    funext m
    cases m <;> rfl
  unfold Spec.dependency?
  rw [hdependencies, List.find?_map]
  rfl

/-- An identifier is renamed in its codec. -/
theorem identifier?_rename :
    (s.rename σ).identifier? =
      s.identifier?.map fun c => { c with codec := c.codec.rename σ } := by
  unfold Spec.identifier? Spec.rename
  rw [List.findSome?_map, List.map_findSome?]
  congr 1
  funext m
  cases m <;> rfl

/-- A fetch plan is not renamed. -/
theorem entityGraph?_rename : (s.rename σ).entityGraph? = s.entityGraph? := by
  unfold Spec.entityGraph? Spec.rename
  rw [List.findSome?_map]
  congr 1
  funext m
  cases m <;> rfl

end Spec

/-! ## Names that stay as they are -/

/-- A type in which every name stays is the same. -/
@[simp] theorem TypeRef.rename_id (t : TypeRef) : t.rename id = t := by
  induction t with
  | list inner ih => rw [TypeRef.rename, ih]
  | optional inner ih => rw [TypeRef.rename, ih]
  | declared | named | text | runtime => rfl

/-- What is returned is the same where every name stays. -/
@[simp] theorem Returns.rename_id (r : Returns) : r.rename id = r := by
  cases r <;> simp [Returns.rename]

/-- A query in which every name stays is the same. -/
@[simp] theorem QueryShape.rename_id (q : QueryShape) : q.rename id = q := by cases q <;> rfl

/-- A conversion in which every name stays is the same. -/
@[simp] theorem Conversion.rename_id (c : Conversion) : c.rename id = c := by cases c <;> rfl

/-- A handler in which every name stays is the same. -/
@[simp] theorem HandlerShape.rename_id (h : HandlerShape) : h.rename id = h := by
  cases h <;> simp [HandlerShape.rename]

/-- A body in which every name stays is the same. -/
@[simp] theorem OperationBody.rename_id (b : OperationBody) : b.rename id = b := by
  cases b <;> simp [OperationBody.rename, Mapping.rename]

/-- An operation in which every name stays is the same. -/
@[simp] theorem Operation.rename_id (o : Operation) : o.rename id = o := by
  have hparams : o.params.map (Param.rename id) = o.params :=
    List.map_id'' (fun p => by simp [Param.rename]) o.params
  simp [Operation.rename, hparams]

/-- A codec in which every name stays is the same. -/
@[simp] theorem CodecContract.rename_id (c : CodecContract) : c.rename id = c := by
  cases c <;> simp [CodecContract.rename]

/-- A member in which every name stays is the same. -/
@[simp] theorem Member.rename_id (m : Member) : m.rename id = m := by
  cases m <;> simp [Member.rename]

/-- A description whose names stay as they are stays as it is. -/
theorem Spec.rename_id (s : Spec) : s.rename id = s := by
  have hmembers : s.members.map (Member.rename id) = s.members :=
    List.map_id'' Member.rename_id s.members
  rw [Spec.rename, hmembers]

end CrudScaffold
