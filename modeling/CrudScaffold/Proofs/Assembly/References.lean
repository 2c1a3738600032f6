import CrudScaffold.Assembly.Pipeline
import CrudScaffold.Proofs.Assembly.Embedding
import CrudScaffold.Proofs.Except
import CrudScaffold.Proofs.Keys
import CrudScaffold.Proofs.Spec.References

/-!
# What the artifacts of a model refer to

Each artifact of a model refers to other artifacts of the model, or to the DTO and the mapper under
which a related model is shown. Which of the model's artifacts there are is decided by the same
conditions on both sides of a reference.
-/

namespace CrudScaffold

/-- An optional type refers to the names that the type refers to. -/
@[simp] theorem TypeRef.names_toOptional (t : TypeRef) : t.toOptional.names = t.names := by
  cases t <;> rfl

/-- A field shows the names of its inner type. -/
theorem Model.Field.names_shown (f : Model.Field) (inner : TypeRef) :
    (f.shown inner).names = inner.names := by
  unfold shown
  split
  · rfl
  · exact inner.names_toOptional

/-- Where fields have distinct names, each is found under its own. -/
theorem Model.field?_name {m : Model} (h : (m.fields.map Model.Field.name).Nodup)
    {f : Model.Field} (hf : f ∈ m.fields) : m.field? f.name = some f :=
  (find?_key_eq_some_iff h).mpr ⟨hf, rfl⟩

namespace Assembly

variable {a : Assembly} {f : Model.Field} {v : Model.DtoVariant} {x : Spec}
  {target dto mapper : QualifiedName} {ref : ArtifactKind × QualifiedName}

/-! ## Related models -/

/-- The reference goes to the DTO or to the mapper under which a model of the graph is shown. -/
inductive Shown (a : Assembly) : ArtifactKind × QualifiedName → Prop where
  | dto {target dto mapper : QualifiedName} (h : a.shownAs? target = some (dto, mapper)) :
    a.Shown (.dto, dto)
  | mapper {target dto mapper : QualifiedName} (h : a.shownAs? target = some (dto, mapper)) :
    a.Shown (.mapper, mapper)

/-- A model of the graph is shown only if it gets all artifacts, and through its primary variant. -/
theorem exists_related_of_shownAs? (h : a.shownAs? target = some (dto, mapper)) :
    ∃ related v, a.graph.get? target = some related ∧ related.traits.scrudBean = true ∧
      related.primaryVariant? = some v ∧ dto = Naming.dtoName related v ∧
      mapper = a.naming.mapperName related v := by
  unfold shownAs? at h
  split at h
  · cases h
  · next related hget =>
    split at h
    · next hbean =>
      obtain ⟨v, hv, hshown⟩ := Option.map_eq_some_iff.mp h
      obtain ⟨rfl, rfl⟩ := Prod.mk.inj hshown
      exact ⟨related, v, hget, hbean, hv, rfl, rfl⟩
    · cases h

/-- What is embedded is the target of the field as it is shown. -/
theorem exists_shownAs?_of_relatedShape (h : a.relatedShape f = .embedded dto mapper) :
    ∃ target, f.target = some target ∧ a.shownAs? target = some (dto, mapper) := by
  unfold relatedShape at h
  split at h
  · cases h
  · next target htarget =>
    split at h
    · cases h
    · split at h
      · next hshown =>
        cases h
        exact ⟨target, htarget, hshown⟩
      · cases h

/-! ## DTOs and mappers -/

/-- A DTO refers to the DTOs that it embeds. -/
theorem shown_of_mem_references_dtoSpec (hnames : (a.model.fields.map Model.Field.name).Nodup)
    (h : ref ∈ (a.dtoSpec v).references) : a.Shown ref := by
  obtain ⟨member, hmember, href⟩ := List.mem_flatMap.mp h
  obtain ⟨field, hfield, rfl⟩ := List.mem_map.mp hmember
  rcases List.mem_cons.mp hfield with rfl | hfield
  · simp [Member.references, identifierMember, TypeRef.names] at href
  · obtain ⟨f, hcovered, rfl⟩ := List.mem_map.mp hfield
    have hfound : a.model.field? f.name = some f :=
      Model.field?_name hnames (List.mem_of_mem_filter hcovered)
    have hsource : (a.dtoSpec v).source = a.model := rfl
    simp only [Member.references, hsource, Option.bind_eq_bind, Option.bind_some, hfound,
      Option.any_some] at href
    split at href
    · next hrelation =>
      rw [a.memberType_eq_shown hrelation, Model.Field.names_shown] at href
      cases hshape : a.relatedShape f with
      | reference => simp [hshape, RelatedShape.type, TypeRef.names] at href
      | embedded dto mapper =>
        obtain ⟨target, -, hshown⟩ := exists_shownAs?_of_relatedShape hshape
        simp only [hshape, RelatedShape.type, TypeRef.names, List.map_singleton,
          List.mem_singleton] at href
        rw [href]
        exact .dto hshown
    · cases href

/-- A field is carried over by the mapper of the model that it embeds. -/
theorem exists_relatedShape_of_mapper? (h : (a.conversion f).mapper? = some mapper) :
    ∃ dto, a.relatedShape f = .embedded dto mapper := by
  unfold conversion at h
  split at h
  · next hshape => exact ⟨_, hshape.trans (congrArg _ (Option.some.inj h))⟩
  · cases h
  · next hshape => exact ⟨_, hshape.trans (congrArg _ (Option.some.inj h))⟩
  · cases h
  · cases h

/-- A mapping refers to its DTO, to the identifier adapter and to the mappers of embedded models. -/
theorem mem_references_of_mapping (o : Operation) (direction : MapDirection)
    (hbody : o.body = .map (a.mapping v direction))
    (hnames : ∀ n ∈ o.names, n = a.model.name ∨ n = Naming.dtoName a.model v)
    (h : ref ∈ o.references) :
    ref = (.dto, Naming.dtoName a.model v) ∨ ref = (.idAdapter, a.artifact .idAdapter) ∨
      a.Shown ref := by
  simp only [Operation.references, hbody, List.mem_append, List.mem_cons, List.not_mem_nil,
    or_false, List.mem_map, List.mem_filterMap, List.mem_filter] at h
  rcases h with ((hdto | hadapter) | ⟨mapper, ⟨c, hc, hmapper⟩, rfl⟩) | ⟨n, ⟨hn, hother⟩, rfl⟩
  · exact .inl hdto
  · exact .inr (.inl hadapter)
  · obtain ⟨f, -, rfl⟩ := List.mem_map.mp hc
    obtain ⟨dto, hshape⟩ := exists_relatedShape_of_mapper? hmapper
    obtain ⟨target, -, hshown⟩ := exists_shownAs?_of_relatedShape hshape
    exact .inr (.inr (.mapper hshown))
  · rcases hnames n hn with rfl | rfl
    · simp [mapping] at hother
    · exact .inl rfl

/-- A mapper refers to what its mappings refer to. -/
theorem mem_references_mapperSpec (h : ref ∈ (a.mapperSpec v).references) :
    ref = (.dto, Naming.dtoName a.model v) ∨ ref = (.idAdapter, a.artifact .idAdapter) ∨
      a.Shown ref := by
  obtain ⟨member, hmember, href⟩ := List.mem_flatMap.mp h
  simp only [mapperSpec, List.mem_cons, List.not_mem_nil, or_false] at hmember
  rcases hmember with rfl | rfl | rfl | rfl
  · simp only [Member.references, DependencyRole.kind?, TypeRef.names, List.map_singleton,
      List.mem_singleton] at href
    exact .inr (.inl href)
  · refine mem_references_of_mapping (a.toDtoOperation v) .toDto rfl ?_ href
    simp [Operation.names, toDtoOperation, Returns.names, TypeRef.names, modelType]
  · refine mem_references_of_mapping (a.toModelOperation v) .toModel rfl ?_ href
    simp [Operation.names, toModelOperation, Returns.names, TypeRef.names, modelType]
  · refine mem_references_of_mapping (a.applyToOperation v) .ontoModel rfl ?_ href
    simp [Operation.names, applyToOperation, Returns.names, TypeRef.names, modelType]

/-! ## Predicates, repositories and services -/

/-- A predicate factory stands alone. -/
theorem references_predicatesSpec (a : Assembly) : a.predicatesSpec.references = [] := by
  refine List.flatMap_eq_nil_iff.mpr fun member hmember => ?_
  obtain ⟨f, -, rfl⟩ := List.mem_map.mp hmember
  rfl

/-- An identifier adapter stands alone. -/
theorem references_idAdapterSpec (a : Assembly) : a.idAdapterSpec.references = [] := rfl

/-- A storage operation queries or changes what is stored, and finds it by the identifier of the
model. -/
structure Stores (a : Assembly) (o : Operation) : Prop where
  body : (∃ query, o.body = .query query) ∨ ∃ change, o.body = .persist change
  idType : ∀ p ∈ o.params, p.name = "id" → p.type = a.idType

/-- The operations that every repository has are storage operations. -/
theorem stores_of_mem_baselineOperations {o : Operation} (h : o ∈ a.baselineOperations) :
    a.Stores o := by
  simp only [baselineOperations, List.mem_cons, List.not_mem_nil, or_false] at h
  rcases h with rfl | rfl | rfl | rfl | rfl | rfl | rfl | rfl
  -- Four queries come first, then four changes.
  · exact ⟨.inl ⟨_, rfl⟩, by simp [idParam]⟩
  · exact ⟨.inl ⟨_, rfl⟩, by simp⟩
  · exact ⟨.inl ⟨_, rfl⟩, by simp⟩
  · exact ⟨.inl ⟨_, rfl⟩, by simp [idParam]⟩
  · exact ⟨.inr ⟨_, rfl⟩, by simp⟩
  · exact ⟨.inr ⟨_, rfl⟩, by simp [idParam]⟩
  · exact ⟨.inr ⟨_, rfl⟩, by simp [idParam]⟩
  · exact ⟨.inr ⟨_, rfl⟩, by simp⟩

/-- All operations of a repository are storage operations. -/
theorem stores_of_mem_storageOperations {o : Operation} (h : o ∈ a.storageOperations) :
    a.Stores o := by
  obtain ⟨o, ho, rfl⟩ := List.mem_map.mp h
  rcases List.mem_append.mp ho with ho | ho
  · obtain ⟨hbody, htype⟩ := stores_of_mem_baselineOperations ho
    exact ⟨hbody, htype⟩
  · obtain ⟨f, -, hf⟩ := List.mem_filterMap.mp ho
    obtain ⟨shape, -, rfl⟩ := Option.map_eq_some_iff.mp hf
    exact ⟨.inl ⟨_, rfl⟩, by simp [idParam]⟩

/-- A declared delegate is no artifact. -/
theorem references_of_mem_baseMembers {base : Option String} {member : Member} {source : Model}
    (h : member ∈ baseMembers base) : member.references source = [] := by
  obtain ⟨text, -, rfl⟩ := List.mem_map.mp h
  rfl

/-- A repository stands alone. -/
theorem references_repositorySpec (h : a.repositorySpec = .ok x) : x.references = [] := by
  obtain ⟨plan, -, h⟩ := bind_eq_ok_iff.mp h
  cases h
  refine List.flatMap_eq_nil_iff.mpr fun member hmember => ?_
  rcases List.mem_append.mp hmember with hmember | hmember
  · rcases List.mem_append.mp hmember with hmember | hmember
    · exact references_of_mem_baseMembers hmember
    · obtain ⟨graph, -, rfl⟩ := List.mem_map.mp hmember
      rfl
  · obtain ⟨o, ho, rfl⟩ := List.mem_map.mp hmember
    rcases (stores_of_mem_storageOperations ho).body with ⟨query, hbody⟩ | ⟨change, hbody⟩ <;>
      simp only [Member.references, Operation.references, hbody]

/-- A service interface stands alone. -/
theorem references_serviceInterfaceSpec (a : Assembly) :
    a.serviceInterfaceSpec.references = [] := by
  refine List.flatMap_eq_nil_iff.mpr fun member hmember => ?_
  obtain ⟨o, -, rfl⟩ := List.mem_map.mp hmember
  rfl

/-- A service implementation refers to its interface and to the repository. -/
theorem mem_references_serviceImplSpec (h : ref ∈ a.serviceImplSpec.references) :
    ref = (.serviceInterface, a.artifact .serviceInterface) ∨
      ref = (.repository, a.artifact .repository) := by
  obtain ⟨member, hmember, href⟩ := List.mem_flatMap.mp h
  simp only [serviceImplSpec, List.mem_append, List.mem_cons, List.not_mem_nil, or_false,
    List.mem_map] at hmember
  rcases hmember with ((rfl | rfl) | hbase) | ⟨o, -, rfl⟩
  · exact .inl (List.mem_singleton.mp href)
  · exact .inr (List.mem_singleton.mp href)
  · rw [references_of_mem_baseMembers hbase] at href
    cases href
  · cases href

/-! ## Controllers -/

/-- The handlers that every controller has take and give the primary DTO and nothing else. -/
theorem eq_dto_of_mem_baselineHandlers (hv : a.model.primaryVariant? = some v) {o : Operation}
    (ho : o ∈ a.baselineHandlers) (h : ref ∈ o.references) :
    ref = (.dto, Naming.dtoName a.model v) := by
  have hpayload : a.payload = .named (Naming.dtoName a.model v) := by
    simp only [payload, hv]
  simp only [baselineHandlers, hpayload, List.mem_cons, List.not_mem_nil, or_false] at ho
  rcases ho with rfl | rfl | rfl | rfl | rfl | rfl | rfl <;>
    simp [Operation.references, Operation.names, Returns.names, TypeRef.names, rawId] at h <;>
    exact h

/-- The handler for a related instance refers to what that is shown as. -/
theorem shown_of_relatedHandler? {o : Operation} (ho : a.relatedHandler? f = some o)
    (h : ref ∈ o.references) : a.Shown ref := by
  obtain ⟨target, -, rfl⟩ := Option.map_eq_some_iff.mp ho
  cases hshown : a.shownAs? target with
  | none => simp [Operation.references, hshown] at h
  | some shown =>
    obtain ⟨dto, mapper⟩ := shown
    simp only [Operation.references, hshown, Operation.names, Option.map_some, Returns.names,
      Option.getD_some, TypeRef.names, rawId, List.flatMap_cons, List.flatMap_nil, List.nil_append,
      List.map_singleton, List.mem_cons, List.not_mem_nil, or_false] at h
    rcases h with rfl | rfl
    · exact .mapper hshown
    · exact .dto hshown

/-- A controller refers to the service interface and the identifier adapter, to the primary DTO and its
mapper, and to what related instances are shown as. -/
theorem mem_references_controllerSpec (hv : a.model.primaryVariant? = some v)
    (h : ref ∈ a.controllerSpec.references) :
    ref = (.serviceInterface, a.artifact .serviceInterface) ∨
      ref = (.idAdapter, a.artifact .idAdapter) ∨
      ref = (.mapper, a.naming.mapperName a.model v) ∨
      ref = (.dto, Naming.dtoName a.model v) ∨ a.Shown ref := by
  obtain ⟨member, hmember, href⟩ := List.mem_flatMap.mp h
  simp only [controllerSpec, payloadMapper, hv, Option.toList_some, List.map_singleton,
    List.mem_append, List.mem_cons, List.not_mem_nil, or_false, List.mem_map] at hmember
  rcases hmember with ((((rfl | rfl) | rfl) | rfl) | hbase) | ⟨o, hhandler, rfl⟩
  · cases href
  · exact .inl (List.mem_singleton.mp href)
  · exact .inr (.inr (.inl (List.mem_singleton.mp href)))
  · exact .inr (.inl (List.mem_singleton.mp href))
  · rw [references_of_mem_baseMembers hbase] at href
    cases href
  · obtain ⟨o, ho, rfl⟩ := List.mem_map.mp hhandler
    rcases List.mem_append.mp ho with ho | ho
    · exact .inr (.inr (.inr (.inl (eq_dto_of_mem_baselineHandlers hv ho href))))
    · obtain ⟨f, -, hf⟩ := List.mem_filterMap.mp ho
      exact .inr (.inr (.inr (.inr (shown_of_relatedHandler? hf href))))

end Assembly

end CrudScaffold
