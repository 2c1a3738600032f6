import CrudScaffold.Proofs.Assembly.References
import CrudScaffold.Proofs.Assembly.Views

/-!
# The artifacts of a model belong together

Besides its predicate factory a model has a mapper and a DTO for each variant, an identifier adapter and
a repository, and as far as they are turned on a service and a controller. Whatever one of these refers
to is another one of them, or what a related model is shown as; and all of them name identifiers by the
alias that the adapter publishes.
-/

namespace CrudScaffold

/-- An alias is named by an identifier that is passed in, or by the one that is read. -/
theorem Operation.mem_aliases_iff {o : Operation} {n : QualifiedName} :
    n ∈ o.aliases ↔ (∃ p ∈ o.params, p.name = "id" ∧ n ∈ p.type.names) ∨
      o.body = .codec .decode ∧ n ∈ o.returns.names := by
  rw [aliases, List.mem_append]
  refine or_congr ?_ ?_
  · simp only [List.mem_flatMap, List.mem_filter, beq_iff_eq, and_assoc]
  · split
    · next hread => simp [hread]
    · next hread => simp [hread]

namespace Assembly

variable {a : Assembly} {v : Model.DtoVariant} {x repository : Spec} {due : List Spec}
  {ref : ArtifactKind × QualifiedName} {n : QualifiedName}

/-! ## The artifacts -/

/-- The model has an artifact besides its predicate factory. -/
inductive HasArtifact (a : Assembly) : Spec → Prop where
  | mapper {v : Model.DtoVariant} (hv : v ∈ a.model.variants) : a.HasArtifact (a.mapperSpec v)
  | dto {v : Model.DtoVariant} (hv : v ∈ a.model.variants) : a.HasArtifact (a.dtoSpec v)
  | idAdapter : a.HasArtifact a.idAdapterSpec
  | repository {x : Spec} (hx : a.repositorySpec = .ok x) : a.HasArtifact x
  | serviceInterface (hon : a.model.generation.service = true) :
    a.HasArtifact a.serviceInterfaceSpec
  | serviceImpl (hon : a.model.generation.service = true) : a.HasArtifact a.serviceImplSpec
  | controller (hon : a.model.generation.service = true)
    (hcontroller : a.model.generation.controller = true) : a.HasArtifact a.controllerSpec

/-- The artifacts are put together when the repository is. -/
theorem pipeline_eq_ok_iff :
    a.pipeline = .ok due ↔ ∃ repository, a.repositorySpec = .ok repository ∧
      due = a.mapperSpecs ++ a.dtoSpecs ++ [a.idAdapterSpec, repository] ++ a.serviceSpecs ++
        a.controllerSpec?.toList := by
  unfold pipeline
  rw [bind_eq_ok_iff]
  refine exists_congr fun repository => and_congr_right fun _ => ?_
  constructor
  · intro h
    exact (Except.ok.inj h).symm
  · rintro rfl
    rfl

/-- The artifacts that are put together are those that the model has. -/
theorem mem_pipeline_iff (h : a.pipeline = .ok due) : x ∈ due ↔ a.HasArtifact x := by
  obtain ⟨repository, hrepository, rfl⟩ := pipeline_eq_ok_iff.mp h
  simp only [mapperSpecs, dtoSpecs, serviceSpecs, controllerSpec?, List.mem_append, List.mem_map,
    List.mem_cons, List.not_mem_nil, or_false]
  constructor
  · rintro ((((⟨v, hv, rfl⟩ | ⟨v, hv, rfl⟩) | (rfl | rfl)) | hx) | hx)
    · exact .mapper hv
    · exact .dto hv
    · exact .idAdapter
    · exact .repository hrepository
    · split at hx
      · next hon =>
        simp only [List.mem_cons, List.not_mem_nil, or_false] at hx
        rcases hx with rfl | rfl
        · exact .serviceInterface hon
        · exact .serviceImpl hon
      · cases hx
    · split at hx
      · next hon =>
        rw [Bool.and_eq_true] at hon
        rw [List.mem_singleton.mp hx]
        exact .controller hon.2 hon.1
      · cases hx
  · intro hx
    cases hx with
    | mapper hv => exact .inl (.inl (.inl (.inl ⟨_, hv, rfl⟩)))
    | dto hv => exact .inl (.inl (.inl (.inr ⟨_, hv, rfl⟩)))
    | idAdapter => exact .inl (.inl (.inr (.inl rfl)))
    | repository hx =>
      exact .inl (.inl (.inr (.inr (Except.ok.inj (hx.symm.trans hrepository)))))
    | serviceInterface hon => simp [hon]
    | serviceImpl hon => simp [hon]
    | controller hon hcontroller => simp [hon, hcontroller]

/-- A repository has its name and kind, and was built for the model. -/
theorem of_repositorySpec (h : a.repositorySpec = .ok x) :
    x.name = a.artifact .repository ∧ x.kind = .repository ∧ x.source = a.model := by
  obtain ⟨plan, -, h⟩ := bind_eq_ok_iff.mp h
  cases h
  exact ⟨rfl, rfl, rfl⟩

/-- Every artifact was built for the model. -/
theorem HasArtifact.source_eq (h : a.HasArtifact x) : x.source = a.model := by
  cases h with
  | repository hx => exact (of_repositorySpec hx).2.2
  | mapper | dto | idAdapter | serviceInterface | serviceImpl | controller => rfl

/-! ## References -/

/-- Whatever an artifact refers to is another artifact of the model, or what a related model is shown
as. -/
theorem HasArtifact.reference_cases (h : a.HasArtifact x) (href : ref ∈ x.references)
    (hrepository : a.repositorySpec = .ok repository)
    (hnames : (a.model.fields.map Model.Field.name).Nodup)
    (hv : a.model.primaryVariant? = some v) :
    (∃ y, a.HasArtifact y ∧ (y.kind, y.name) = ref) ∨ a.Shown ref := by
  have hprimary : v ∈ a.model.variants := List.mem_of_mem_head? hv
  cases h with
  | mapper hw =>
    rcases mem_references_mapperSpec href with rfl | rfl | hshown
    · exact .inl ⟨_, .dto hw, rfl⟩
    · exact .inl ⟨_, .idAdapter, rfl⟩
    · exact .inr hshown
  | dto => exact .inr (shown_of_mem_references_dtoSpec hnames href)
  | idAdapter =>
    rw [references_idAdapterSpec] at href
    cases href
  | repository hx =>
    rw [references_repositorySpec hx] at href
    cases href
  | serviceInterface =>
    rw [references_serviceInterfaceSpec] at href
    cases href
  | serviceImpl hon =>
    rcases mem_references_serviceImplSpec href with rfl | rfl
    · exact .inl ⟨_, .serviceInterface hon, rfl⟩
    · obtain ⟨hname, hkind, -⟩ := of_repositorySpec hrepository
      exact .inl ⟨_, .repository hrepository, by rw [hname, hkind]⟩
  | controller hon =>
    rcases mem_references_controllerSpec hv href with rfl | rfl | rfl | rfl | hshown
    · exact .inl ⟨_, .serviceInterface hon, rfl⟩
    · exact .inl ⟨_, .idAdapter, rfl⟩
    · exact .inl ⟨_, .mapper hprimary, rfl⟩
    · exact .inl ⟨_, .dto hprimary, rfl⟩
    · exact .inr hshown

/-! ## Identifier aliases -/

/-- An operation that takes an identifier takes it by the alias of the model or as a text, and one that
reads an identifier gives it by the alias. -/
structure Identifies (a : Assembly) (o : Operation) : Prop where
  params : ∀ p ∈ o.params, p.name = "id" → p.type = a.idType ∨ p.type = .text
  returns : o.body = .codec .decode → o.returns = .value a.idType

/-- Such an operation names no alias but the one of the model. -/
theorem Identifies.eq_idAliasName {o : Operation} (h : a.Identifies o) (hn : n ∈ o.aliases) :
    n = a.naming.idAliasName a.model := by
  rcases Operation.mem_aliases_iff.mp hn with ⟨p, hp, hid, hn⟩ | ⟨hread, hn⟩
  · rcases h.params p hp hid with htype | htype
    · rw [htype] at hn
      exact List.mem_singleton.mp hn
    · rw [htype] at hn
      cases hn
  · rw [h.returns hread] at hn
    exact List.mem_singleton.mp hn

/-- A storage operation takes an identifier by the alias, whatever it does. -/
theorem Stores.identifies {o : Operation} (h : a.Stores o) (body : OperationBody)
    (hbody : body ≠ .codec .decode) : a.Identifies { o with body } :=
  ⟨fun p hp hid => .inl (h.idType p hp hid), fun hread => absurd hread hbody⟩

/-- A handler takes an identifier as a text. -/
theorem identifies_of_mem_handlers {o : Operation} (h : o ∈ a.handlers) : a.Identifies o := by
  obtain ⟨o, ho, rfl⟩ := List.mem_map.mp h
  rcases List.mem_append.mp ho with ho | ho
  · simp only [baselineHandlers, List.mem_cons, List.not_mem_nil, or_false] at ho
    rcases ho with rfl | rfl | rfl | rfl | rfl | rfl | rfl <;>
      exact ⟨by simp [rawId], by simp⟩
  · obtain ⟨f, -, hf⟩ := List.mem_filterMap.mp ho
    obtain ⟨target, -, rfl⟩ := Option.map_eq_some_iff.mp hf
    exact ⟨by simp [rawId], by simp⟩

/-- All operations of all artifacts name identifiers by the alias of the model. -/
theorem HasArtifact.identifies (h : a.HasArtifact x) {o : Operation} (ho : o ∈ x.operations) :
    a.Identifies o := by
  cases h with
  | mapper =>
    rw [operations_mapperSpec] at ho
    simp only [List.mem_cons, List.not_mem_nil, or_false] at ho
    rcases ho with rfl | rfl | rfl
    · exact ⟨by simp [toDtoOperation], by simp [toDtoOperation]⟩
    · exact ⟨by simp [toModelOperation], by simp [toModelOperation]⟩
    · exact ⟨by simp [applyToOperation], by simp [applyToOperation]⟩
  | dto =>
    rw [operations_dtoSpec] at ho
    cases ho
  | idAdapter =>
    rw [operations_idAdapterSpec] at ho
    simp only [List.mem_cons, List.not_mem_nil, or_false] at ho
    rcases ho with rfl | rfl
    · exact ⟨by simp [encodeOperation], by simp [encodeOperation]⟩
    · exact ⟨by simp [decodeOperation], fun _ => rfl⟩
  | repository hx =>
    rw [(views_repositorySpec hx).1] at ho
    have hstores := stores_of_mem_storageOperations ho
    refine hstores.identifies o.body ?_
    rcases hstores.body with ⟨query, hbody⟩ | ⟨change, hbody⟩ <;> simp [hbody]
  | serviceInterface =>
    rw [operations_serviceInterfaceSpec] at ho
    obtain ⟨stored, hstored, rfl⟩ := List.mem_map.mp ho
    exact (stores_of_mem_storageOperations hstored).identifies _ (by simp)
  | serviceImpl =>
    rw [operations_serviceImplSpec] at ho
    obtain ⟨stored, hstored, rfl⟩ := List.mem_map.mp ho
    exact (stores_of_mem_storageOperations hstored).identifies _ (by simp)
  | controller =>
    rw [operations_controllerSpec] at ho
    exact identifies_of_mem_handlers ho

/-- A predicate factory names no alias. -/
theorem aliases_predicatesSpec (a : Assembly) : a.predicatesSpec.aliases = [] := by
  refine List.flatMap_eq_nil_iff.mpr fun o ho => ?_
  rw [operations_predicatesSpec] at ho
  obtain ⟨f, -, rfl⟩ := List.mem_map.mp ho
  simp [Operation.aliases, predicateOperation]

/-- Every alias that an artifact names is the one that the identifier adapter publishes. -/
theorem HasArtifact.exists_contract (h : a.HasArtifact x) (hn : n ∈ x.aliases) :
    ∃ contract, a.idAdapterSpec.identifier? = some contract ∧ contract.aliasName = n := by
  obtain ⟨o, ho, hn⟩ := List.mem_flatMap.mp hn
  exact ⟨a.identifierContract, rfl, ((h.identifies ho).eq_idAliasName hn).symm⟩

end Assembly

end CrudScaffold
