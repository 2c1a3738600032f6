import CrudScaffold.Proofs.Assembly.Closure
import CrudScaffold.Proofs.Model.Catalog
import CrudScaffold.Proofs.Model.Resolution
import CrudScaffold.Proofs.Run.Reports
import CrudScaffold.Proofs.Run.Undisturbed

/-!
# References within a run

In a run without failures every model gets all its artifacts. A reference to another artifact of the
model then meets that artifact, and one to a related model meets its DTO or its mapper, since the model
that the graph finds is one of the models of the run.
-/

namespace CrudScaffold

namespace Assembly

variable {a : Assembly} {x : Spec}

/-- The artifacts of the second pass are those that the model has. -/
theorem mem_pipelineDue_iff (h : a.fault? = none) :
    x ∈ a.pipelineDue ↔ a.model.traits.scrudBean = true ∧ a.HasArtifact x := by
  unfold fault? at h
  unfold pipelineDue
  split at h
  · next hbean =>
    cases hp : a.pipeline with
    | error fault => simp [hp] at h
    | ok due => simp [hbean, mem_pipeline_iff hp]
  · next hbean => simp [hbean]

/-- A model without faults that gets all artifacts has a repository. -/
theorem exists_repositorySpec (h : a.fault? = none) (hbean : a.model.traits.scrudBean = true) :
    ∃ repository, a.repositorySpec = .ok repository := by
  unfold fault? at h
  rw [if_pos hbean] at h
  cases hp : a.pipeline with
  | error fault => simp [hp] at h
  | ok due =>
    obtain ⟨repository, hrepository, -⟩ := pipeline_eq_ok_iff.mp hp
    exact ⟨repository, hrepository⟩

end Assembly

namespace Catalog

variable {manifest : Manifest} {known : List String} {naming : Naming} {crate : String}
  {c : Catalog} {e : Entry} {a : Assembly} {x : Spec}

/-- A declared model without faults was resolved. -/
theorem exists_assembly (h : c.fault? e = none) :
    ∃ model, e.result = .ok model ∧ c.assembly? e = some ⟨model, c.graph, c.resolver.naming⟩ ∧
      (Assembly.mk model c.graph c.resolver.naming).fault? = none := by
  unfold fault? at h
  cases hresult : e.result with
  | error fault => simp [hresult] at h
  | ok model =>
    refine ⟨model, rfl, ?_, ?_⟩
    · simp [assembly?, hresult, Except.toOption]
    · simpa [hresult] using h

/-- Where no model was stopped, nothing is disturbed and no model has a fault of its own. -/
theorem sound_of_error_eq_none (h : ∀ p ∈ c.plan, p.error = none) :
    c.Undisturbed ∧ ∀ e ∈ c.entries, c.fault? e = none := by
  refine ⟨undisturbed_of_error_ne fun p hp n herror => ?_, fun e he => ?_⟩
  · rw [h p hp] at herror
    cases herror
  · obtain ⟨i, hi⟩ := List.mem_iff_getElem?.mp he
    obtain ⟨p, hp, -, hfares⟩ := c.exists_planned hi
    have herror := h p (List.mem_of_getElem? hp)
    cases hfares with
    | whole _ hsame => rw [← hsame, herror]
    | cut s rest _ hcut _ =>
      rw [herror] at hcut
      cases hcut

/-- An entry of the catalog of a manifest is resolved by its resolver. -/
theorem resolve_of_mem_entries (he : e ∈ (ofManifest manifest known naming crate).entries)
    {model : Model} (hresult : e.result = .ok model) :
    (ofManifest manifest known naming crate).resolver.resolve e.declared = .ok model := by
  obtain ⟨declared, -, rfl⟩ := List.mem_map.mp he
  exact mapError_eq_ok_iff.mp hresult

/-- What is due for a declared model is due in one of the passes. -/
theorem exists_assembly_of_mem_due (he : c.fault? e = none) (hx : x ∈ c.due e) :
    ∃ model, e.result = .ok model ∧
      let a : Assembly := ⟨model, c.graph, c.resolver.naming⟩
      a.fault? = none ∧ (∀ y ∈ a.pipelineDue, y ∈ c.due e) ∧
        (x = a.predicatesSpec ∨ a.model.traits.scrudBean = true ∧ a.HasArtifact x) := by
  obtain ⟨model, hresult, hassembly, hfault⟩ := exists_assembly he
  rw [due_of_assembly hassembly] at hx ⊢
  refine ⟨model, hresult, hfault, fun y hy => List.mem_append_right _ hy, ?_⟩
  rcases List.mem_append.mp hx with hx | hx
  · unfold Assembly.predicatesDue at hx
    split at hx
    · exact .inl (List.mem_singleton.mp hx)
    · cases hx
  · exact .inr ((Assembly.mem_pipelineDue_iff hfault).mp hx)

/-- What a related model is shown as is due for that model. -/
theorem exists_due_of_shown (hsound : ∀ e ∈ c.entries, c.fault? e = none) {model : Model}
    {ref : ArtifactKind × QualifiedName}
    (h : (Assembly.mk model c.graph c.resolver.naming).Shown ref) :
    ∃ e ∈ c.entries, ∃ y ∈ c.due e, (y.kind, y.name) = ref := by
  have hrelated {target dto mapper : QualifiedName}
      (hshown : (Assembly.mk model c.graph c.resolver.naming).shownAs? target = some (dto, mapper)) :
      ∃ e ∈ c.entries, (∃ y ∈ c.due e, (y.kind, y.name) = (.dto, dto)) ∧
        ∃ y ∈ c.due e, (y.kind, y.name) = (.mapper, mapper) := by
    obtain ⟨related, v, hget, hbean, hprimary, rfl, rfl⟩ :=
      Assembly.exists_related_of_shownAs? hshown
    have hv : v ∈ related.variants := List.mem_of_mem_head? hprimary
    obtain ⟨e, he, hresult⟩ := List.mem_filterMap.mp (mem_models_of_get?_graph hget).1
    obtain ⟨model', hok, hassembly, hfault⟩ := exists_assembly (hsound e he)
    obtain rfl : model' = related := by simpa [hok, Except.toOption] using hresult
    have hdue {y : Spec} (hy : (Assembly.mk model' c.graph c.resolver.naming).HasArtifact y) :
        y ∈ c.due e := by
      rw [due_of_assembly hassembly]
      exact List.mem_append_right _ ((Assembly.mem_pipelineDue_iff hfault).mpr ⟨hbean, hy⟩)
    exact ⟨e, he, ⟨_, hdue (.dto hv), rfl⟩, _, hdue (.mapper hv), rfl⟩
  cases h with
  | dto hshown =>
    obtain ⟨e, he, hdto, -⟩ := hrelated hshown
    exact ⟨e, he, hdto⟩
  | mapper hshown =>
    obtain ⟨e, he, -, hmapper⟩ := hrelated hshown
    exact ⟨e, he, hmapper⟩

/-- Where no model of a manifest has a fault, whatever a due artifact refers to is due. -/
theorem exists_due_of_mem_references
    (hsound : ∀ e ∈ (ofManifest manifest known naming crate).entries,
      (ofManifest manifest known naming crate).fault? e = none)
    (he : e ∈ (ofManifest manifest known naming crate).entries)
    (hx : x ∈ (ofManifest manifest known naming crate).due e) {ref : ArtifactKind × QualifiedName}
    (href : ref ∈ x.references) :
    ∃ e ∈ (ofManifest manifest known naming crate).entries,
      ∃ y ∈ (ofManifest manifest known naming crate).due e, (y.kind, y.name) = ref := by
  obtain ⟨model, hresult, hfault, hdue, rfl | ⟨hbean, hartifact⟩⟩ :=
    exists_assembly_of_mem_due (hsound e he) hx
  · rw [Assembly.references_predicatesSpec] at href
    cases href
  · have hresolve := resolve_of_mem_entries he hresult
    obtain ⟨v, hv⟩ := Resolver.exists_primaryVariant_of_resolve hresolve hbean
    obtain ⟨repository, hrepository⟩ := Assembly.exists_repositorySpec hfault hbean
    rcases hartifact.reference_cases href hrepository (Resolver.nodup_fields_of_resolve hresolve) hv
      with ⟨y, hy, hsame⟩ | hshown
    · exact ⟨e, he, y, hdue y ((Assembly.mem_pipelineDue_iff hfault).mpr ⟨hbean, hy⟩), hsame⟩
    · exact exists_due_of_shown hsound hshown

/-- Whatever alias a due artifact names is published by an identifier adapter that is due for the same
model. -/
theorem exists_due_of_mem_aliases (hsound : ∀ e ∈ c.entries, c.fault? e = none) (he : e ∈ c.entries)
    (hx : x ∈ c.due e) {n : QualifiedName} (hn : n ∈ x.aliases) :
    ∃ y ∈ c.due e, y.kind = .idAdapter ∧ y.source = x.source ∧
      ∃ contract, y.identifier? = some contract ∧ contract.aliasName = n := by
  obtain ⟨model, -, hfault, hdue, rfl | ⟨hbean, hartifact⟩⟩ :=
    exists_assembly_of_mem_due (hsound e he) hx
  · rw [Assembly.aliases_predicatesSpec] at hn
    cases hn
  · have hadapter := hdue _ ((Assembly.mem_pipelineDue_iff hfault).mpr ⟨hbean, .idAdapter⟩)
    exact ⟨_, hadapter, rfl, hartifact.source_eq.symm, hartifact.exists_contract hn⟩

end Catalog

namespace Generator

/-- In a run without failures no reference leads out of the run: whatever generated artifact an emitted
artifact refers to is emitted in the same run, under the same name and with the kind that it is taken
for, and is reported; and whatever alias an operation names is published by the identifier adapter that
is emitted for the same model. -/
theorem references_stay_within_run {g : Generator} {manifest : Manifest} {σ : Type}
    {store : Store (StateM σ)} {s t : σ} {report : RunReport} {log : Log} {after : Generator}
    (hrun : (g.run store manifest).run.run s = (some (.completed report, log, after), t))
    (hsound : ∀ m ∈ report.models, m.status ≠ .failed) :
    let emitted := emissionOrder (g.catalog manifest).plan
    ∀ x ∈ emitted,
      (∃ r ∈ report.artifacts, r.name = x.name.path ∧ r.kind = x.kind) ∧
      (∀ kind name, (kind, name) ∈ x.references →
        ∃ y ∈ emitted, y.kind = kind ∧ y.name = name ∧
          ∃ r ∈ report.artifacts, r.name = name.path ∧ r.kind = kind) ∧
      ∀ n ∈ x.aliases, ∃ y ∈ emitted, y.kind = .idAdapter ∧ y.source = x.source ∧
        ∃ contract, y.identifier? = some contract ∧ contract.aliasName = n := by
  intro emitted
  obtain ⟨emissions, hemitted, rfl⟩ := of_completed hrun
  have herrors : ∀ p ∈ (g.catalog manifest).plan, p.error = none := by
    intro p hp
    obtain ⟨i, hi⟩ := List.mem_iff_getElem?.mp hp
    obtain ⟨m, hm, htells⟩ := exists_tells hemitted hi
    cases herror : p.error with
    | none => rfl
    | some fault => exact absurd (htells.failed herror).1 (hsound m (List.mem_of_getElem? hm))
  obtain ⟨hundisturbed, hfaults⟩ := Catalog.sound_of_error_eq_none herrors
  have hdue {y : Spec} : y ∈ emitted ↔ ∃ e ∈ (g.catalog manifest).entries,
      y ∈ (g.catalog manifest).due e := by
    rw [hundisturbed.emissionOrder_perm.mem_iff, List.mem_flatMap]
  intro x hx
  obtain ⟨e, he, hxdue⟩ := hdue.mp hx
  refine ⟨exists_artifact_of_mem hemitted hx, fun kind name href => ?_, fun n hn => ?_⟩
  · obtain ⟨e', he', y, hy, hsame⟩ :=
      Catalog.exists_due_of_mem_references hfaults he hxdue href
    obtain ⟨rfl, rfl⟩ := Prod.mk.inj hsame
    have hyemitted := hdue.mpr ⟨e', he', hy⟩
    exact ⟨y, hyemitted, rfl, rfl, exists_artifact_of_mem hemitted hyemitted⟩
  · obtain ⟨y, hy, hadapter⟩ := Catalog.exists_due_of_mem_aliases hfaults he hxdue hn
    exact ⟨y, hdue.mpr ⟨e, he, hy⟩, hadapter⟩

/-! ## A DTO that holds another one -/

private def linkedConfig : Config := { outputRoot := ⟨"out"⟩ }

private def linkedModel (name : String) (fields : List Manifest.Field) : Manifest.Model where
  name
  space := "shop::model"
  fields
  identifier := some { type := some "u64" }

private def toCustomer : Manifest.Field :=
  { name := "customer", type := "Customer", cardinality := some .manyToOne }

private def linkedManifest : Manifest where
  models := [linkedModel "Order" [toCustomer], linkedModel "Customer" []]

private def completeStore : Store (StateM Unit) where
  holds _ := return true
  write _ _ := return .ok ()

private def orderDto : QualifiedName := ⟨⟨"shop::dto"⟩, "OrderDto"⟩
private def customerDto : QualifiedName := ⟨⟨"shop::dto"⟩, "CustomerDto"⟩

/-- The DTO of orders refers to the DTO of customers, which the same run emits. -/
theorem order_dto_holds_customer_dto :
    ∃ g, ofConfig linkedConfig = .ok g ∧ ∃ report log after t,
      (g.run completeStore linkedManifest).run.run () = (some (.completed report, log, after), t) ∧
      report.models.map ModelReport.status = [.skippedAllExisting, .skippedAllExisting] ∧
      let emitted := emissionOrder (g.catalog linkedManifest).plan
      ∃ x ∈ emitted, x.name = orderDto ∧ (.dto, customerDto) ∈ x.references ∧
        ∃ y ∈ emitted, y.kind = .dto ∧ y.name = customerDto ∧
          ∃ r ∈ report.artifacts, r.name = "shop::dto::CustomerDto" ∧ r.kind = .dto := by
  have htold : (ofConfig linkedConfig).toOption.bind (fun g =>
      (g.report? completeStore linkedManifest ()).map (·.models.map ModelReport.status)) =
        some [.skippedAllExisting, .skippedAllExisting] := by
    decide +kernel
  have hrefers : (ofConfig linkedConfig).toOption.map (fun g : Generator =>
      decide (∃ x ∈ emissionOrder (g.catalog linkedManifest).plan,
        x.name = orderDto ∧ (ArtifactKind.dto, customerDto) ∈ x.references)) = some true := by
    decide +kernel
  obtain ⟨g, report, log, after, t, hg, hrun, hstatuses⟩ := exists_completed htold
  rw [hg, Except.toOption, Option.map_some, Option.some.injEq, decide_eq_true_iff] at hrefers
  obtain ⟨x, hx, hname, href⟩ := hrefers
  have hsound : ∀ m ∈ report.models, m.status ≠ .failed := by
    intro m hm hfailed
    have hmem := List.mem_map_of_mem (f := ModelReport.status) hm
    simp [hstatuses, hfailed] at hmem
  obtain ⟨y, hy, hkind, hyname, r, hr, hrname, hrkind⟩ :=
    (references_stay_within_run hrun hsound x hx).2.1 .dto customerDto href
  exact ⟨g, hg, report, log, after, t, hrun, hstatuses, x, hx, hname, href, y, hy, hkind, hyname, r,
    hr, hrname.trans (by decide), hrkind⟩

end Generator

end CrudScaffold
