import CrudScaffold.Proofs.Except
import CrudScaffold.Proofs.Model.Catalog
import CrudScaffold.Proofs.Model.Resolution
import CrudScaffold.Proofs.Name.Qualified

/-!
# Names of models in the index

A declared model has two names: the index files it under what its path is read as, and once it is
resolved it is called by its namespace and name as they were declared. Both are the same exactly if
the path is legible. DTOs and types from elsewhere are filed later, and one that comes to a name of a
model takes the name over.
-/

namespace CrudScaffold

/-! ## Origins -/

namespace TypeIndex

variable {index : TypeIndex} {n name : QualifiedName} {origin : TypeOrigin}

private theorem lookup_put (entries : List (QualifiedName × TypeOrigin)) :
    (put name origin entries).lookup n = if n = name then some origin else entries.lookup n := by
  induction entries with
  | nil =>
    by_cases hn : n = name
    · simp [put, hn]
    · simp [put, hn, List.lookup_cons, beq_false_of_ne hn]
  | cons entry rest ih =>
    obtain ⟨k, o⟩ := entry
    rw [put]
    split
    · next hk =>
      subst hk
      by_cases hn : n = k
      · simp [hn]
      · simp [hn, List.lookup_cons, beq_false_of_ne hn]
    · next hk =>
      rw [List.lookup_cons, List.lookup_cons, ih]
      by_cases hn : n = k
      · subst hn
        simp [hk]
      · simp [beq_false_of_ne hn]

/-- A type that is filed has this origin from now on, whatever it had before. -/
theorem origin?_insert :
    (index.insert name origin).origin? n = if n = name then some origin else index.origin? n :=
  lookup_put index.entries

/-- Types of one origin take over the names that they come to. -/
theorem origin?_fileAll (names : List QualifiedName) :
    (index.fileAll origin names).origin? n =
      if n ∈ names then some origin else index.origin? n := by
  induction names generalizing index with
  | nil => rfl
  | cons name rest ih =>
    have hrest : ((index.insert name origin).fileAll origin rest).origin? n = _ := ih
    rw [origin?_insert] at hrest
    refine hrest.trans ?_
    by_cases hn : n = name
    · simp [hn]
    · simp [hn]

/-- The names under which declared DTOs are filed, each of them after those before it. -/
def dtoNames : TypeIndex → List Manifest.Dto → List QualifiedName
  | _, [] => []
  | index, dto :: rest =>
    ((index.dtoSpace? dto).map fun space => space.qualify dto.name).toList ++
      (index.insertDto dto).dtoNames rest

end TypeIndex

namespace Manifest

/-- What the paths of the declared models are read as. -/
def modelNames (manifest : Manifest) : List QualifiedName :=
  manifest.models.filterMap fun m => QualifiedName.parse m.qualifiedName

/-- The names under which the declared DTOs are filed. -/
def dtoNames (manifest : Manifest) : List QualifiedName :=
  (TypeIndex.fileAll .model {} manifest.modelNames).dtoNames manifest.dtos

end Manifest

namespace TypeIndex

variable {index : TypeIndex} {n : QualifiedName}

/-- Known types are filed one after the other. -/
theorem foldl_insertKnown_eq (known : List String) :
    known.foldl insertKnown index = index.fileAll .known (known.filterMap QualifiedName.parse) := by
  rw [fileAll, List.foldl_filterMap]
  refine congrArg (fun file => known.foldl file index) ?_
  funext index path
  unfold insertKnown
  cases QualifiedName.parse path <;> rfl

/-- DTOs are filed one after the other. -/
theorem foldl_insertDto_eq (dtos : List Manifest.Dto) :
    dtos.foldl insertDto index = index.fileAll .dto (index.dtoNames dtos) := by
  induction dtos generalizing index with
  | nil => rfl
  | cons dto rest ih =>
    rw [List.foldl_cons, ih, dtoNames, fileAll, fileAll, List.foldl_append]
    congr 1
    unfold insertDto
    cases index.dtoSpace? dto <;> rfl

/-- A name has the origin under which it was filed last: types from elsewhere come after DTOs, and
DTOs after models. -/
theorem origin?_ofManifest (manifest : Manifest) (known : List String) (n : QualifiedName) :
    (ofManifest manifest known).origin? n =
      if n ∈ known.filterMap QualifiedName.parse then some .known
      else if n ∈ manifest.dtoNames then some .dto
      else if n ∈ manifest.modelNames then some .model
      else none := by
  rw [ofManifest, foldl_insertKnown_eq, foldl_insertDto_eq, foldl_insertModel_eq]
  rw [origin?_fileAll, origin?_fileAll, origin?_fileAll]
  rfl

/-- A name is that of a declared model if some model is filed under it and nothing else is later. -/
theorem origin?_eq_model_iff {manifest : Manifest} {known : List String} :
    (ofManifest manifest known).origin? n = some .model ↔
      n ∈ manifest.modelNames ∧ n ∉ manifest.dtoNames ∧
        n ∉ known.filterMap QualifiedName.parse := by
  rw [origin?_ofManifest]
  by_cases hknown : n ∈ known.filterMap QualifiedName.parse
  · simp [hknown]
  · by_cases hdto : n ∈ manifest.dtoNames
    · simp [hknown, hdto]
    · simp [hknown, hdto]

end TypeIndex

/-! ## Legible paths -/

namespace Manifest.Model

/-- The path of a declared model is read as it is meant: the simple name is a segment, and there are no
blanks around the path. -/
structure Legible (m : Manifest.Model) : Prop where
  named : m.name ≠ ""
  segment : Text.IsSegment m.name.toList
  trimmed : Text.trim m.qualifiedName.toList = m.qualifiedName.toList

variable {m : Manifest.Model}

/-- The path of a declared model is read as the name of the resolved model exactly if it is legible.
-/
theorem parse_qualifiedName_iff :
    QualifiedName.parse m.qualifiedName = some m.resolvedName ↔ m.Legible := by
  have hread := @QualifiedName.parse_declared_iff m.qualifiedName m.space m.name rfl
  constructor
  · intro h
    obtain ⟨hnamed, hsegment, htrimmed⟩ := hread.mp h
    exact ⟨hnamed, hsegment, htrimmed⟩
  · rintro ⟨hnamed, hsegment, htrimmed⟩
    exact hread.mpr ⟨hnamed, hsegment, htrimmed⟩

end Manifest.Model

/-! ## The graph -/

namespace Catalog

variable {manifest : Manifest} {known : List String} {naming : Naming} {crate : String}

/-- The models of a catalog are those that its declarations are resolved to. -/
theorem mem_models_iff {model : Model} :
    model ∈ (ofManifest manifest known naming crate).models ↔
      ∃ m ∈ manifest.models,
        (ofManifest manifest known naming crate).resolver.resolve m = .ok model := by
  have htoOption {result : Except GenerationError Model} :
      result.toOption = some model ↔ result = .ok model := by
    cases result <;> simp [Except.toOption]
  rw [models, entries_ofManifest, List.mem_filterMap]
  constructor
  · rintro ⟨e, he, hresult⟩
    obtain ⟨m, hm, rfl⟩ := List.mem_map.mp he
    exact ⟨m, hm, mapError_eq_ok_iff.mp (htoOption.mp hresult)⟩
  · rintro ⟨m, hm, hresolve⟩
    exact ⟨_, List.mem_map_of_mem hm, htoOption.mpr (mapError_eq_ok_iff.mpr hresolve)⟩

/-- The graph has a model of every name that a resolved model has, and of no other. -/
theorem mem_order_iff {c : Catalog} {n : QualifiedName} :
    n ∈ c.graph.order ↔ ∃ model ∈ c.models, model.name = n := by
  calc n ∈ c.graph.order
      ↔ (c.graph.get? n).isSome = true := by
        simp [ModelGraph.order, ModelGraph.get?, List.find?_isSome]
    _ ↔ (c.models.find? fun model => model.name == n).isSome = true := by rw [get?_graph]
    _ ↔ ∃ model ∈ c.models, model.name = n := by simp [List.find?_isSome]

/-- What is in the order of a graph is found in it. -/
theorem exists_get?_of_mem_order {c : Catalog} {n : QualifiedName} (h : n ∈ c.graph.order) :
    ∃ found, c.graph.get? n = some found := by
  obtain ⟨model, hmodel, hname⟩ := mem_order_iff.mp h
  rw [← Option.isSome_iff_exists, get?_graph, List.find?_isSome]
  exact ⟨model, hmodel, by simp [hname]⟩

/-- A resolved model is filed as a model under its own name exactly if some declared path is read as
this name and neither a DTO nor a type from elsewhere is filed there later; its own path is read so
exactly if it is legible. A reference that means a declared model means what some declared path is
read as: if that model was resolved, the graph finds its name there exactly if its path is legible. -/
theorem names_filed_iff (manifest : Manifest) (known : List String) (naming : Naming)
    (crate : String) :
    let c := ofManifest manifest known naming crate
    let index := c.resolver.index
    (∀ n ∈ c.graph.order, ∃ m ∈ manifest.models, ∃ model,
      c.resolver.resolve m = .ok model ∧ model.name = n) ∧
    (∀ m ∈ manifest.models, ∀ model, c.resolver.resolve m = .ok model →
      model.name ∈ c.graph.order ∧
      (index.origin? model.name = some .model ↔
        (∃ m' ∈ manifest.models, QualifiedName.parse m'.qualifiedName = some model.name) ∧
          model.name ∉ manifest.dtoNames ∧
          model.name ∉ known.filterMap QualifiedName.parse) ∧
      (QualifiedName.parse m.qualifiedName = some model.name ↔ m.Legible)) ∧
    ∀ reference seenFrom n, index.resolve reference seenFrom = some n →
      index.origin? n = some .model →
      (∃ m ∈ manifest.models, QualifiedName.parse m.qualifiedName = some n) ∧
      ∀ m ∈ manifest.models, ∀ model, QualifiedName.parse m.qualifiedName = some n →
        c.resolver.resolve m = .ok model →
        ((∃ found, c.graph.get? n = some found ∧ found.name = model.name) ↔ m.Legible) := by
  intro c index
  have hresolved {m : Manifest.Model} (hm : m ∈ manifest.models) {model : Model}
      (hresolve : c.resolver.resolve m = .ok model) :
      model.name ∈ c.graph.order ∧
        (QualifiedName.parse m.qualifiedName = some model.name ↔ m.Legible) := by
    obtain ⟨-, -, -, -, -, -, hname, -⟩ := Resolver.exists_of_resolve hresolve
    constructor
    · exact mem_order_iff.mpr ⟨model, mem_models_iff.mpr ⟨m, hm, hresolve⟩, rfl⟩
    · rw [hname]
      exact Manifest.Model.parse_qualifiedName_iff
  refine ⟨?_, ?_, ?_⟩
  · intro n hn
    obtain ⟨model, hmodel, hname⟩ := mem_order_iff.mp hn
    obtain ⟨m, hm, hresolve⟩ := mem_models_iff.mp hmodel
    exact ⟨m, hm, model, hresolve, hname⟩
  · intro m hm model hresolve
    obtain ⟨horder, hlegible⟩ := hresolved hm hresolve
    refine ⟨horder, ?_, hlegible⟩
    exact TypeIndex.origin?_eq_model_iff.trans (and_congr_left' List.mem_filterMap)
  · intro reference seenFrom n _ horigin
    obtain ⟨hfiled, -⟩ := TypeIndex.origin?_eq_model_iff.mp horigin
    refine ⟨List.mem_filterMap.mp hfiled, ?_⟩
    intro m hm model hread hresolve
    obtain ⟨horder, hlegible⟩ := hresolved hm hresolve
    constructor
    · rintro ⟨found, hfound, hsame⟩
      obtain ⟨-, rfl⟩ := mem_models_of_get?_graph hfound
      exact hlegible.mp (hread.trans (congrArg some hsame))
    · intro h
      obtain rfl : n = model.name := Option.some.inj (hread.symm.trans (hlegible.mpr h))
      obtain ⟨found, hfound⟩ := exists_get?_of_mem_order horder
      exact ⟨found, hfound, (mem_models_of_get?_graph hfound).2⟩

/-! ### Orders -/

private def filedCustomer : Manifest.Model where
  name := "Customer"
  space := "shop::model"
  identifier := some { type := some "u64" }

private def filedShop (orders : String) : Manifest where
  models :=
    [{ name := orders, space := "shop::model", identifier := some { type := some "u64" },
       fields := [{ name := "customer", type := "Customer", cardinality := some .manyToOne }] },
     filedCustomer]

/-- The customer of an order is filed as a model, and a reference to it finds it in the graph. -/
theorem customer_is_found :
    let c := ofManifest (filedShop "Order") ["chrono::NaiveDate"] {} "scrud_runtime"
    let customer : QualifiedName := ⟨⟨"shop::model"⟩, "Customer"⟩
    c.resolver.index.origin? customer = some .model ∧
      c.resolver.index.resolve "Customer" ⟨"shop::model"⟩ = some customer ∧
      ∃ found, c.graph.get? customer = some found ∧ found.name = customer := by
  intro c customer
  obtain ⟨-, hdeclared, hreferences⟩ :=
    names_filed_iff (filedShop "Order") ["chrono::NaiveDate"] {} "scrud_runtime"
  have hm : filedCustomer ∈ (filedShop "Order").models :=
    List.mem_cons_of_mem _ (List.mem_singleton_self _)
  obtain ⟨model, hresolve⟩ : ∃ model, c.resolver.resolve filedCustomer = .ok model := ⟨_, rfl⟩
  have hname : model.name = customer := by
    obtain ⟨-, -, -, -, -, -, hname, -⟩ := Resolver.exists_of_resolve hresolve
    rw [hname]
    decide
  have hread : QualifiedName.parse filedCustomer.qualifiedName = some customer := by decide
  obtain ⟨-, hfiled, hlegible⟩ := hdeclared filedCustomer hm model hresolve
  rw [hname] at hfiled hlegible
  have horigin : c.resolver.index.origin? customer = some .model :=
    hfiled.mpr ⟨⟨filedCustomer, hm, hread⟩, by decide, by decide⟩
  have hmeans : c.resolver.index.resolve "Customer" ⟨"shop::model"⟩ = some customer := by decide
  obtain ⟨-, hfound⟩ := hreferences "Customer" ⟨"shop::model"⟩ customer hmeans horigin
  have hget := (hfound filedCustomer hm model hread hresolve).mpr (hlegible.mp hread)
  rw [hname] at hget
  exact ⟨horigin, hmeans, hget⟩

/-- A blank at the end of a name is lost in the index. Orders are in the graph under a name that is
not filed, and the reference `Order` means a model that was resolved and is not found in the graph. -/
theorem order_with_blank_is_lost :
    let c := ofManifest (filedShop "Order ") [] {} "scrud_runtime"
    let index := c.resolver.index
    ¬ (∀ n ∈ c.graph.order, index.origin? n = some .model) ∧
      ∃ n, index.resolve "Order" ⟨"shop::model"⟩ = some n ∧ index.origin? n = some .model ∧
        (∀ m ∈ (filedShop "Order ").models, (c.resolver.resolve m).toOption.isSome = true) ∧
        c.graph.get? n = none := by
  refine ⟨?_, ⟨⟨"shop::model"⟩, "Order"⟩, ?_, ?_, ?_, ?_⟩ <;> decide +kernel

end Catalog

end CrudScaffold
