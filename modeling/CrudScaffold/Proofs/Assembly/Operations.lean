import CrudScaffold.Proofs.Assembly.Views
import CrudScaffold.Proofs.Keys
import CrudScaffold.Proofs.Model.Resolution

/-!
# Names of operations

A repository has one lookup for each to-one relation beside its baseline operations, and a service
has the same operations. Lookups take their names from the fields, in snake case: two fields may be
the same in snake case, and two words make the name of a baseline operation. Apart from that no two
operations have one name.
-/

namespace CrudScaffold

open Text

/-- The to-one relations of a model in snake case. -/
def Model.relationWords (m : Model) : List String := m.toOneRelations.map fun f => snakeCase f.name

namespace Assembly

variable {a : Assembly}

/-- The names of the baseline operations, which are the same for every model. -/
def baselineNames : List String :=
  ["find_by_id", "find_all", "count", "exists_by_id", "save", "patch", "delete_by_id", "delete_all"]

/-- The names that the operations of a repository have. -/
def operationNames (a : Assembly) : List String :=
  baselineNames ++ a.model.relationWords.map ("find_" ++ ·)

/-- The baseline operations come first, then the lookups, none of which is left out where every
relation has a target. -/
theorem names_storageOperations
    (htargets : ∀ f ∈ a.model.toOneRelations, ∃ target, f.target = some target) :
    a.storageOperations.map Operation.name = a.operationNames := by
  have hlookups : (a.model.toOneRelations.filterMap a.finderOperation?).map Operation.name =
      a.model.toOneRelations.map fun f => "find_" ++ snakeCase f.name := by
    refine map_filterMap_eq_map fun f hf => ?_
    obtain ⟨target, htarget⟩ := htargets f hf
    simp only [finderOperation?, lookupShape?, htarget, Option.map_some, Naming.finder]
  simp only [storageOperations, List.map_map, List.map_append, Function.comp_def, hlookups,
    operationNames, Model.relationWords]
  rfl

/-- A service declares its operations under the names of the repository. -/
theorem names_of_mem_serviceSpecs {s : Spec} (hs : s ∈ a.serviceSpecs) :
    s.operations.map Operation.name = a.storageOperations.map Operation.name := by
  unfold serviceSpecs at hs
  split at hs
  · simp only [List.mem_cons, List.not_mem_nil, or_false] at hs
    rcases hs with rfl | rfl
    · rw [operations_serviceInterfaceSpec, List.map_map]
      rfl
    · rw [operations_serviceImplSpec, List.map_map]
      rfl
  · cases hs

/-- Two words make a lookup of a baseline operation. -/
theorem find_mem_baselineNames_iff {word : String} :
    "find_" ++ word ∈ baselineNames ↔ word = "by_id" ∨ word = "all" := by
  simp only [baselineNames, List.mem_cons, ← String.toList_inj, String.toList_append]
  simp

/-- The names are distinct exactly if the words are, and none makes a baseline operation. -/
theorem nodup_operationNames_iff :
    a.operationNames.Nodup ↔ a.model.relationWords.Nodup ∧
      "by_id" ∉ a.model.relationWords ∧ "all" ∉ a.model.relationWords := by
  have hprefix : Function.Injective ("find_" ++ ·) := fun _ _ => (String.append_right_inj _).mp
  rw [operationNames, nodup_append_map_iff hprefix (by decide)]
  refine and_congr_right fun _ => ?_
  simp only [find_mem_baselineNames_iff, not_or]
  constructor
  · intro h
    exact ⟨fun hmem => (h _ hmem).1 rfl, fun hmem => (h _ hmem).2 rfl⟩
  · rintro ⟨hbyId, hall⟩ word hmem
    exact ⟨ne_of_mem_of_not_mem hmem hbyId, ne_of_mem_of_not_mem hmem hall⟩

end Assembly

namespace Resolver

open Assembly

variable {r : Resolver} {m : Manifest.Model} {model : Model}

/-- Fields that are in snake case already are distinct words. -/
theorem nodup_relationWords (h : r.resolve m = .ok model)
    (hsnake : ∀ f ∈ model.toOneRelations, snakeCase f.name = f.name) :
    model.relationWords.Nodup := by
  rw [Model.relationWords, List.map_congr_left hsnake]
  exact (List.filter_sublist.map Model.Field.name).nodup (nodup_fields_of_resolve h)

/-- The repository of a resolved model has its baseline operations and one lookup for every to-one
relation, and its service declares the same. Their names are distinct exactly if the relations are
distinct in snake case and none of them is then `by_id` or `all`; where all relations are in snake
case already, only the latter matters. -/
theorem operation_names_distinct_iff (h : r.resolve m = .ok model) (graph : ModelGraph)
    (naming : Naming) :
    let a : Assembly := ⟨model, graph, naming⟩
    let names := baselineNames ++ model.relationWords.map ("find_" ++ ·)
    a.storageOperations.map Operation.name = names ∧
    (∀ s, a.repositorySpec = .ok s → s.operations.map Operation.name = names) ∧
    (∀ s ∈ a.serviceSpecs, s.operations.map Operation.name = names) ∧
    (names.Nodup ↔ model.relationWords.Nodup ∧
      "by_id" ∉ model.relationWords ∧ "all" ∉ model.relationWords) ∧
    ((∀ f ∈ model.toOneRelations, snakeCase f.name = f.name) → model.relationWords.Nodup) := by
  intro a names
  have hstored : a.storageOperations.map Operation.name = names :=
    names_storageOperations fun f => exists_target_of_resolve h
  refine ⟨hstored, fun s hs => ?_, fun s hs => ?_, ?_, nodup_relationWords h⟩
  · rw [(views_repositorySpec hs).1, hstored]
  · rw [names_of_mem_serviceSpecs hs, hstored]
  · exact nodup_operationNames_iff (a := a)

/-! ### A customer with two addresses -/

private def addressResolver : Resolver where
  index := ⟨[(⟨⟨"shop::model"⟩, "Address"⟩, .model)]⟩
  naming := {}
  dtos := []
  runtimeCrate := "scrud_runtime"

-- The fields of these names hold an address each.
private def customerWith (fields : List String) : Manifest.Model where
  name := "Customer"
  space := "shop::model"
  identifier := some { type := some "u64" }
  fields := fields.map fun name =>
    { name, type := "Address", cardinality := some .manyToOne, target := some "Address" }

/-- The lookups of two addresses have names of their own. -/
theorem two_addresses_are_looked_up :
    ∃ model, addressResolver.resolve (customerWith ["home_address", "workplace"]) = .ok model ∧
      ∀ graph naming, let names :=
          (⟨model, graph, naming⟩ : Assembly).storageOperations.map Operation.name
        names = baselineNames ++ ["find_home_address", "find_workplace"] ∧ names.Nodup := by
  obtain ⟨model, hresolve⟩ : ∃ model,
      addressResolver.resolve (customerWith ["home_address", "workplace"]) = .ok model := ⟨_, rfl⟩
  have hwords : model.relationWords = ["home_address", "workplace"] := by
    cases hresolve
    rfl
  refine ⟨model, hresolve, fun graph naming => ?_⟩
  obtain ⟨hnames, -, -, hnodup, -⟩ := operation_names_distinct_iff hresolve graph naming
  simp only [hwords] at hnames hnodup
  exact ⟨hnames, hnames ▸ hnodup.mpr (by decide)⟩

/-- Two spellings of one name make one lookup twice, in the repository and in both parts of the
service. -/
theorem home_address_is_looked_up_twice :
    ∃ model, addressResolver.resolve (customerWith ["homeAddress", "home_address"]) = .ok model ∧
      let a : Assembly := ⟨model, {}, {}⟩
      ¬ (a.storageOperations.map Operation.name).Nodup ∧
      (∃ s, a.repositorySpec = .ok s ∧ ¬ (s.operations.map Operation.name).Nodup) ∧
      a.serviceSpecs.length = 2 ∧
      ∀ s ∈ a.serviceSpecs, ¬ (s.operations.map Operation.name).Nodup := by
  obtain ⟨model, hresolve⟩ : ∃ model,
      addressResolver.resolve (customerWith ["homeAddress", "home_address"]) = .ok model := ⟨_, rfl⟩
  refine ⟨model, hresolve, ?_⟩
  intro a
  have hstored : a.storageOperations.map Operation.name = a.operationNames :=
    names_storageOperations fun f => exists_target_of_resolve hresolve
  have htwice : ¬ (a.storageOperations.map Operation.name).Nodup := by
    have hwords : model.relationWords = ["home_address", "home_address"] := by
      cases hresolve
      rfl
    rw [hstored, nodup_operationNames_iff, show a.model = model from rfl, hwords]
    decide
  obtain ⟨s, hs⟩ : ∃ s, a.repositorySpec = .ok s := by
    cases hresolve
    exact ⟨_, rfl⟩
  have hservices : a.serviceSpecs.length = 2 := by
    cases hresolve
    rfl
  refine ⟨htwice, ⟨s, hs, ?_⟩, hservices, fun s hs => ?_⟩
  · rwa [(views_repositorySpec hs).1]
  · rwa [names_of_mem_serviceSpecs hs]

end Resolver

end CrudScaffold
