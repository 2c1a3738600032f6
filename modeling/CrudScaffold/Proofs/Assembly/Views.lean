import CrudScaffold.Assembly.Pipeline
import CrudScaffold.Proofs.Except
import Mathlib.Data.List.Basic

/-!
# What the artifacts of a model list

The fields, the operations, the constants and the fetch plan of each artifact. Members of the other
kinds do not count in any of these.
-/

namespace CrudScaffold.Assembly

variable {a : Assembly} {s : Spec}

/-! ## DTOs, mappers, predicate factories and identifier adapters -/

/-- The members of a DTO are its fields. -/
theorem fields_dtoSpec (v : Model.DtoVariant) : (a.dtoSpec v).fields = a.dtoMembers v := by
  simp [Spec.fields, dtoSpec, List.filterMap_map]

/-- A DTO has no operations. -/
theorem operations_dtoSpec (v : Model.DtoVariant) : (a.dtoSpec v).operations = [] := by
  simp [Spec.operations, dtoSpec, List.filterMap_map]

/-- A mapper maps to the DTO, to the model, and onto a model. -/
theorem operations_mapperSpec (v : Model.DtoVariant) :
    (a.mapperSpec v).operations =
      [a.toDtoOperation v, a.toModelOperation v, a.applyToOperation v] := rfl

/-- A predicate factory has an operation for each field. -/
theorem operations_predicatesSpec :
    a.predicatesSpec.operations = a.model.fields.map a.predicateOperation := by
  simp [Spec.operations, predicatesSpec, List.filterMap_map]

/-- An identifier adapter encodes and decodes. -/
theorem operations_idAdapterSpec :
    a.idAdapterSpec.operations = [a.encodeOperation, a.decodeOperation] := rfl

/-! ## Repositories and services -/

/-- A repository has the storage operations, and carries the fetch plan of its model. -/
theorem views_repositorySpec (h : a.repositorySpec = .ok s) :
    s.operations = a.storageOperations ∧ a.fetchPlan = .ok s.entityGraph? := by
  obtain ⟨plan, hplan, h⟩ := bind_eq_ok_iff.mp h
  cases h
  rw [hplan]
  constructor
  · cases plan <;> simp [Spec.operations, baseMembers, List.filterMap_map]
  · have hnone {α : Type} (l : List α) : l.findSome? (fun _ => (none : Option EntityGraph)) =
        none := List.findSome?_eq_none_iff.mpr fun _ _ => rfl
    cases plan <;>
      simp [Spec.entityGraph?, baseMembers, List.findSome?_map, Function.comp_def, hnone]

/-- A service interface declares the operations of the repository. -/
theorem operations_serviceInterfaceSpec :
    a.serviceInterfaceSpec.operations =
      a.storageOperations.map fun o => { o with body := .abstract } := by
  simp [Spec.operations, serviceInterfaceSpec, List.filterMap_map]

/-- A service implementation delegates the operations of the repository. -/
theorem operations_serviceImplSpec :
    a.serviceImplSpec.operations =
      a.storageOperations.map fun o => { o with body := .delegate .repository o.name } := by
  simp [Spec.operations, serviceImplSpec, baseMembers, List.filterMap_map]

/-! ## Controllers -/

/-- The operations of a controller are its handlers. -/
theorem operations_controllerSpec : a.controllerSpec.operations = a.handlers := by
  simp [Spec.operations, controllerSpec, payloadMapper, baseMembers, List.filterMap_map]

/-- A controller has its base path as a constant. -/
theorem constants_controllerSpec :
    a.controllerSpec.constants = [⟨"BASE_PATH", "/" ++ Naming.pathFragment a.model⟩] := by
  simp [Spec.constants, controllerSpec, payloadMapper, baseMembers, List.filterMap_map]

end CrudScaffold.Assembly
