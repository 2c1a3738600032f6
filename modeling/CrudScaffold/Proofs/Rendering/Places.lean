import CrudScaffold.Proofs.Rendering.Places.Endpoints
import CrudScaffold.Proofs.Rendering.Places.Identity
import CrudScaffold.Proofs.Rendering.Places.Storage
import CrudScaffold.Proofs.Rendering.Places.Transfer
import CrudScaffold.Rendering.Source

/-!
# Artifacts follow templates

Every kind of artifact is rendered along a template: its text depends on the names to which the
specification refers, and on the known types, only in the places where these names are written.
-/

namespace CrudScaffold.Renderer

open Code Code.Token

variable (r : Renderer)

/-! ## Predicate factories -/

/-- A public function whose body has no places. -/
theorem templated_function (isMethod : Bool) (o : Operation) (front body : Tokens) :
    r.Templated fun w =>
      (fun signature => front ++ publicFunction signature body) <$>
        (r.under w).signature isMethod (o.rename w.rename) :=
  (templated_signature r isMethod o).map _ (front ++ word "pub") (Phrase.braced body)
    fun signature => by simp [publicFunction]

private theorem templated_predicateFunction (o : Operation) :
    r.Templated fun w => (r.under w).predicateFunction (o.rename w.rename) := by
  have hfunction := templated_function r false o
  cases hbody : o.body with
  | predicate path operand =>
    simp only [Operation.rename, hbody, OperationBody.rename] at hfunction
    simp only [predicateFunction, Operation.rename, hbody, OperationBody.rename, under_inRuntime,
      bind_pure_comp]
    exact hfunction _ _
  | abstract | query | persist | delegate | map | codec | handle =>
    simp only [predicateFunction, Operation.rename, hbody, OperationBody.rename]
    exact .const _

private theorem templated_predicateFactory (s : Spec) :
    r.Templated fun w => (r.under w).predicateFactory (s.rename w.rename) := by
  simp only [predicateFactory, Spec.name_rename, Spec.doc_rename, Spec.operations_rename,
    List.mapM_map]
  refine .after fun name => ?_
  obtain ⟨fs, hfs⟩ := eachTemplated_mapM s.operations fun o _ => templated_predicateFunction r o
  refine ⟨.fixed (doc s.doc ++ unitStruct name) ++ .unitImpl name fs, fun w tokens h => ?_⟩
  obtain ⟨functions, hfunctions, h⟩ := bind_eq_ok_iff.mp h
  cases h
  simp [fill_append, ok_bind, fill_unitImpl name (hfs w functions hfunctions)]

/-! ## All artifacts -/

/-- Every artifact follows a template. -/
theorem templated_artifact (s : Spec) :
    r.Templated fun w => (r.under w).artifact (s.rename w.rename) := by
  simp only [artifact, Spec.kind_rename]
  cases s.kind with
  | dto => exact templated_dto r s
  | mapper => exact templated_mapper r s
  | idAdapter => exact templated_idAdapter r s
  | repository => exact templated_repository r s
  | serviceInterface => exact templated_serviceInterface r s
  | serviceImpl => exact templated_serviceImpl r s
  | controller => exact templated_controller r s
  | predicateFactory => exact templated_predicateFactory r s

end CrudScaffold.Renderer
