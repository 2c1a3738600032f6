import CrudScaffold.Assembly.Pipeline
import CrudScaffold.Proofs.Model.Reachability

/-!
# What artifacts take from the graph

Artifacts look models up in the graph by their names, and nothing else of the graph shows in them. What
is to be generated for a model does not show in the artifacts of another one either. So two graphs give
a model the same artifacts if they find the same models up to that, in whatever order they hold them.
-/

namespace CrudScaffold

/-- A model apart from what is to be generated for it. -/
def Model.core (m : Model) : Model := { m with generation := {} }

namespace ModelGraph

/-- Graphs that find the same models under every name, up to what is to be generated for them. -/
def Alike (g' g : ModelGraph) : Prop :=
  ∀ n, (g'.get? n).map Model.core = (g.get? n).map Model.core

variable {g g' : ModelGraph}

/-- Graphs that find the same models are alike. -/
theorem Alike.of_get?_eq (h : g'.get? = g.get?) : g'.Alike g := fun _ => by rw [h]

/-- Alike graphs both find nothing, or they find the same model up to what is to be generated. -/
theorem Alike.cases (h : g'.Alike g) (n : QualifiedName) :
    (g'.get? n = none ∧ g.get? n = none) ∨
      ∃ m generation, g'.get? n = some { m with generation } ∧ g.get? n = some m := by
  have hn := h n
  cases hm : g.get? n with
  | none =>
    rw [hm] at hn
    exact .inl ⟨Option.map_eq_none_iff.mp hn, rfl⟩
  | some m =>
    rw [hm] at hn
    obtain ⟨m', hm', hcore⟩ := Option.map_eq_some_iff.mp hn
    have hsame : m' = { m with generation := m'.generation } :=
      congrArg (fun core : Model => { core with generation := m'.generation }) hcore
    exact .inr ⟨m, m'.generation, hsame ▸ hm', rfl⟩

/-- Relation fields lead to the same names. -/
theorem leadsTo_congr (h : g'.Alike g) : g'.LeadsTo = g.LeadsTo := by
  funext source goal
  unfold LeadsTo
  rcases h.cases source with ⟨hnone', hnone⟩ | ⟨m, generation, hsome', hsome⟩
  · rw [hnone', hnone]
  · simp only [hsome', hsome, Option.some.injEq, exists_eq_left']

/-- The search has the same answers, although it may visit the models in another order. -/
theorem reaches_congr (h : g'.Alike g) : g'.reaches = g.reaches := by
  funext source goal
  rw [Bool.eq_iff_iff, reaches_iff_reflTransGen, reaches_iff_reflTransGen, leadsTo_congr h]

end ModelGraph

namespace Assembly

/-! ## Relations -/

/-- An attribute path has the same fault from every owner, whatever is to be generated for it. -/
theorem attributeFault?_congr {a a' : Assembly} (h : a'.graph.Alike a.graph) (first : Bool)
    (owner : Model) (generation : Manifest.Generation) (segments : List String) :
    a'.attributeFault? first { owner with generation } segments =
      a.attributeFault? first owner segments := by
  induction segments generalizing first owner generation with
  | nil => rfl
  | cons segment rest ih =>
    have hfield : { owner with generation }.field? segment = owner.field? segment := rfl
    simp only [attributeFault?, hfield]
    cases owner.field? segment with
    | none => rfl
    | some f =>
      dsimp only
      split
      · rfl
      · cases f.target with
        | none => rfl
        | some target =>
          simp only [Option.bind_eq_bind, Option.bind_some]
          rcases h.cases target with ⟨hnone', hnone⟩ | ⟨m, generation', hsome', hsome⟩
          · rw [hnone', hnone]
          · rw [hsome', hsome]
            exact ih false m generation'

variable {a : Assembly} {graph : ModelGraph} (h : graph.Alike a.graph)
include h

private theorem shownAs?_congr : { a with graph }.shownAs? = a.shownAs? := by
  funext target
  unfold shownAs?
  rcases h.cases target with ⟨hnone', hnone⟩ | ⟨m, generation, hsome', hsome⟩
  · rw [hnone', hnone]
  · rw [hsome', hsome]
    rfl

private theorem relatedShape_congr : { a with graph }.relatedShape = a.relatedShape := by
  funext f
  simp only [relatedShape, shownAs?_congr h, ModelGraph.reaches_congr h]

private theorem relatedIdField_congr : { a with graph }.relatedIdField = a.relatedIdField := by
  funext f
  unfold relatedIdField
  cases f.target with
  | none => rfl
  | some target =>
    simp only [Option.bind_eq_bind, Option.bind_some]
    rcases h.cases target with ⟨hnone', hnone⟩ | ⟨m, generation, hsome', hsome⟩
    · rw [hnone', hnone]
    · rw [hsome', hsome]

/-! ## Artifacts -/

private theorem dtoSpec_congr : { a with graph }.dtoSpec = a.dtoSpec := by
  have hmember : { a with graph }.memberType = a.memberType := by
    funext f
    unfold memberType
    rw [relatedShape_congr h]
  funext v
  unfold dtoSpec dtoMembers
  rw [hmember]
  rfl

private theorem mapperSpec_congr : { a with graph }.mapperSpec = a.mapperSpec := by
  have hconversion : { a with graph }.conversion = a.conversion := by
    funext f
    unfold conversion
    rw [relatedShape_congr h]
  have hmapping : { a with graph }.mapping = a.mapping := by
    funext v direction
    unfold mapping copies
    rw [hconversion]
    rfl
  funext v
  unfold mapperSpec toDtoOperation toModelOperation applyToOperation
  rw [hmapping]
  rfl

private theorem repositorySpec_congr : { a with graph }.repositorySpec = a.repositorySpec := by
  have hpath : { a with graph }.pathFault? = a.pathFault? := by
    funext path
    unfold pathFault?
    dsimp only
    rw [attributeFault?_congr (a := a) h true a.model a.model.generation]
  unfold repositorySpec fetchPlan
  rw [hpath]
  rfl

private theorem controllerSpec?_congr : { a with graph }.controllerSpec? = a.controllerSpec? := by
  have hrelated : { a with graph }.relatedHandler? = a.relatedHandler? := by
    funext f
    unfold relatedHandler?
    rw [shownAs?_congr h]
  unfold controllerSpec? controllerSpec handlers
  rw [hrelated]
  rfl

/-- The predicate factory is the same for graphs that are alike. -/
theorem predicatesSpec_congr : { a with graph }.predicatesSpec = a.predicatesSpec := by
  have hpath : { a with graph }.predicatePath = a.predicatePath := by
    funext f
    unfold predicatePath
    rw [relatedIdField_congr h]
  unfold predicatesSpec predicateOperation
  rw [hpath]
  rfl

/-- All artifacts besides the predicate factory are the same, and so is what keeps them from being
put together. -/
theorem pipeline_congr : { a with graph }.pipeline = a.pipeline := by
  unfold pipeline mapperSpecs dtoSpecs
  rw [repositorySpec_congr h, mapperSpec_congr h, dtoSpec_congr h, controllerSpec?_congr h]
  rfl

end Assembly

end CrudScaffold
