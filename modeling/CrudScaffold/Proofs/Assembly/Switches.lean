import CrudScaffold.Proofs.Assembly.Closure
import CrudScaffold.Proofs.Assembly.Graph

/-!
# Turning controllers and services off

The controller or the service of a model can be turned off. What an artifact says does not depend on
these switches, so turning one off leaves out the artifacts it is about and changes no other: the
controller goes alone, the service takes the controller with it, which has nothing to call then.
-/

namespace CrudScaffold

/-- What an artifact says, apart from the model that it was built for. -/
structure Spec.Content where
  name : QualifiedName
  kind : ArtifactKind
  doc : String
  members : List Member

/-- What an artifact says. -/
def Spec.content (s : Spec) : Spec.Content := ⟨s.name, s.kind, s.doc, s.members⟩

/-- What can be turned off for a model. -/
inductive Switch where
  | controller
  | service
  deriving DecidableEq, Repr

namespace Switch

/-- The kinds of artifacts that a model is then without. -/
def kinds : Switch → List ArtifactKind
  | controller => [.controller]
  | service => [.serviceInterface, .serviceImpl, .controller]

/-- The artifact is there also when the switch is off. -/
def keeps (w : Switch) (t : Spec.Content) : Bool := !w.kinds.contains t.kind

/-- What is to be generated when the switch is off. -/
def turnOff (g : Manifest.Generation) : Switch → Manifest.Generation
  | controller => { g with controller := false }
  | service => { g with service := false }

end Switch

namespace Assembly

variable (a : Assembly) (w : Switch)

/-- The assembly of the model for which a switch is off. -/
def turnOff : Assembly :=
  { a with model := { a.model with generation := w.turnOff a.model.generation } }

/-- The traits of the model stay the same. -/
theorem traits_turnOff : (a.turnOff w).model.traits = a.model.traits := rfl

/-- What the artifacts besides the predicate factory say, given what the repository says and which
artifacts are to be generated. -/
def contents (g : Manifest.Generation) (repository : Spec.Content) : List Spec.Content :=
  a.mapperSpecs.map Spec.content ++ a.dtoSpecs.map Spec.content ++
    [a.idAdapterSpec.content, repository] ++
    (if g.service then [a.serviceInterfaceSpec.content, a.serviceImplSpec.content] else []) ++
    if g.controller && g.service then [a.controllerSpec.content] else []

/-- The predicate factory says the same. -/
theorem content_predicatesSpec_turnOff :
    (a.turnOff w).predicatesSpec.content = a.predicatesSpec.content := rfl

/-- So do the artifacts that are left of the others. -/
theorem contents_turnOff (g : Manifest.Generation) (repository : Spec.Content) :
    (a.turnOff w).contents g repository = a.contents g repository := by
  have hmappers : (a.turnOff w).mapperSpecs.map Spec.content = a.mapperSpecs.map Spec.content := by
    rw [mapperSpecs, mapperSpecs, List.map_map, List.map_map]
    rfl
  have hdtos : (a.turnOff w).dtoSpecs.map Spec.content = a.dtoSpecs.map Spec.content := by
    rw [dtoSpecs, dtoSpecs, List.map_map, List.map_map]
    rfl
  unfold contents
  rw [hmappers, hdtos]
  cases w <;> rfl

/-- The repository says the same, and nothing else keeps it from being put together. -/
theorem content_repositorySpec_turnOff :
    (a.turnOff w).repositorySpec.map Spec.content = a.repositorySpec.map Spec.content := by
  have hpath : (a.turnOff w).pathFault? = a.pathFault? := by
    funext path
    have hgraph : (a.turnOff w).graph.Alike a.graph := .of_get?_eq rfl
    exact if_congr Iff.rfl rfl (attributeFault?_congr hgraph true a.model _ _)
  have hplan : (a.turnOff w).fetchPlan = a.fetchPlan := by
    unfold fetchPlan
    rw [hpath]
    rfl
  unfold repositorySpec
  rw [hplan]
  cases a.fetchPlan with
  | error fault => rfl
  | ok plan => cases w <;> rfl

/-- What the artifacts besides the predicate factory say follows from what the repository says. -/
theorem contents_pipeline :
    a.pipeline.map (List.map Spec.content) =
      (a.repositorySpec.map Spec.content).map (a.contents a.model.generation) := by
  unfold pipeline
  cases a.repositorySpec with
  | error fault => rfl
  | ok repository =>
    refine congrArg Except.ok ?_
    simp only [List.map_append, serviceSpecs, controllerSpec?, contents]
    split <;> split <;> rfl

variable {a} in
/-- Leaving out what a switch is about gives what is there when it is off. -/
theorem filter_contents {repository : Spec.Content} (hkind : repository.kind = .repository)
    (g : Manifest.Generation) :
    (a.contents g repository).filter w.keeps = a.contents (w.turnOff g) repository := by
  have hmappers : (a.mapperSpecs.map Spec.content).filter w.keeps =
      a.mapperSpecs.map Spec.content := by
    refine List.filter_eq_self.mpr fun t ht => ?_
    simp only [mapperSpecs, List.map_map, List.mem_map] at ht
    obtain ⟨v, -, rfl⟩ := ht
    cases w <;> rfl
  have hdtos : (a.dtoSpecs.map Spec.content).filter w.keeps = a.dtoSpecs.map Spec.content := by
    refine List.filter_eq_self.mpr fun t ht => ?_
    simp only [dtoSpecs, List.map_map, List.mem_map] at ht
    obtain ⟨v, -, rfl⟩ := ht
    cases w <;> rfl
  have hrepository : w.keeps repository = true := by
    unfold Switch.keeps
    rw [hkind]
    cases w <;> rfl
  have hadapter : w.keeps a.idAdapterSpec.content = true := by cases w <;> rfl
  simp only [contents, List.filter_append, hmappers, hdtos, List.filter_cons, List.filter_nil,
    hadapter, hrepository, ↓reduceIte]
  -- What is left are the services and the controller, each there or not.
  obtain ⟨controller, service, pathFragment, superclass⟩ := g
  cases w <;> cases controller <;> cases service <;> rfl

/-- Turning something off leaves out the artifacts it is about. Those that are left stay in their order
and say the same, and whether they can be put together stays as it was. -/
theorem contents_pipeline_turnOff :
    (a.turnOff w).pipeline.map (List.map Spec.content) =
      a.pipeline.map fun specs => (specs.map Spec.content).filter w.keeps := by
  have hsplit : (a.pipeline.map fun specs => (specs.map Spec.content).filter w.keeps) =
      (a.pipeline.map (List.map Spec.content)).map (List.filter w.keeps) := by
    cases a.pipeline <;> rfl
  rw [hsplit, contents_pipeline, contents_pipeline, content_repositorySpec_turnOff]
  cases hrepository : a.repositorySpec with
  | error fault => rfl
  | ok repository =>
    have hkind : repository.content.kind = .repository := (of_repositorySpec hrepository).2.1
    simp only [Except.map, contents_turnOff, filter_contents w hkind]
    rfl

end Assembly

end CrudScaffold
