import CrudScaffold.Proofs.Assembly.Switches
import CrudScaffold.Proofs.Run.Order

/-!
# Turning something off in a manifest

Where a manifest turns the controller or the service of one model off, every model is resolved as
before, and the graph finds the same models but for what is to be generated for them. So all models
keep their artifacts, except that the one model is without those that were turned off.
-/

namespace CrudScaffold

/-- The manifest in which a switch is off for the declaration at one place. -/
def Manifest.turnOff (m : Manifest) (w : Switch) (i : Nat) : Manifest :=
  { m with models := m.models.modify i fun d => { d with generate := w.turnOff d.generate } }

/-! ## What is due -/

namespace Assembly

variable (a : Assembly) (w : Switch)

/-- What was turned off is no longer due, and all else is. -/
theorem contents_due_turnOff :
    (a.turnOff w).due.map Spec.content = (a.due.map Spec.content).filter w.keeps := by
  have hpredicates : (a.turnOff w).predicatesDue.map Spec.content =
      (a.predicatesDue.map Spec.content).filter w.keeps := by
    unfold predicatesDue
    rw [traits_turnOff]
    split
    · cases w <;> rfl
    · rfl
  have hpipeline : (a.turnOff w).pipelineDue.map Spec.content =
      (a.pipelineDue.map Spec.content).filter w.keeps := by
    have hcontents := a.contents_pipeline_turnOff w
    unfold pipelineDue
    rw [traits_turnOff]
    split
    · cases hp' : (a.turnOff w).pipeline <;> cases hp : a.pipeline <;>
        simp_all [Except.map]
    · rfl
  rw [due, due, List.map_append, List.map_append, List.filter_append, hpredicates, hpipeline]

/-- What keeps the artifacts from being put together stays the same. -/
theorem fault?_turnOff : (a.turnOff w).fault? = a.fault? := by
  have hcontents := a.contents_pipeline_turnOff w
  unfold fault?
  rw [traits_turnOff]
  split
  · cases hp' : (a.turnOff w).pipeline <;> cases hp : a.pipeline <;> simp_all [Except.map]
  · rfl

end Assembly

/-! ## Declarations -/

/-- What does not see the change of an entry does not see that a list was changed there. -/
theorem map_modify_of_forall {α β : Type} {change : α → α} {f : α → β}
    (h : ∀ a, f (change a) = f a) (l : List α) (i : Nat) : (l.modify i change).map f = l.map f := by
  refine List.ext_getElem? fun j => ?_
  rw [List.getElem?_map, List.getElem?_map, List.getElem?_modify]
  cases l[j]? with
  | none => rfl
  | some a =>
    refine congrArg some ?_
    split
    · exact h a
    · rfl

/-- A fold whose steps do not see the change does not see it either. -/
theorem foldl_modify_of_forall {α β : Type} {change : α → α} {step : β → α → β}
    (h : ∀ b a, step b (change a) = step b a) (l : List α) (i : Nat) (b : β) :
    (l.modify i change).foldl step b = l.foldl step b := by
  have hsteps := map_modify_of_forall (f := fun a b => step b a)
    (fun a => funext fun b => h b a) l i
  have hfold := congrArg (List.foldl (fun b next => next b) b) hsteps
  rwa [List.foldl_map, List.foldl_map] at hfold

section

variable (d : Manifest.Model) (generate : Manifest.Generation)

/-- The fields are checked alike, whatever is to be generated. -/
theorem fieldsFaults_with_generate (before fields : List Manifest.Field) :
    { d with generate }.fieldsFaults before fields = d.fieldsFaults before fields := by
  induction fields generalizing before with
  | nil => rfl
  | cons f rest ih =>
    rw [Manifest.Model.fieldsFaults, Manifest.Model.fieldsFaults, ih]
    rfl

/-- A declaration is checked alike, whatever is to be generated. -/
theorem findings_with_generate : { d with generate }.findings = d.findings := by
  unfold Manifest.Model.findings
  rw [fieldsFaults_with_generate]
  rfl

/-- What is to be generated for a model is taken over from its declaration and not looked at. -/
theorem resolve_with_generate (r : Resolver) :
    r.resolve { d with generate } = (r.resolve d).map ({ · with generation := generate }) := by
  have hidentifier : r.declaredIdentifier { d with generate } = r.declaredIdentifier d := by
    unfold Resolver.declaredIdentifier
    rw [findings_with_generate]
    rfl
  have hspace : { d with generate }.declaredSpace = d.declaredSpace := rfl
  have hname : { d with generate }.resolvedName = d.resolvedName := rfl
  have hplain : Resolver.plainFields { d with generate } = Resolver.plainFields d := rfl
  have hcolumns : r.columns { d with generate } = r.columns d := rfl
  have hvariants : r.collectVariants { d with generate } = r.collectVariants d := rfl
  unfold Resolver.resolve
  rw [hidentifier, hspace, hname, hplain, hcolumns, hvariants]
  cases r.declaredIdentifier d with
  | error fault => rfl
  | ok identifier =>
    simp only [bind, Except.bind]
    cases (Resolver.plainFields d identifier).mapM (r.field d.declaredSpace) with
    | error fault => rfl
    | ok declared =>
      cases r.collectVariants d with
      | error fault => rfl
      | ok variants => simp only [pure, Except.pure, Except.map]

end

namespace Catalog

/-- What is put together for a declared model that could be resolved: its predicate factory, and the
other artifacts unless something keeps them from being put together. -/
def built? (c : Catalog) (e : Entry) : Option (Spec × Except GenerationError (List Spec)) :=
  (c.assembly? e).map fun a => (a.predicatesSpec, a.pipeline)

/-- What is put together depends on what the graph finds. -/
theorem built?_congr {c c' : Catalog} (halike : c'.graph.Alike c.graph)
    (hnaming : c'.resolver.naming = c.resolver.naming) : c'.built? = c.built? := by
  funext e
  unfold built? assembly?
  cases e.result with
  | error fault => rfl
  | ok model =>
    let a : Assembly := ⟨model, c.graph, c.resolver.naming⟩
    have hpredicates := Assembly.predicatesSpec_congr (a := a) halike
    have hpipeline := Assembly.pipeline_congr (a := a) halike
    rw [hnaming]
    exact congrArg some (Prod.ext hpredicates hpipeline)

/-- The entry of a model for which a switch is off. -/
def Entry.turnOff (w : Switch) (e : Entry) : Entry :=
  ⟨{ e.declared with generate := w.turnOff e.declared.generate },
    e.result.map fun m => { m with generation := w.turnOff m.generation }⟩

section

variable {m : Manifest} {known : List String} {naming : Naming} {crate : String} (w : Switch)
  (i : Nat)

/-- References mean the same. -/
theorem resolver_turnOff :
    (ofManifest (m.turnOff w i) known naming crate).resolver =
      (ofManifest m known naming crate).resolver := by
  have hstep (index : TypeIndex) (d : Manifest.Model) :
      index.insertModel { d with generate := w.turnOff d.generate } = index.insertModel d := by
    unfold TypeIndex.insertModel
    rfl
  have hmodels : (m.turnOff w i).models.foldl TypeIndex.insertModel {} =
      m.models.foldl TypeIndex.insertModel {} := foldl_modify_of_forall hstep m.models i {}
  have hindex : TypeIndex.ofManifest (m.turnOff w i) known = TypeIndex.ofManifest m known := by
    unfold TypeIndex.ofManifest
    rw [hmodels]
    rfl
  exact congrArg (Resolver.mk · naming m.dtos crate) hindex

/-- A declaration is resolved alike. -/
theorem entry_turnOff (c : Catalog) (d : Manifest.Model) :
    c.entry { d with generate := w.turnOff d.generate } = (c.entry d).turnOff w := by
  unfold entry Entry.turnOff
  rw [resolve_with_generate]
  cases hd : c.resolver.resolve d with
  | error fault => cases fault <;> rfl
  | ok model =>
    have hgenerate : model.generation = d.generate := by
      have hself := resolve_with_generate d d.generate c.resolver
      rw [hd] at hself
      exact congrArg Model.generation (Except.ok.inj hself)
    simp only [Except.map, Except.mapError, hgenerate]

/-- Only the one entry is another. -/
theorem entries_turnOff :
    (ofManifest (m.turnOff w i) known naming crate).entries =
      (ofManifest m known naming crate).entries.modify i (Entry.turnOff w) := by
  have hentry : (ofManifest (m.turnOff w i) known naming crate).entry =
      (ofManifest m known naming crate).entry := by
    funext d
    unfold entry
    rw [resolver_turnOff]
  rw [entries_ofManifest, entries_ofManifest, hentry]
  refine List.ext_getElem? fun j => ?_
  simp only [Manifest.turnOff, List.getElem?_map, List.getElem?_modify]
  cases m.models[j]? with
  | none => rfl
  | some d =>
    refine congrArg some ?_
    split
    · exact entry_turnOff w _ d
    · rfl

/-- The graph finds the same models, up to what is to be generated for them. -/
theorem alike_turnOff :
    (ofManifest (m.turnOff w i) known naming crate).graph.Alike
      (ofManifest m known naming crate).graph := by
  have hmodels : (ofManifest (m.turnOff w i) known naming crate).models.map Model.core =
      (ofManifest m known naming crate).models.map Model.core := by
    have hcore (e : Entry) : (e.turnOff w).result.toOption.map Model.core =
        e.result.toOption.map Model.core := by
      cases he : e.result <;> simp [Entry.turnOff, he, Except.map, Except.toOption, Model.core]
    have hentries := map_modify_of_forall (f := fun e : Entry => e.result.toOption.map Model.core)
      hcore (ofManifest m known naming crate).entries i
    rw [← entries_turnOff] at hentries
    rw [models, models, List.map_filterMap, List.map_filterMap]
    have hall := congrArg (List.filterMap id) hentries
    rwa [List.filterMap_map, List.filterMap_map] at hall
  intro n
  have hfind := congrArg (List.find? fun m : Model => m.name == n) hmodels
  rw [List.find?_map, List.find?_map] at hfind
  rw [get?_graph, get?_graph]
  exact hfind

end

/-- An entry of one catalog has what an entry of another one has, except for artifacts that are not
kept: it is resolved and put together alike or fails with the same error, and the same is due for it,
in the same order. -/
structure Keeps (keeps : Spec.Content → Bool) (c c' : Catalog) (e e' : Entry) : Prop where
  declared : e'.declared.qualifiedName = e.declared.qualifiedName
  resolved : e'.result.map Model.name = e.result.map Model.name
  built : (c'.built? e').map (Prod.map Spec.content (·.map (List.map Spec.content))) =
    (c.built? e).map
      (Prod.map Spec.content (·.map fun specs => (specs.map Spec.content).filter keeps))
  due : (c'.due e').map Spec.content = ((c.due e).map Spec.content).filter keeps
  fault : c'.fault? e' = c.fault? e

namespace Keeps

variable {keeps : Spec.Content → Bool} {c c' : Catalog} {e e' : Entry}

/-- Catalogs with alike graphs keep the same. -/
theorem of_alike (h : Keeps keeps c c e e') (halike : c'.graph.Alike c.graph)
    (hnaming : c'.resolver.naming = c.resolver.naming) : Keeps keeps c c' e e' where
  declared := h.declared
  resolved := h.resolved
  built := built?_congr halike hnaming ▸ h.built
  due := due_congr halike hnaming ▸ h.due
  fault := fault?_congr halike hnaming ▸ h.fault

/-- An entry keeps all that it has. -/
theorem refl (c : Catalog) (e : Entry) : Keeps (fun _ => true) c c e e where
  declared := rfl
  resolved := rfl
  built := by simp only [List.filter_true]
  due := (List.filter_true _).symm
  fault := rfl

/-- An entry for which a switch is off keeps what the switch is not about. -/
theorem turnOff (c : Catalog) (w : Switch) (e : Entry) : Keeps w.keeps c c e (e.turnOff w) := by
  obtain ⟨declared, result⟩ := e
  cases result with
  | error fault => exact ⟨rfl, rfl, rfl, rfl, rfl⟩
  | ok model =>
    let a : Assembly := ⟨model, c.graph, c.resolver.naming⟩
    exact {
      declared := rfl
      resolved := rfl
      built := congrArg some
        (Prod.ext (a.content_predicatesSpec_turnOff w) (a.contents_pipeline_turnOff w))
      due := a.contents_due_turnOff w
      fault := a.fault?_turnOff w }

end Keeps

/-- Where one entry is that of a switch that is off, it is the only one that loses something. -/
theorem keeps_of_modify {c c' : Catalog} {w : Switch} {i : Nat} (halike : c'.graph.Alike c.graph)
    (hnaming : c'.resolver.naming = c.resolver.naming)
    (hentries : c'.entries = c.entries.modify i (Entry.turnOff w)) {j : Nat} {e e' : Entry}
    (he : c.entries[j]? = some e) (he' : c'.entries[j]? = some e') :
    Keeps (if j = i then w.keeps else fun _ => true) c c' e e' := by
  rw [hentries, List.getElem?_modify, he, Option.map_eq_map, Option.map_some,
    Option.some.injEq] at he'
  subst he'
  by_cases hj : j = i
  · rw [if_pos hj, if_pos hj.symm]
    exact (Keeps.turnOff c w e).of_alike halike hnaming
  · rw [if_neg hj, if_neg (Ne.symm hj)]
    exact (Keeps.refl c e).of_alike halike hnaming

/-- Turning the controller or the service of one model off leaves out the artifacts that the switch is
about, for this model, and changes nothing else for any model. -/
theorem turnOff_is_exact (m : Manifest) (known : List String) (naming : Naming) (crate : String)
    (w : Switch) (i : Nat) :
    let c := ofManifest m known naming crate
    let c' := ofManifest (m.turnOff w i) known naming crate
    c'.entries.length = c.entries.length ∧
      ∀ j e e', c.entries[j]? = some e → c'.entries[j]? = some e' →
        Keeps (if j = i then w.keeps else fun _ => true) c c' e e' := by
  intro c c'
  have hnaming : c'.resolver.naming = c.resolver.naming :=
    congrArg Resolver.naming (resolver_turnOff w i)
  constructor
  · rw [entries_turnOff, List.length_modify]
  · intro j e e' he he'
    exact keeps_of_modify (alike_turnOff w i) hnaming (entries_turnOff w i) he he'

private def linkedModels : Manifest where
  models :=
    [{ name := "Order", space := "shop::model", identifier := some { type := some "u64" },
       fields := [{ name := "customer", type := "Customer", cardinality := some .manyToOne }] },
     { name := "Customer", space := "shop::model", identifier := some { type := some "u64" } }]

private def dueKinds (m : Manifest) : List (List ArtifactKind) :=
  let c := ofManifest m [] {} "scrud_runtime"
  c.entries.map fun e => (c.due e).map Spec.kind

/-- Without its service, a customer has no controller either; orders keep theirs. -/
example : dueKinds (linkedModels.turnOff .service 1) =
    [[.predicateFactory, .mapper, .dto, .idAdapter, .repository, .serviceInterface, .serviceImpl,
      .controller], [.predicateFactory, .mapper, .dto, .idAdapter, .repository]] := by
  decide +kernel

end Catalog

end CrudScaffold
