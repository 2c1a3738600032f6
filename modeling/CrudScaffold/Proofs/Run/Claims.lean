import CrudScaffold.Proofs.Run.Account
import CrudScaffold.Proofs.Run.Passes
import Mathlib.Data.List.Nodup

/-!
# Claiming names in a run

Every model has a sequence of artifacts that are due. In both passes it claims their names in order,
and it stops only at a name that is taken. So what a model emits is its whole sequence, or the part
before an artifact whose name was claimed earlier; and no name is claimed twice in a run.
-/

namespace CrudScaffold

/-! ## What is due -/

namespace Assembly

variable (a : Assembly)

/-- What is due in the first pass: the predicate factory of an entity. -/
def predicatesDue : List Spec := if a.model.traits.entity then [a.predicatesSpec] else []

/-- What is due in the second pass: all other artifacts, if the model has them and they can be put
together. -/
def pipelineDue : List Spec :=
  if a.model.traits.scrudBean then
    match a.pipeline with
    | .ok due => due
    | .error _ => []
  else []

/-- All artifacts that are due, in their order. -/
def due : List Spec := a.predicatesDue ++ a.pipelineDue

/-- Why the artifacts of the second pass cannot be put together. -/
def fault? : Option GenerationError :=
  if a.model.traits.scrudBean then
    match a.pipeline with
    | .ok _ => none
    | .error fault => some fault
  else none

/-- Only the predicate factory is due for a model whose other artifacts are at fault. -/
theorem pipelineDue_of_fault {fault : GenerationError} (h : a.fault? = some fault) :
    a.pipelineDue = [] := by
  unfold fault? at h
  unfold pipelineDue
  cases hp : a.pipeline with
  | ok due => simp [hp] at h
  | error e => simp

/-- What is due in the first pass is the predicate factory. -/
theorem kind_of_mem_predicatesDue {s : Spec} (h : s ∈ a.predicatesDue) :
    s.kind = .predicateFactory := by
  unfold predicatesDue at h
  split at h
  · rw [List.mem_singleton.mp h]
    rfl
  · cases h

end Assembly

namespace Catalog

variable (c : Catalog)

/-- What the artifacts of a declared model are assembled from, if it was resolved. -/
def assembly? (e : Entry) : Option Assembly :=
  e.result.toOption.map fun model => ⟨model, c.graph, c.resolver.naming⟩

/-- All artifacts that are due for a declared model, in their order. -/
def due (e : Entry) : List Spec := ((c.assembly? e).map Assembly.due).getD []

/-- Why a declared model cannot have all its artifacts, whatever names are taken. -/
def fault? (e : Entry) : Option GenerationError :=
  match e.result with
  | .ok model => (Assembly.mk model c.graph c.resolver.naming).fault?
  | .error fault => some fault

variable {c : Catalog} {e : Entry} {a : Assembly}

/-- What is due for a resolved model is due for its assembly. -/
theorem due_of_assembly (h : c.assembly? e = some a) : c.due e = a.due := by
  simp [due, h]

/-- The faults of a resolved model are those of its assembly. -/
theorem fault?_of_assembly (h : c.assembly? e = some a) : c.fault? e = a.fault? := by
  unfold assembly? at h
  unfold fault?
  cases hresult : e.result with
  | error fault => simp [hresult, Except.toOption] at h
  | ok model =>
    simp only [hresult, Except.toOption, Option.map_some, Option.some.injEq] at h
    simp only [h]

end Catalog

/-! ## One share -/

namespace Share

/-- A share holds the due artifacts up to the first one whose name is taken, and the claimed names
grow by theirs. -/
structure Claims (names : NameRegistry) (due : List Spec) (share : Share) (after : NameRegistry) :
    Prop where
  names_eq : after.names = (share.specs.map Spec.name).reverse ++ names.names
  outcome : share.specs = due ∧ share.error = none ∨
    ∃ s rest, due = share.specs ++ s :: rest ∧
      share.error = some (.duplicateArtifactName s.name) ∧ s.name ∈ after.names

variable {names : NameRegistry} {a : Assembly}

/-- Nothing is claimed where nothing is due. -/
theorem Claims.nil (names : NameRegistry) : Claims names [] {} names :=
  ⟨rfl, .inl ⟨rfl, rfl⟩⟩

/-- Claiming goes on until a name is taken. -/
theorem claims_claim (remarks : List String) (names : NameRegistry) (due : List Spec) :
    Claims names due (claim remarks names due).1 (claim remarks names due).2 := by
  induction due generalizing names with
  | nil => exact ⟨rfl, .inl ⟨rfl, rfl⟩⟩
  | cons s rest ih =>
    cases h : names.claim? s.name with
    | none =>
      have htaken : s.name ∈ names.names := names.claim?_eq_none_iff.mp h
      simp only [claim, claimInOrder, h]
      exact ⟨rfl, .inr ⟨s, rest, rfl, rfl, htaken⟩⟩
    | some next =>
      have hnext : next.names = s.name :: names.names := names.names_of_claim? h
      obtain ⟨hnames, houtcome⟩ := ih next
      simp only [claim, claimInOrder, h] at hnames houtcome ⊢
      refine ⟨?_, ?_⟩
      · rw [hnames, hnext]
        simp
      · rcases houtcome with ⟨hspecs, herror⟩ | ⟨t, left, hdue, herror, htaken⟩
        · exact .inl ⟨congrArg (s :: ·) hspecs, herror⟩
        · exact .inr ⟨t, left, congrArg (s :: ·) hdue, herror, htaken⟩

/-- In the first pass a model claims the name of its predicate factory. -/
theorem claims_first (a : Assembly) (names : NameRegistry) :
    Claims names a.predicatesDue (first a names).1 (first a names).2 := by
  unfold first Assembly.predicatesDue
  split
  · exact claims_claim _ _ _
  · exact .nil names

/-- In the second pass a model whose other artifacts can be put together claims their names. -/
theorem claims_second (h : a.fault? = none) (names : NameRegistry) :
    Claims names a.pipelineDue (second a names).1 (second a names).2 := by
  unfold Assembly.fault? at h
  unfold second Assembly.pipelineDue
  split
  · next hbean =>
    cases hp : a.pipeline with
    | ok due => exact claims_claim _ _ _
    | error fault => simp [hbean, hp] at h
  · exact .nil names

/-- In the second pass a model whose other artifacts are at fault claims nothing. -/
theorem second_of_fault {fault : GenerationError} (h : a.fault? = some fault)
    (names : NameRegistry) :
    (second a names).1.specs = [] ∧ (second a names).1.error = some fault ∧
      (second a names).2 = names := by
  unfold Assembly.fault? at h
  unfold second
  split at h
  · next hbean =>
    cases hp : a.pipeline with
    | ok due => simp [hp] at h
    | error e =>
      simp only [hp, Option.some.injEq] at h
      simp [hbean, h]
  · cases h

/-- In the second pass the names of the second share are claimed. -/
theorem names_second (a : Assembly) (names : NameRegistry) :
    (second a names).2.names = ((second a names).1.specs.map Spec.name).reverse ++ names.names := by
  cases h : a.fault? with
  | none => exact (claims_second h names).names_eq
  | some fault =>
    obtain ⟨hspecs, -, hnames⟩ := second_of_fault h names
    simp [hspecs, hnames]

/-- In the second pass a model gets all other artifacts that are due, unless a name is taken; only then
is it stopped by anything but its own fault. -/
theorem second_cases (a : Assembly) (names : NameRegistry) :
    (second a names).1.specs = a.pipelineDue ∧ (second a names).1.error = a.fault? ∨
      ∃ s rest, a.pipelineDue = (second a names).1.specs ++ s :: rest ∧
        (second a names).1.error = some (.duplicateArtifactName s.name) ∧
        s.name ∈ (second a names).2.names := by
  cases h : a.fault? with
  | none => exact (claims_second h names).outcome
  | some fault =>
    obtain ⟨hspecs, herror, -⟩ := second_of_fault h names
    exact .inl ⟨hspecs.trans (a.pipelineDue_of_fault h).symm, herror⟩

end Share

/-! ## One pass -/

namespace PlannedModel

variable {pass : NameRegistry → PlannedModel → PlannedModel × NameRegistry} {names : NameRegistry}
  {ps : List PlannedModel} {p : PlannedModel}

/-- The artifacts of both shares. -/
def specs (p : PlannedModel) : List Spec := p.first.specs ++ p.second.specs

/-- The claimed names are those of the artifacts that a pass adds to the models, the latest first. -/
theorem names_passAll (added : PlannedModel → List Spec)
    (hstep : ∀ names, ∀ p ∈ ps, (pass names p).2.names =
      ((added (pass names p).1).map Spec.name).reverse ++ names.names) :
    (passAll pass names ps).2.names =
      (((passAll pass names ps).1.flatMap added).map Spec.name).reverse ++ names.names := by
  induction ps generalizing names with
  | nil => rfl
  | cons p ps ih =>
    have hrest : (passAll pass (pass names p).2 ps).2.names = _ :=
      ih fun n q hq => hstep n q (List.mem_cons_of_mem p hq)
    simp only [passAll]
    rw [hrest, hstep names p List.mem_cons_self]
    simp

/-- The first pass claims the names of the first share. -/
theorem names_passFirst (h : p.first.specs = []) :
    (passFirst names p).2.names =
      ((passFirst names p).1.first.specs.map Spec.name).reverse ++ names.names := by
  unfold passFirst
  cases p.assembly? with
  | none => simp [h]
  | some a => exact (Share.claims_first a names).names_eq

/-- The second pass claims the names of the second share. -/
theorem names_passSecond (h : p.second.specs = []) :
    (passSecond names p).2.names =
      ((passSecond names p).1.second.specs.map Spec.name).reverse ++ names.names := by
  unfold passSecond
  split
  · next a _ _ => exact Share.names_second a names
  · simp [h]

end PlannedModel

/-! ## A whole plan -/

/-- A plan is emitted share by share, but it is the artifacts of its models that are emitted. -/
theorem Generator.emissionOrder_perm (plan : List PlannedModel) :
    (emissionOrder plan).Perm (plan.flatMap PlannedModel.specs) :=
  List.flatMap_append_perm plan _ _

/-- What a plan emits are the artifacts of its models. -/
theorem Generator.mem_emissionOrder_iff {plan : List PlannedModel} {x : Spec} :
    x ∈ emissionOrder plan ↔ ∃ p ∈ plan, x ∈ p.specs := by
  rw [(emissionOrder_perm plan).mem_iff, List.mem_flatMap]

/-- The names that are claimed when the model at a place of a plan has claimed its last one. In the
first pass only the models before it have claimed names by then. -/
def PlannedModel.claimedUntil (plan : List PlannedModel) (i : Nat) (p : PlannedModel) :
    List QualifiedName :=
  let before := plan.take i
  let specs :=
    if p.first.error.isSome then before.flatMap (fun q => q.first.specs) ++ p.first.specs
    else
      plan.flatMap (fun q => q.first.specs) ++ before.flatMap (fun q => q.second.specs) ++
        p.second.specs
  specs.map Spec.name

/-- How a declared model fares in a run: it emits all that is due, or what is due before an artifact
whose name was claimed earlier. -/
inductive Catalog.Fares (c : Catalog) (e : Catalog.Entry) (claimed : List QualifiedName)
    (p : PlannedModel) : Prop where
  | whole (specs_eq : p.specs = c.due e) (error_eq : p.error = c.fault? e)
  | cut (s : Spec) (rest : List Spec) (due_eq : c.due e = p.specs ++ s :: rest)
    (error_eq : p.error = some (.duplicateArtifactName s.name)) (taken : s.name ∈ claimed)

/-- What a model emits is what is due for it up to some artifact. -/
theorem Catalog.Fares.specs_prefix {c : Catalog} {e : Catalog.Entry} {claimed : List QualifiedName}
    {p : PlannedModel} (h : c.Fares e claimed p) : p.specs <+: c.due e := by
  cases h with
  | whole hspecs _ => exact hspecs ▸ List.prefix_rfl
  | cut s rest hdue _ _ => exact ⟨s :: rest, hdue.symm⟩

namespace Catalog

open PlannedModel

variable (c : Catalog) {e : Catalog.Entry} {i : Nat}

/-- The second pass leaves the first shares alone. -/
theorem map_first_plan : c.plan.map PlannedModel.first = c.halfway.1.map PlannedModel.first :=
  map_passAll fun _ _ => first_passSecond

/-- The artifacts of the first shares, up to a place of the plan. -/
theorem flatMap_first_take_plan :
    (c.plan.take i).flatMap (fun p => p.first.specs) =
      (c.halfway.1.take i).flatMap fun p => p.first.specs := by
  have hmap := congrArg (List.take i) c.map_first_plan
  rw [← List.map_take, ← List.map_take] at hmap
  have hflat := congrArg (List.flatMap Share.specs) hmap
  rwa [List.flatMap_map, List.flatMap_map] at hflat

/-- Between both passes there is one model for each declared one. -/
theorem length_halfway : c.halfway.1.length = c.entries.length := by
  have htitles : c.halfway.1.map title = c.fresh.map title := map_passAll fun _ _ => title_passFirst
  simpa [fresh] using congrArg List.length htitles

/-- A plan has one model for each declared one. -/
theorem length_plan : c.plan.length = c.entries.length := by
  have hshares := congrArg List.length c.map_first_plan
  simpa [length_halfway] using hshares

/-- In the first pass the model at a place meets the names that the models before it claimed. -/
theorem names_first_take (i : Nat) :
    (passAll passFirst {} (c.fresh.take i)).2.names =
      (((c.plan.take i).flatMap fun p => p.first.specs).map Spec.name).reverse := by
  rw [names_passAll fun p => p.first.specs, flatMap_first_take_plan, halfway,
    take_passAll]
  · simp
  · intro names p hp
    refine names_passFirst ?_
    rw [(c.shares_of_mem_fresh (List.mem_of_mem_take hp)).1]

/-- After the first pass the names of all first shares are claimed. -/
theorem names_halfway :
    c.halfway.2.names = ((c.plan.flatMap fun p => p.first.specs).map Spec.name).reverse := by
  have hall := c.names_first_take c.entries.length
  rwa [← length_plan, List.take_length, length_plan, fresh, List.take_of_length_le (by simp)]
    at hall

/-- In the second pass the model at a place meets the names that all models claimed in the first
pass, and those that the models before it claimed in the second. -/
theorem names_second_take (i : Nat) :
    (passAll passSecond c.halfway.2 (c.halfway.1.take i)).2.names =
      ((c.plan.flatMap (fun p => p.first.specs) ++
        (c.plan.take i).flatMap fun p => p.second.specs).map Spec.name).reverse := by
  rw [names_passAll fun p => p.second.specs, names_halfway, plan, passes_eq,
    take_passAll]
  · simp
  · intro names p hp
    refine names_passSecond ?_
    rw [c.second_of_mem_halfway (List.mem_of_mem_take hp)]

/-- In the end the names of all emitted artifacts are claimed. -/
theorem names_claimed : c.claimed.names.reverse = (Generator.emissionOrder c.plan).map Spec.name := by
  have hall := c.names_second_take c.entries.length
  have hplan : c.plan.take c.entries.length = c.plan := by rw [← length_plan, List.take_length]
  have hhalfway : c.halfway.1.take c.entries.length = c.halfway.1 := by
    rw [← length_halfway, List.take_length]
  rw [hplan, hhalfway] at hall
  exact (congrArg List.reverse hall).trans (List.reverse_reverse _)

/-- No two emitted artifacts have the same name. -/
theorem nodup_emissionOrder : ((Generator.emissionOrder c.plan).map Spec.name).Nodup := by
  rw [← names_claimed, List.nodup_reverse]
  exact c.claimed.nodup

/-- A declared model that could not be resolved emits nothing, and nothing is due for it. -/
theorem fares_of_unresolved {fault : GenerationError} (hresult : e.result = .error fault)
    (names later : NameRegistry) (claimed : List QualifiedName) :
    c.Fares e claimed
      (passSecond later (passFirst names (ofEntry c.graph c.resolver.naming e)).1).1 := by
  have hentry : ofEntry c.graph c.resolver.naming e =
      { title := e.declared.qualifiedName, assembly? := none, error := some fault } := by
    simp only [ofEntry, hresult]
  refine .whole ?_ ?_
  · simp [hentry, passFirst, passSecond, specs, due, assembly?, hresult, Except.toOption]
  · simp [hentry, passFirst, passSecond, fault?, hresult]

/-- What both passes make of a declared model follows the law, if the names that it meets and its own
are the claimed ones. -/
theorem fares_of_passes (e : Entry) (names later : NameRegistry) {claimed : List QualifiedName}
    {p : PlannedModel}
    (hp : p = (passSecond later (passFirst names (ofEntry c.graph c.resolver.naming e)).1).1)
    (hfirst : p.first.error.isSome = true →
      claimed.reverse = (p.first.specs.map Spec.name).reverse ++ names.names)
    (hsecond : p.first.error.isSome = false →
      claimed.reverse = (p.second.specs.map Spec.name).reverse ++ later.names) :
    c.Fares e claimed p := by
  cases hresult : e.result with
  | error fault => exact hp ▸ c.fares_of_unresolved hresult names later claimed
  | ok model =>
    let a : Assembly := ⟨model, c.graph, c.resolver.naming⟩
    have hentry : ofEntry c.graph c.resolver.naming e =
        { title := e.declared.qualifiedName, assembly? := some a, error := none } := by
      simp only [ofEntry, hresult, a]
    have hassembly : c.assembly? e = some a := by simp [assembly?, hresult, Except.toOption, a]
    have hdue : c.due e = a.predicatesDue ++ a.pipelineDue := due_of_assembly hassembly
    have hclaims := Share.claims_first a names
    rcases hclaims.outcome with ⟨hspecs, herror⟩ | ⟨s, rest, hleft, herror, htaken⟩
    · -- The first share is whole, so the second pass decides.
      have hpass : p = ⟨e.declared.qualifiedName, some a, (Share.second a later).1.error,
          (Share.first a names).1, (Share.second a later).1⟩ := by
        rw [hp, hentry]
        simp [passFirst, passSecond, herror]
      subst hpass
      rcases Share.second_cases a later with ⟨hwhole, hown⟩ | ⟨s, rest, hleft, hstopped, htaken⟩
      · refine .whole ?_ (hown.trans (fault?_of_assembly hassembly).symm)
        simp [specs, hdue, hspecs, hwhole]
      · refine .cut s rest ?_ hstopped ?_
        · simp [specs, hdue, hspecs, hleft]
        · rw [← List.mem_reverse, hsecond (by simp [herror]), ← Share.names_second]
          exact htaken
    · -- The first share is cut short, so the second pass leaves the model alone.
      have hpass : p = ⟨e.declared.qualifiedName, some a, (Share.first a names).1.error,
          (Share.first a names).1, {}⟩ := by
        rw [hp, hentry]
        simp [passFirst, passSecond, herror]
      subst hpass
      refine .cut s (rest ++ a.pipelineDue) ?_ herror ?_
      · simp [specs, hdue, hleft]
      · rw [← List.mem_reverse, hfirst (by simp [herror]), ← hclaims.names_eq]
        exact htaken

/-- Every declared model fares by the law, each at its place in the plan. -/
theorem exists_planned (he : c.entries[i]? = some e) :
    ∃ p, c.plan[i]? = some p ∧ p.title = e.declared.qualifiedName ∧
      c.Fares e (claimedUntil c.plan i p) p := by
  let p₀ := ofEntry c.graph c.resolver.naming e
  let names := (passAll passFirst {} (c.fresh.take i)).2
  let later := (passAll passSecond c.halfway.2 (c.halfway.1.take i)).2
  let p := (passSecond later (passFirst names p₀).1).1
  have hfresh : c.fresh[i]? = some p₀ := by simp [fresh, he, p₀]
  have hhalfway : c.halfway.1[i]? = some (passFirst names p₀).1 := by
    rw [halfway, getElem?_passAll, hfresh]
    rfl
  have hplan : c.plan[i]? = some p := by
    rw [plan, passes_eq, getElem?_passAll, hhalfway]
    rfl
  have htitle : p.title = e.declared.qualifiedName := by
    simp only [p, title_passSecond, title_passFirst, p₀, ofEntry]
    split <;> rfl
  refine ⟨p, hplan, htitle, c.fares_of_passes e names later rfl ?_ ?_⟩
  · intro hstopped
    rw [names_first_take]
    simp [claimedUntil, hstopped]
  · intro hsound
    rw [names_second_take]
    simp [claimedUntil, hsound]

/-- Every model of a plan stands at the place of a declared one. -/
theorem exists_entry {p : PlannedModel} (hp : c.plan[i]? = some p) :
    ∃ e, c.entries[i]? = some e ∧ p.title = e.declared.qualifiedName ∧
      c.Fares e (claimedUntil c.plan i p) p := by
  obtain ⟨hi, -⟩ := List.getElem?_eq_some_iff.mp hp
  rw [length_plan] at hi
  obtain ⟨q, hq, hlaw⟩ := c.exists_planned (List.getElem?_eq_getElem hi)
  obtain rfl : p = q := Option.some.inj (hp.symm.trans hq)
  exact ⟨_, List.getElem?_eq_getElem hi, hlaw⟩

end Catalog

end CrudScaffold
