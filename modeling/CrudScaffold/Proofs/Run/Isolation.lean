import CrudScaffold.Proofs.Run.Independence
import CrudScaffold.Proofs.Model.Catalog
import Mathlib.Data.List.Forall2

/-!
# Models that cannot be resolved

A model that cannot be resolved is isolated: other models see the path under which it is declared, and
nothing else of it. Two runs whose manifests differ only in such models go side by side. They file
the same names, resolve the other models alike, put the same models into the graph, and claim the
same names. So they report the same of all other models, and leave the same behind.
-/

namespace CrudScaffold

private theorem map_eq_of_forall₂ {α β : Type} {R : α → α → Prop} {f : α → β} {l l' : List α}
    (h : List.Forall₂ R l l') (hf : ∀ a b, R a b → f a = f b) : l.map f = l'.map f := by
  rw [← List.forall₂_eq_eq_eq, List.forall₂_map_left_iff, List.forall₂_map_right_iff]
  exact h.imp hf

/-! ## Side by side -/

/-- A declared model cannot be resolved. -/
def Resolver.Refuses (r : Resolver) (m : Manifest.Model) : Prop :=
  ∃ fault, r.resolve m = .error fault

/-- Two declarations are the same, or each is refused on its side and both have one name and one
namespace. -/
inductive Resolver.Interchangeable (r r' : Resolver) : Manifest.Model → Manifest.Model → Prop where
  | same (m : Manifest.Model) : Interchangeable r r' m m
  | refused {m m' : Manifest.Model} (name : m'.name = m.name) (space : m'.space = m.space)
    (first : r.Refuses m) (second : r'.Refuses m') : Interchangeable r r' m m'

/-- Interchangeable declarations have one path. -/
theorem Resolver.Interchangeable.qualifiedName_eq {r r' : Resolver} {m m' : Manifest.Model}
    (h : r.Interchangeable r' m m') : m.qualifiedName = m'.qualifiedName := by
  cases h with
  | same => rfl
  | refused hname hspace _ _ =>
    unfold Manifest.Model.qualifiedName
    rw [hname, hspace]

/-- Two entries are the same, or both models could not be resolved. -/
inductive Catalog.Entry.Alike : Catalog.Entry → Catalog.Entry → Prop where
  | same (e : Catalog.Entry) : Alike e e
  | unresolved {e e' : Catalog.Entry} {fault fault' : GenerationError}
    (first : e.result = .error fault) (second : e'.result = .error fault') : Alike e e'

/-- A model that was not resolved has no share in a run. -/
structure PlannedModel.Stopped (p : PlannedModel) : Prop where
  assembly? : p.assembly? = none
  first : p.first = {}
  second : p.second = {}

/-- Two models are the same, or none of them was resolved. -/
inductive PlannedModel.Alike : PlannedModel → PlannedModel → Prop where
  | same (p : PlannedModel) : Alike p p
  | stopped {p q : PlannedModel} (first : p.Stopped) (second : q.Stopped) : Alike p q

/-! ## Passes -/

namespace PlannedModel

variable {pass : NameRegistry → PlannedModel → PlannedModel × NameRegistry}
  {p q : PlannedModel} {ps qs : List PlannedModel}

/-- The first pass has nothing to do with a model that was not resolved. -/
theorem Stopped.passFirst_eq (h : p.Stopped) (names : NameRegistry) :
    passFirst names p = (p, names) := by
  simp only [passFirst, h.assembly?]

/-- The second pass has nothing to do with a model that was not resolved. -/
theorem Stopped.passSecond_eq (h : p.Stopped) (names : NameRegistry) :
    passSecond names p = (p, names) := by
  simp only [passSecond, h.assembly?]

/-- Models that are alike have the same first share. -/
theorem Alike.first_eq (h : p.Alike q) : p.first = q.first := by
  cases h with
  | same => rfl
  | stopped hp hq => rw [hp.first, hq.first]

/-- Models that are alike have the same second share. -/
theorem Alike.second_eq (h : p.Alike q) : p.second = q.second := by
  cases h with
  | same => rfl
  | stopped hp hq => rw [hp.second, hq.second]

section

variable (hpass : ∀ {p : PlannedModel}, p.Stopped → ∀ names, pass names p = (p, names))
include hpass

/-- One step of a pass keeps models alike, and claims the same names for both. -/
theorem Alike.step (h : p.Alike q) (names : NameRegistry) :
    (pass names p).1.Alike (pass names q).1 ∧ (pass names p).2 = (pass names q).2 := by
  cases h with
  | same => exact ⟨.same _, rfl⟩
  | stopped hp hq =>
    rw [hpass hp, hpass hq]
    exact ⟨.stopped hp hq, rfl⟩

/-- A whole pass keeps models alike, and claims the same names. -/
theorem forall₂_passAll (h : List.Forall₂ Alike ps qs) (names : NameRegistry) :
    List.Forall₂ Alike (passAll pass names ps).1 (passAll pass names qs).1 ∧
      (passAll pass names ps).2 = (passAll pass names qs).2 := by
  induction h generalizing names with
  | nil => exact ⟨.nil, rfl⟩
  | @cons p q ps qs hpq _ ih =>
    obtain ⟨hstep, hnames⟩ := hpq.step hpass names
    obtain ⟨hrest, hlast⟩ := ih (pass names q).2
    simp only [passAll, hnames]
    exact ⟨.cons hstep hrest, hlast⟩

/-- A model that is the same in both rows fares the same in both. -/
theorem getElem?_passAll_congr (h : List.Forall₂ Alike ps qs) (names : NameRegistry) {i : Nat}
    (hi : ps[i]? = qs[i]?) :
    (passAll pass names ps).1[i]? = (passAll pass names qs).1[i]? := by
  have hbefore := (forall₂_passAll hpass (List.forall₂_take i h) names).2
  rw [getElem?_passAll, getElem?_passAll, hbefore, hi]

end

end PlannedModel

/-! ## Plans -/

namespace Catalog

open PlannedModel

variable {c c' : Catalog}

/-- Entries that are alike lead to models that are alike. -/
theorem Entry.Alike.ofEntry {e e' : Entry} (h : e.Alike e') (graph : ModelGraph)
    (naming : Naming) : (ofEntry graph naming e).Alike (ofEntry graph naming e') := by
  cases h with
  | same => exact .same _
  | unresolved he he' =>
    refine .stopped ?_ ?_
    · simp only [PlannedModel.ofEntry, he]
      exact ⟨rfl, rfl, rfl⟩
    · simp only [PlannedModel.ofEntry, he']
      exact ⟨rfl, rfl, rfl⟩

/-- A model that could not be resolved gives no models. -/
theorem models_eq_of_alike (h : List.Forall₂ Entry.Alike c.entries c'.entries) :
    c.models = c'.models := by
  have hresults : c.entries.map (fun e => e.result.toOption) =
      c'.entries.map fun e => e.result.toOption := by
    refine map_eq_of_forall₂ h fun e e' he => ?_
    cases he with
    | same => rfl
    | unresolved hfirst hsecond => rw [hfirst, hsecond]; rfl
  have hmodels (c : Catalog) :
      c.models = (c.entries.map fun e => e.result.toOption).filterMap id := by
    rw [List.filterMap_map]
    rfl
  rw [hmodels, hmodels, hresults]

/-- Entries that are alike lead to one graph. -/
theorem graph_eq_of_alike (h : List.Forall₂ Entry.Alike c.entries c'.entries) :
    c.graph = c'.graph := by
  unfold graph
  rw [models_eq_of_alike h]

section

variable (hresolver : c.resolver = c'.resolver)
  (hentries : List.Forall₂ Entry.Alike c.entries c'.entries)
include hresolver hentries

/-- Before both passes the models are alike. -/
theorem forall₂_fresh : List.Forall₂ PlannedModel.Alike c.fresh c'.fresh := by
  unfold fresh
  rw [graph_eq_of_alike hentries, hresolver, List.forall₂_map_left_iff, List.forall₂_map_right_iff]
  exact hentries.imp fun e e' h => h.ofEntry _ _

/-- Between both passes the models are alike, and the same names are claimed. -/
theorem forall₂_halfway :
    List.Forall₂ PlannedModel.Alike c.halfway.1 c'.halfway.1 ∧ c.halfway.2 = c'.halfway.2 :=
  forall₂_passAll Stopped.passFirst_eq (forall₂_fresh hresolver hentries) {}

/-- After both passes the models are alike, and the same names are claimed. -/
theorem forall₂_plan :
    List.Forall₂ PlannedModel.Alike c.plan c'.plan ∧ c.claimed = c'.claimed := by
  obtain ⟨hhalfway, hnames⟩ := forall₂_halfway hresolver hentries
  unfold plan claimed
  rw [passes_eq, passes_eq, hnames]
  exact forall₂_passAll Stopped.passSecond_eq hhalfway c'.halfway.2

/-- The same artifacts are emitted in the same order. -/
theorem emissionOrder_eq_of_alike :
    Generator.emissionOrder c.plan = Generator.emissionOrder c'.plan := by
  have hplan := (forall₂_plan hresolver hentries).1
  have hfirst : c.plan.map (fun p => p.first.specs) = c'.plan.map fun p => p.first.specs :=
    map_eq_of_forall₂ hplan fun p q h => by rw [h.first_eq]
  have hsecond : c.plan.map (fun p => p.second.specs) = c'.plan.map fun p => p.second.specs :=
    map_eq_of_forall₂ hplan fun p q h => by rw [h.second_eq]
  simp only [Generator.emissionOrder, List.flatMap_def, hfirst, hsecond]

/-- A model that is declared on both sides has the same place in both plans. -/
theorem getElem?_plan_congr {i : Nat} (hi : c.entries[i]? = c'.entries[i]?) :
    c.plan[i]? = c'.plan[i]? := by
  have hfresh : c.fresh[i]? = c'.fresh[i]? := by
    unfold fresh
    rw [List.getElem?_map, List.getElem?_map, hi, graph_eq_of_alike hentries, hresolver]
  have hfirst : c.halfway.1[i]? = c'.halfway.1[i]? :=
    getElem?_passAll_congr Stopped.passFirst_eq (forall₂_fresh hresolver hentries) {} hfresh
  obtain ⟨hhalfway, hnames⟩ := forall₂_halfway hresolver hentries
  unfold plan
  rw [passes_eq, passes_eq, hnames]
  exact getElem?_passAll_congr Stopped.passSecond_eq hhalfway c'.halfway.2 hfirst

end

/-- A model that could not be resolved is reported as failed, without artifacts. -/
theorem reportOn_of_unresolved {e : Entry} {fault : GenerationError} {i : Nat}
    (he : c.entries[i]? = some e) (hfault : e.result = .error fault) (r : Renderer) (s : Memory) :
    ∃ p, c.plan[i]? = some p ∧ (p.reportOn r s).model = e.declared.qualifiedName ∧
      (p.reportOn r s).status = .failed ∧ (p.reportOn r s).artifacts = [] := by
  obtain ⟨p, hp, htitle, hfares⟩ := c.exists_planned he
  have hdue : c.due e = [] := by
    simp [due, assembly?, hfault, Except.toOption]
  have hspecs : p.specs = [] := List.prefix_nil.mp (hdue ▸ hfares.specs_prefix)
  have herror : p.error = some fault := by
    cases hfares with
    | whole _ herror =>
      rw [herror]
      simp only [fault?, hfault]
    | cut x rest hcut _ _ =>
      rw [hdue, hspecs] at hcut
      cases hcut
  refine ⟨p, hp, ?_, ?_, ?_⟩
  · simp only [PlannedModel.reportOn, herror, ModelReport.ofOutcome, htitle]
  · simp only [PlannedModel.reportOn, herror, ModelReport.ofOutcome]
  · rw [PlannedModel.reportOn, ModelReport.artifacts_ofOutcome, hspecs]
    rfl

end Catalog

/-! ## Runs -/

namespace Generator

variable {g : Generator} {manifest manifest' : Manifest}

/-- The reports on the models; a run that did not take place has none. -/
def Result.reports (result : Result) : List ModelReport :=
  (result.report?.map RunReport.models).getD []

/-- Two manifests differ only in models that are refused on both sides. -/
structure SideBySide (g : Generator) (manifest manifest' : Manifest) : Prop where
  generator : manifest'.generator = manifest.generator
  dtos : manifest'.dtos = manifest.dtos
  models : List.Forall₂
    ((g.catalog manifest).resolver.Interchangeable (g.catalog manifest').resolver)
    manifest.models manifest'.models

/-- The entry of a declared model has its place. -/
theorem getElem?_entries {i : Nat} {m : Manifest.Model} (hm : manifest.models[i]? = some m) :
    (g.catalog manifest).entries[i]? = some ((g.catalog manifest).entry m) := by
  have hentries : (g.catalog manifest).entries =
      manifest.models.map (g.catalog manifest).entry := Catalog.entries_ofManifest
  rw [hentries, List.getElem?_map, hm, Option.map_some]

namespace SideBySide

variable (h : g.SideBySide manifest manifest')
include h

/-- Both manifests are resolved against the same types. -/
theorem resolver_eq : (g.catalog manifest).resolver = (g.catalog manifest').resolver := by
  have hpaths : manifest.models.map Manifest.Model.qualifiedName =
      manifest'.models.map Manifest.Model.qualifiedName :=
    map_eq_of_forall₂ h.models fun m m' hm => hm.qualifiedName_eq
  simp only [catalog, Catalog.ofManifest, h.generator, h.dtos,
    TypeIndex.ofManifest_congr h.dtos hpaths.symm]

/-- Both catalogs have entries that are alike. -/
theorem forall₂_entries :
    List.Forall₂ Catalog.Entry.Alike (g.catalog manifest).entries
      (g.catalog manifest').entries := by
  have hentries (m : Manifest) : (g.catalog m).entries =
      m.models.map (g.catalog m).entry := Catalog.entries_ofManifest
  have hentry (m : Manifest.Model) : (g.catalog manifest).entry m =
      (g.catalog manifest').entry m := by
    unfold Catalog.entry
    rw [h.resolver_eq]
  rw [hentries, hentries, List.forall₂_map_left_iff, List.forall₂_map_right_iff]
  refine h.models.imp fun m m' hm => ?_
  cases hm with
  | same =>
    rw [hentry]
    exact .same _
  | refused _ _ hfirst hsecond =>
    obtain ⟨fault, hfault⟩ := hfirst
    obtain ⟨fault', hfault'⟩ := hsecond
    exact .unresolved (mapError_eq_error_iff.mpr ⟨fault, hfault, rfl⟩)
      (mapError_eq_error_iff.mpr ⟨fault', hfault', rfl⟩)

/-- The same is planned for a model that stands in both manifests. -/
theorem getElem?_plan_eq {i : Nat} {m : Manifest.Model} (hm : manifest.models[i]? = some m)
    (hm' : manifest'.models[i]? = some m) :
    (g.catalog manifest).plan[i]? = (g.catalog manifest').plan[i]? := by
  refine Catalog.getElem?_plan_congr h.resolver_eq h.forall₂_entries ?_
  rw [getElem?_entries hm, getElem?_entries hm', Catalog.entry, Catalog.entry, h.resolver_eq]

/-- Both runs emit the same artifacts in the same order. -/
theorem emissionOrder_eq :
    emissionOrder (g.catalog manifest).plan = emissionOrder (g.catalog manifest').plan :=
  Catalog.emissionOrder_eq_of_alike h.resolver_eq h.forall₂_entries

/-- Two runs that abort leave the memory alike, since they abort over the same row of artifacts. -/
theorem snd_eq_of_aborts {s : Memory} (habort : g.Aborts Memory.store manifest s)
    (habort' : g.Aborts Memory.store manifest' s) :
    ((g.run Memory.store manifest).run.run s).2 = ((g.run Memory.store manifest').run.run s).2 := by
  obtain ⟨t, hstops, hrun⟩ := habort
  obtain ⟨t', hstops', hrun'⟩ := habort'
  rw [← h.emissionOrder_eq] at hstops'
  have hsame := (Store.run_emitAll_eq_none_iff.mpr hstops).symm.trans
    (Store.run_emitAll_eq_none_iff.mpr hstops')
  rw [hrun, hrun']
  exact (Prod.mk.inj hsame).2

end SideBySide

/-- A first run on a memory aborts, unless every artifact completes. Then it reports on each model, claims
the names of the plan, and leaves behind what is added. -/
theorem reports_of_run (hidle : g.phase = .idle) (manifest : Manifest) (s : Memory) :
    let c := g.catalog manifest
    (s.Completes g.renderer (emissionOrder c.plan) ∧ ∃ result log,
      (g.run Memory.store manifest).run.run s = (some (result, log, g.done c.claimed),
        s.keepAll ((emissionOrder c.plan).filterMap (s.addition? g.renderer))) ∧
      result.reports = c.plan.map (PlannedModel.reportOn g.renderer s)) ∨
    (¬ s.Completes g.renderer (emissionOrder c.plan) ∧ g.Aborts Memory.store manifest s) := by
  intro c
  by_cases hm : manifest.models = []
  · have hpasses : c.passes = ([], {}) := by
      simp only [c, catalog, Catalog.ofManifest, Catalog.passes, hm, List.map_nil,
        PlannedModel.passAll]
    have hplan : c.plan = [] := congrArg Prod.fst hpasses
    have hclaimed : c.claimed = {} := congrArg Prod.snd hpasses
    rw [hplan, hclaimed, run_on_nothing hidle hm s, names_eq_of_idle hidle]
    have hmemory : s.keepAll ((emissionOrder []).filterMap (s.addition? g.renderer)) = s :=
      s.keepAll_nil
    rw [hmemory]
    exact .inl ⟨fun _ hx => absurd hx List.not_mem_nil, _, _, rfl, rfl⟩
  · rcases run_on_memory_cases hidle hm s with ⟨hall, log, hrun⟩ | habort
    · exact .inl ⟨hall, _, log, hrun, rfl⟩
    · exact .inr habort

/-- A model that is refused is reported as failed, without artifacts. -/
theorem report_of_refuses {i : Nat} {m : Manifest.Model} (hm : manifest.models[i]? = some m)
    (hrefuses : (g.catalog manifest).resolver.Refuses m) {p : PlannedModel}
    (hp : (g.catalog manifest).plan[i]? = some p) (s : Memory) :
    (p.reportOn g.renderer s).model = m.qualifiedName ∧
      (p.reportOn g.renderer s).status = .failed ∧
      (p.reportOn g.renderer s).artifacts = [] := by
  obtain ⟨fault, hfault⟩ := hrefuses
  have hresult : ((g.catalog manifest).entry m).result = .error (.unresolvable m fault) :=
    mapError_eq_error_iff.mpr ⟨fault, hfault, rfl⟩
  obtain ⟨q, hq, hreport⟩ :=
    Catalog.reportOn_of_unresolved (getElem?_entries hm) hresult g.renderer s
  obtain rfl : p = q := Option.some.inj (hp.symm.trans hq)
  exact hreport

/-- Models that cannot be resolved leave no trace on others. If two manifests differ only in such
models, two first runs on one memory end with the same memory: both abort, or they claim the same names
and report the same of every model that stands in both manifests. A model that is refused is reported as
failed, without artifacts. -/
theorem refused_models_leave_no_trace (hidle : g.phase = .idle)
    (h : g.SideBySide manifest manifest') (s : Memory) :
    let out := (g.run Memory.store manifest).run.run s
    let out' := (g.run Memory.store manifest').run.run s
    out.2 = out'.2 ∧
    ((g.Aborts Memory.store manifest s ∧ g.Aborts Memory.store manifest' s) ∨
      ∃ result log result' log' after,
        out.1 = some (result, log, after) ∧ out'.1 = some (result', log', after) ∧
        result.reports.length = manifest.models.length ∧
        result'.reports.length = manifest'.models.length ∧
        ∀ (i : Nat) (m m' : Manifest.Model),
          manifest.models[i]? = some m → manifest'.models[i]? = some m' →
          ∃ r r', result.reports[i]? = some r ∧ result'.reports[i]? = some r' ∧
            (m = m' → r = r') ∧
            ((g.catalog manifest).resolver.Refuses m →
              r.model = m.qualifiedName ∧ r.status = .failed ∧ r.artifacts = []) ∧
            ((g.catalog manifest').resolver.Refuses m' →
              r'.model = m'.qualifiedName ∧ r'.status = .failed ∧ r'.artifacts = [])) := by
  intro out out'
  obtain ⟨-, hclaimed⟩ := Catalog.forall₂_plan h.resolver_eq h.forall₂_entries
  have hlength (manifest : Manifest) :
      (g.catalog manifest).plan.length = manifest.models.length := by
    rw [Catalog.length_plan, catalog, Catalog.entries_ofManifest, List.length_map]
  rcases reports_of_run hidle manifest s with ⟨hall, result, log, hrun, hreports⟩ | ⟨hnone, habort⟩ <;>
    rcases reports_of_run hidle manifest' s with
      ⟨hall', result', log', hrun', hreports'⟩ | ⟨hnone', habort'⟩
  · have hout : out = _ := hrun
    have hout' : out' = _ := hrun'
    rw [hout, hout', ← h.emissionOrder_eq, ← hclaimed]
    refine ⟨rfl, .inr ⟨result, log, result', log', _, rfl, rfl, ?_, ?_, ?_⟩⟩
    · rw [hreports, List.length_map, hlength]
    · rw [hreports', List.length_map, hlength]
    · intro i m m' hm hm'
      obtain ⟨p, hp, -⟩ := (g.catalog manifest).exists_planned (getElem?_entries hm)
      obtain ⟨p', hp', -⟩ := (g.catalog manifest').exists_planned (getElem?_entries hm')
      refine ⟨p.reportOn g.renderer s, p'.reportOn g.renderer s, ?_, ?_, ?_, ?_, ?_⟩
      · rw [hreports, List.getElem?_map, hp, Option.map_some]
      · rw [hreports', List.getElem?_map, hp', Option.map_some]
      · rintro rfl
        have hplan := h.getElem?_plan_eq hm hm'
        rw [hp, hp'] at hplan
        rw [Option.some.inj hplan]
      · intro hrefuses
        exact report_of_refuses hm hrefuses hp s
      · intro hrefuses
        exact report_of_refuses hm' hrefuses hp' s
  · rw [← h.emissionOrder_eq] at hnone'
    exact absurd hall hnone'
  · rw [h.emissionOrder_eq] at hnone
    exact absurd hall' hnone
  · exact ⟨h.snd_eq_of_aborts habort habort', .inl ⟨habort, habort'⟩⟩

/-! ### Orders of a customer that cannot be resolved -/

private def isolationConfig : Config := { outputRoot := ⟨"out"⟩ }

private def dependentOrder : Manifest.Model where
  name := "Order"
  space := "shop::model"
  scrudBean := false
  identifier := some { type := some "u64" }
  fields := [{ name := "customer", type := "Customer", cardinality := some .manyToOne }]

private def namelessCustomer : Manifest.Model where
  name := "Customer"
  space := "shop::model"

private def unclearCustomer : Manifest.Model where
  name := "Customer"
  space := "shop::model"
  audited := true
  identifier := some { type := some "u64", composite := some [] }
  fields := [{ name := "order", type := "Order", cardinality := some .oneToOne }]

private def namelessShop : Manifest := { models := [dependentOrder, namelessCustomer] }

private def unclearShop : Manifest := { models := [dependentOrder, unclearCustomer] }

/-- Orders lead to a customer that is refused for one reason or another: in both runs their predicates
are written, and only the customer fails. -/
theorem orders_do_without_customer :
    ∃ g, ofConfig isolationConfig = .ok g ∧ g.SideBySide namelessShop unclearShop ∧
      ∃ report log report' log' after t,
        (g.run Memory.store namelessShop).run.run {} = (some (.completed report, log, after), t) ∧
        (g.run Memory.store unclearShop).run.run {} = (some (.completed report', log', after), t) ∧
        report.models.map ModelReport.status = [.generated, .failed] ∧
        report'.models.map ModelReport.status = [.generated, .failed] ∧
        report.models ≠ report'.models ∧ report.models[0]? = report'.models[0]? := by
  have htold : (ofConfig isolationConfig).toOption.bind (fun g =>
      (g.report? Memory.store namelessShop {}).map (·.models.map fun m => (m.status, m.reason))) =
        some [(.generated, none), (.failed, some ("Unresolvable model 'shop::model::Customer': " ++
          "Model 'Customer' declares no identifier"))] := by
    decide +kernel
  have htold' : (ofConfig isolationConfig).toOption.bind (fun g =>
      (g.report? Memory.store unclearShop {}).map (·.models.map fun m => (m.status, m.reason))) =
        some [(.generated, none), (.failed, some ("Unresolvable model 'shop::model::Customer': " ++
          "Model 'Customer' declares both a scalar and a composite identifier"))] := by
    decide +kernel
  have hresolved : (ofConfig isolationConfig).toOption.map (fun g =>
      (((g.catalog namelessShop).resolver.resolve namelessCustomer).toOption.isSome,
        ((g.catalog unclearShop).resolver.resolve unclearCustomer).toOption.isSome)) =
      some (false, false) := by
    decide +kernel
  obtain ⟨g, report, log, after, t, hg, hrun, hsays⟩ := exists_completed htold
  obtain ⟨g', report', log', after', t', hg', hrun', hsays'⟩ := exists_completed htold'
  obtain rfl : g = g' := Except.ok.inj (hg.symm.trans hg')
  rw [hg, Except.toOption, Option.map_some, Option.some.injEq] at hresolved
  obtain ⟨hfirst, hsecond⟩ := Prod.mk.inj hresolved
  have hstatus := congrArg (List.map Prod.fst) hsays
  have hstatus' := congrArg (List.map Prod.fst) hsays'
  rw [List.map_map] at hstatus hstatus'
  -- The reasons tell the two refusals apart.
  have hdiffer : report.models ≠ report'.models := by
    intro hsame
    rw [hsame, hsays'] at hsays
    exact absurd hsays (by decide)
  have hrefuses {r : Resolver} {m : Manifest.Model}
      (h : (r.resolve m).toOption.isSome = false) : r.Refuses m := by
    cases hresolve : r.resolve m with
    | ok model => simp [hresolve, Except.toOption] at h
    | error fault => exact ⟨fault, hresolve⟩
  have hside : g.SideBySide namelessShop unclearShop :=
    ⟨rfl, rfl, .cons (.same _) (.cons (.refused rfl rfl (hrefuses hfirst) (hrefuses hsecond)) .nil)⟩
  obtain ⟨hmemory, ⟨⟨_, -, habort⟩, -⟩ | ⟨_, _, _, _, _, hout, hout', -, -, hall⟩⟩ :=
    refused_models_leave_no_trace (phase_of_ofConfig g hg) hside {}
  · cases hrun.symm.trans habort
  · rw [hrun] at hmemory hout
    rw [hrun'] at hmemory hout'
    cases hout
    cases hout'
    cases hmemory
    obtain ⟨r, r', hr, hr', hsame, -⟩ := hall 0 dependentOrder dependentOrder rfl rfl
    refine ⟨g, hg, hside, report, log, report', log', after, t, hrun, hrun', hstatus, hstatus',
      hdiffer, ?_⟩
    exact hr.trans ((congrArg some (hsame rfl)).trans hr'.symm)

end Generator

end CrudScaffold
