import CrudScaffold.Proofs.Run.Claims

/-!
# Emissions under distinct names

What comes of an artifact depends on the memory only through what is kept under its own name. So in
a run, whose artifacts have distinct names, each artifact fares as if it were the only one: the
memory before the run alone decides whether the run aborts over it, what is reported of it and what is
added.
-/

namespace CrudScaffold

namespace Memory

variable {s t : Memory} {r : Renderer} {x : Spec}

/-- What comes of emitting an artifact on a memory, unless it aborts. -/
def emission? (s : Memory) (r : Renderer) (x : Spec) : Option Emission :=
  ((store.emit r x).run.run s).1

/-- Emitting each one of these artifacts on a memory comes to an end. -/
def Completes (s : Memory) (r : Renderer) (specs : List Spec) : Prop :=
  ∀ x ∈ specs, s.emission? r x ≠ none

/-- What comes of artifacts that are each emitted on a memory. -/
def results (s : Memory) (r : Renderer) (specs : List Spec) : List (Spec × Emission) :=
  specs.filterMap fun x => (s.emission? r x).map (x, ·)

/-- What emitting an artifact adds to a memory. -/
def addition? (s : Memory) (r : Renderer) (x : Spec) : Option (QualifiedName × String) :=
  if s.emission? r x = some .written then (r.source x).toOption.map (x.name, ·) else none

/-- The memory with more written artifacts. -/
def keepAll (s : Memory) (added : List (QualifiedName × String)) : Memory :=
  { s with artifacts := s.artifacts ++ added, writes := s.writes + added.length }

/-- Every text that is kept counts as a write. -/
@[simp] theorem writes_keepAll (s : Memory) (added : List (QualifiedName × String)) :
    (s.keepAll added).writes = s.writes + added.length :=
  rfl

/-- A memory fails as before when texts are kept. -/
@[simp] theorem failing_keepAll (s : Memory) (added : List (QualifiedName × String)) :
    (s.keepAll added).failing = s.failing :=
  rfl

/-- A memory is as blind as before when texts are kept. -/
@[simp] theorem blind_keepAll (s : Memory) (added : List (QualifiedName × String)) :
    (s.keepAll added).blind = s.blind :=
  rfl

/-- A memory that keeps nothing more is as before. -/
@[simp] theorem keepAll_nil (s : Memory) : s.keepAll [] = s := by simp [keepAll]

/-- Texts are kept one after the other. -/
@[simp] theorem keepAll_keepAll (s : Memory) (xs ys : List (QualifiedName × String)) :
    (s.keepAll xs).keepAll ys = s.keepAll (xs ++ ys) := by
  simp [keepAll, Nat.add_assoc]

/-- What is kept under a name, or else is added under it. -/
theorem contents?_keepAll {added : List (QualifiedName × String)} {n : QualifiedName} :
    (s.keepAll added).contents? n = (s.contents? n).or (added.lookup n) := by
  rw [contents?, keepAll, List.lookup_append, contents?]

/-- What was added is kept. -/
theorem exists_contents?_keepAll {added : List (QualifiedName × String)} {n : QualifiedName}
    {text : String} (h : (n, text) ∈ added) : ∃ old, (s.keepAll added).contents? n = some old := by
  refine Option.ne_none_iff_exists'.mp fun hnone => ?_
  rw [contents?_keepAll, Option.or_eq_none_iff, List.lookup_eq_none_iff] at hnone
  simpa using hnone.2 _ h

/-- What comes of an artifact depends on the memory only through what is kept under its name. -/
theorem emission?_congr (hcontents : s.contents? x.name = t.contents? x.name)
    (hblind : s.blind = t.blind) (hfailing : s.failing = t.failing) :
    s.emission? r x = t.emission? r x := by
  have hcontains : s.contains x.name = t.contains x.name := by rw [contains, hcontents, contains]
  have hanswers : s.answers x.name = t.answers x.name := by
    rw [answers, hblind, hcontains, answers]
  have hwrite (text : String) : (s.write x.name text).1 = (t.write x.name text).1 := by
    unfold write
    rw [hfailing, hcontains]
    split
    · rfl
    · split <;> rfl
  unfold emission?
  rw [run_emit, run_emit, hanswers]
  split
  · rfl
  · rcases r.source x with (e | _) | text
    · rfl
    · rfl
    · exact congrArg (fun result => some (Emission.ofWrite x.name result)) (hwrite text)

/-- Artifacts that are added under other names do not matter. -/
theorem emission?_keepAll {added : List (QualifiedName × String)}
    (h : x.name ∉ added.map Prod.fst) : (s.keepAll added).emission? r x = s.emission? r x := by
  refine emission?_congr ?_ rfl rfl
  have hnone : added.lookup x.name = none := by
    rw [List.lookup_eq_none_iff]
    intro a ha
    simp only [bne_iff_ne, ne_eq]
    intro heq
    exact h (heq ▸ List.mem_map_of_mem ha)
  rw [contents?_keepAll, hnone, Option.or_none]

/-- Nor do they for what the artifact adds. -/
theorem addition?_keepAll {added : List (QualifiedName × String)}
    (h : x.name ∉ added.map Prod.fst) : (s.keepAll added).addition? r x = s.addition? r x := by
  rw [addition?, emission?_keepAll h, addition?]

/-- What an artifact adds is kept under its name. -/
theorem fst_of_addition? {added : QualifiedName × String} (h : s.addition? r x = some added) :
    added.1 = x.name := by
  unfold addition? at h
  split at h
  · obtain ⟨text, -, rfl⟩ := Option.map_eq_some_iff.mp h
    rfl
  · cases h

/-- Emitting an artifact adds what it adds to the memory. -/
theorem run_emit_eq_keepAll (s : Memory) (r : Renderer) (x : Spec) :
    (store.emit r x).run.run s = (s.emission? r x, s.keepAll (s.addition? r x).toList) := by
  refine Prod.ext rfl ?_
  rcases hrun : (store.emit r x).run.run s with ⟨_ | e, t⟩
  · obtain ⟨hthere, -⟩ := Store.run_emit_eq_none_iff.mp hrun
    have hadds : s.addition? r x = none := if_neg (by simp [emission?, hrun])
    rw [hadds]
    exact (congrArg Prod.snd hthere).symm.trans s.keepAll_nil.symm
  · have hstep : EmissionStep.Happens r ⟨x, e, s, t⟩ := hrun
    have hemission : s.emission? r x = some e := by simp only [emission?, hrun]
    rcases hstep.cases with ⟨hw, -, text, hsource, hafter⟩ | ⟨hw, hafter⟩
    · have hwritten : e = .written := Emission.outcome_eq_written_iff.mp hw
      have hadds : s.addition? r x = some (x.name, text) := by
        simp only [addition?, hemission, hwritten, ↓reduceIte, hsource, Except.toOption,
          Option.map_some]
      rw [hadds]
      exact hafter
    · have hadds : s.addition? r x = none :=
        if_neg fun h => hw (Emission.outcome_eq_written_iff.mpr (Option.some.inj (hemission ▸ h)))
      rw [hadds]
      exact hafter.trans s.keepAll_nil.symm

/-- What comes of the first artifact stands first. -/
theorem results_cons {e : Emission} (he : s.emission? r x = some e) (rest : List Spec) :
    s.results r (x :: rest) = (x, e) :: s.results r rest :=
  List.filterMap_cons_some (by rw [he, Option.map_some])

/-- What the first artifact adds comes first. -/
theorem filterMap_addition?_cons (s : Memory) (r : Renderer) (x : Spec) (rest : List Spec) :
    (x :: rest).filterMap (s.addition? r) =
      (s.addition? r x).toList ++ rest.filterMap (s.addition? r) := by
  rw [List.filterMap_cons]
  cases s.addition? r x <;> rfl

/-- Artifacts with distinct names are emitted as if each one were the only one: they are all emitted, or
one of them aborts. -/
theorem run_emitAll_cases {specs : List Spec} (hnodup : (specs.map Spec.name).Nodup) (s : Memory) :
    (s.Completes r specs ∧ (store.emitAll r specs).run.run s =
      (some (s.results r specs), s.keepAll (specs.filterMap (s.addition? r)))) ∨
    (¬ s.Completes r specs ∧ ∃ t, (store.emitAll r specs).run.run s = (none, t)) := by
  induction specs generalizing s with
  | nil =>
    refine .inl ⟨fun _ hx => absurd hx List.not_mem_nil, ?_⟩
    rw [List.filterMap_nil, keepAll_nil]
    rfl
  | cons x rest ih =>
    rw [List.map_cons, List.nodup_cons] at hnodup
    have hfirst := s.run_emit_eq_keepAll r x
    cases he : s.emission? r x with
    | none =>
      rw [he] at hfirst
      exact .inr ⟨fun h => h x List.mem_cons_self he, _, run_bind_of_none hfirst⟩
    | some e =>
      rw [he] at hfirst
      -- What the first emission adds has the name of no later one.
      have hother : ∀ y ∈ rest, y.name ∉ (s.addition? r x).toList.map Prod.fst := by
        intro y hy hmem
        obtain ⟨added, hadded, hname⟩ := List.mem_map.mp hmem
        rw [fst_of_addition? (Option.mem_toList.mp hadded)] at hname
        exact hnodup.1 (hname ▸ List.mem_map_of_mem hy)
      have hsame : ∀ y ∈ rest,
          (s.keepAll (s.addition? r x).toList).emission? r y = s.emission? r y :=
        fun y hy => emission?_keepAll (hother y hy)
      have hcompletes : (s.keepAll (s.addition? r x).toList).Completes r rest ↔
          s.Completes r (x :: rest) := by
        unfold Completes
        rw [List.forall_mem_cons, he]
        simp only [ne_eq, reduceCtorEq, not_false_eq_true, true_and]
        exact forall₂_congr fun y hy => by rw [hsame y hy]
      rcases ih hnodup.2 (s.keepAll (s.addition? r x).toList) with ⟨hall, hrest⟩ | ⟨hnone, t, hrest⟩
      · refine .inl ⟨hcompletes.mp hall, ?_⟩
        have hresults : (s.keepAll (s.addition? r x).toList).results r rest = s.results r rest :=
          List.filterMap_congr fun y hy => by rw [hsame y hy]
        have hadditions : rest.filterMap ((s.keepAll (s.addition? r x).toList).addition? r) =
            rest.filterMap (s.addition? r) :=
          List.filterMap_congr fun y hy => addition?_keepAll (hother y hy)
        rw [hresults, hadditions, keepAll_keepAll, ← filterMap_addition?_cons] at hrest
        rw [Store.run_emitAll_cons hfirst hrest, results_cons he]
      · exact .inr ⟨hcompletes.not.mp hnone, t,
          (run_bind_of_some hfirst).trans (run_bind_of_none hrest)⟩

end Memory

namespace PlannedModel

/-- The report on a model that is emitted on a memory. -/
def reportOn (r : Renderer) (s : Memory) (p : PlannedModel) : ModelReport :=
  .ofOutcome p.title p.error ((s.results r p.specs).map fun (x, e) => e.report x)

end PlannedModel

namespace Generator

variable {g : Generator} {plan : List PlannedModel} {s t : Memory}

private theorem eq_results_of_decided {r : Renderer} {l : List (Spec × Emission)} {specs : List Spec}
    (hfst : l.map Prod.fst = specs) (h : ∀ q ∈ l, s.emission? r q.1 = some q.2) :
    l = s.results r specs := by
  subst hfst
  rw [Memory.results, List.filterMap_map]
  have hsame : ∀ q ∈ l, ((fun x => (s.emission? r x).map (x, ·)) ∘ Prod.fst) q = some q := by
    intro q hq
    simp [h q hq]
  rw [List.filterMap_congr hsame, List.filterMap_some]

/-- What came of a plan with distinct names is as if each artifact were the only one. -/
theorem of_run_emitPlan_on_memory (hnodup : ((emissionOrder plan).map Spec.name).Nodup)
    {emissions : List Emissions}
    (h : (g.emitPlan Memory.store plan).run.run s = (some emissions, t)) :
    s.Completes g.renderer (emissionOrder plan) ∧
      reportOf emissions = ⟨plan.map (PlannedModel.reportOn g.renderer s)⟩ ∧
      t = s.keepAll ((emissionOrder plan).filterMap (s.addition? g.renderer)) := by
  have horder := g.run_emissionOrder Memory.store plan s
  simp only [h, Option.map_some] at horder
  rcases Memory.run_emitAll_cases hnodup s with ⟨hall, hrun⟩ | ⟨-, _, hrun⟩
  · obtain ⟨hresults, rfl⟩ := Prod.mk.inj (hrun.symm.trans horder)
    obtain ⟨hplanned, hcomplete⟩ := of_run_emitPlan h
    refine ⟨hall, congrArg RunReport.mk ?_, rfl⟩
    -- Every result is decided by the memory before the run, so each model's are.
    have hdecided : ∀ q ∈ results emissions, s.emission? g.renderer q.1 = some q.2 := by
      intro q hq
      rw [← Option.some.inj hresults, Memory.results] at hq
      obtain ⟨x, -, hx⟩ := List.mem_filterMap.mp hq
      obtain ⟨e, he, rfl⟩ := Option.map_eq_some_iff.mp hx
      exact he
    rw [← hplanned, List.map_map]
    refine List.map_congr_left fun e he => ?_
    have hmem : ∀ q ∈ e.first ++ e.second, q ∈ results emissions := by
      intro q hq
      rw [results, List.mem_append, List.mem_flatMap, List.mem_flatMap]
      exact (List.mem_append.mp hq).imp (fun h => ⟨e, he, h⟩) fun h => ⟨e, he, h⟩
    have hshares : (e.first ++ e.second).map Prod.fst = e.planned.specs := by
      rw [List.map_append, (hcomplete e he).first, (hcomplete e he).second, PlannedModel.specs]
    rw [Emissions.report, Function.comp_apply, PlannedModel.reportOn,
      ← eq_results_of_decided hshares fun q hq => hdecided q (hmem q hq)]
  · cases hrun.symm.trans horder

/-- A first run on a memory reports each model as it fares on the memory before the run, if every artifact
completes; else it aborts. -/
theorem run_on_memory_cases (hidle : g.phase = .idle) {manifest : Manifest}
    (hm : manifest.models ≠ []) (s : Memory) :
    let plan := (g.catalog manifest).plan
    (s.Completes g.renderer (emissionOrder plan) ∧ ∃ log,
      (g.run Memory.store manifest).run.run s =
        (some (.completed ⟨plan.map (PlannedModel.reportOn g.renderer s)⟩, log,
          g.done (g.catalog manifest).claimed),
          s.keepAll ((emissionOrder plan).filterMap (s.addition? g.renderer)))) ∨
    (¬ s.Completes g.renderer (emissionOrder plan) ∧ g.Aborts Memory.store manifest s) := by
  intro plan
  have hnodup := (g.catalog manifest).nodup_emissionOrder
  rcases run_cases hidle hm Memory.store s with habort | ⟨emissions, t, hemitted, hrun⟩
  · refine .inr ⟨?_, habort⟩
    obtain ⟨t, habort, -⟩ := habort
    rcases Memory.run_emitAll_cases hnodup s with ⟨-, hrun⟩ | ⟨hnone, -⟩
    · cases hrun.symm.trans (Store.run_emitAll_eq_none_iff.mpr habort)
    · exact hnone
  · obtain ⟨hall, hreport, rfl⟩ := of_run_emitPlan_on_memory hnodup hemitted
    rw [hreport] at hrun
    exact .inl ⟨hall, _, hrun⟩

/-- Where every artifact completes, so does the run. -/
theorem run_of_completes (hidle : g.phase = .idle) {manifest : Manifest} (hm : manifest.models ≠ [])
    (hall : s.Completes g.renderer (emissionOrder (g.catalog manifest).plan)) :
    ∃ log, (g.run Memory.store manifest).run.run s =
      (some (.completed ⟨(g.catalog manifest).plan.map (PlannedModel.reportOn g.renderer s)⟩, log,
        g.done (g.catalog manifest).claimed),
        s.keepAll ((emissionOrder (g.catalog manifest).plan).filterMap (s.addition? g.renderer))) :=
  (run_on_memory_cases hidle hm s).elim And.right fun h => absurd hall h.1

end Generator

end CrudScaffold
