import CrudScaffold.Proofs.Rendering.Source
import CrudScaffold.Proofs.Run.Stages
import CrudScaffold.Proofs.Store.Memory

/-!
# Emissions on a memory

An emission that comes to an end either writes the rendered artifact under a free name or leaves the
memory as it was. From this single fact follows what a row of emissions does: everything that was there
stays, what is new was written, and every write counts once.
-/

namespace CrudScaffold

/-- A name that is answered for is skipped; else the artifact is rendered and written, or the program
aborts. -/
theorem Memory.run_emit (r : Renderer) (spec : Spec) (s : Memory) :
    (Memory.store.emit r spec).run.run s =
      if s.answers spec.name then (some .skippedExisting, s)
      else
        match r.source spec with
        | .error (.fault e) => (some (.failed e), s)
        | .error .abort => (none, s)
        | .ok text =>
          (some (.ofWrite spec.name (s.write spec.name text).1), (s.write spec.name text).2) :=
  Store.run_emit rfl r

/-- Only a write has the outcome of one. -/
theorem Emission.outcome_eq_written_iff {e : Emission} : e.outcome = .written ↔ e = .written := by
  cases e <;> simp [outcome]

/-- A write that was refused is not reported as written. -/
theorem Emission.outcome_ofWrite_error (n : QualifiedName) (fault : IoFault) :
    (ofWrite n (.error fault)).outcome ≠ .written := by
  cases hf : fault.isAlreadyExists <;> simp [ofWrite, hf, outcome]

/-- One emission with the memory before and after it. -/
structure EmissionStep where
  spec : Spec
  emission : Emission
  before : Memory
  after : Memory

namespace EmissionStep

/-- An artifact and what came of it. -/
def result (x : EmissionStep) : Spec × Emission := (x.spec, x.emission)

/-- What is reported of the emission. -/
def report (x : EmissionStep) : ArtifactReport := x.emission.report x.spec

/-- The artifact is reported as written. -/
def Written (x : EmissionStep) : Prop := x.report.outcome = .written

instance (x : EmissionStep) : Decidable x.Written := inferInstanceAs (Decidable (_ = _))

/-- The emission is what emitting the artifact on the memory gives. -/
def Happens (r : Renderer) (x : EmissionStep) : Prop :=
  (Memory.store.emit r x.spec).run.run x.before = (some x.emission, x.after)

variable {r : Renderer} {x : EmissionStep}

/-- An emission writes the rendered artifact under a free name, or changes nothing. -/
theorem Happens.cases (h : x.Happens r) :
    (x.Written ∧ x.before.contents? x.spec.name = none ∧
      ∃ text, r.source x.spec = .ok text ∧ x.after = x.before.keep x.spec.name text) ∨
    (¬ x.Written ∧ x.after = x.before) := by
  obtain ⟨spec, emission, before, after⟩ := x
  simp only [Happens, Memory.run_emit] at h
  split at h
  · cases h
    exact .inr ⟨nofun, rfl⟩
  · rcases hr : r.source spec with (e | _) | text <;> rw [hr] at h
    · cases h
      exact .inr ⟨nofun, rfl⟩
    · cases h
    · cases h
      rcases before.write_cases spec.name text with ⟨fault, hw⟩ | ⟨hfree, hw⟩
      · rw [hw]
        exact .inr ⟨Emission.outcome_ofWrite_error spec.name fault, rfl⟩
      · rw [hw]
        exact .inl ⟨rfl, hfree, text, rfl, rfl⟩

/-- No emission touches what is there. -/
theorem Happens.contents?_of_before (h : x.Happens r) {n : QualifiedName} {text : String}
    (hn : x.before.contents? n = some text) : x.after.contents? n = some text := by
  rcases h.cases with ⟨-, -, _, -, hafter⟩ | ⟨-, hafter⟩
  · rw [hafter]
    exact Memory.contents?_keep_of_some hn
  · rw [hafter, hn]

/-- An emission fills a free name exactly when it writes the artifact of that name. -/
theorem Happens.fills_iff (h : x.Happens r) {n : QualifiedName}
    (hn : x.before.contents? n = none) :
    x.after.contents? n ≠ none ↔ x.Written ∧ x.spec.name = n := by
  rcases h.cases with ⟨hw, hfree, text, -, hafter⟩ | ⟨hw, hafter⟩
  · rw [hafter]
    by_cases he : n = x.spec.name
    · subst he
      simp [Memory.contents?_keep_self hfree, hw]
    · simp [Memory.contents?_keep_of_ne hn he, Ne.symm he]
  · simp [hafter, hn, hw]

/-- The write count grows by one exactly for a written artifact. -/
theorem Happens.writes_after (h : x.Happens r) :
    x.after.writes = x.before.writes + if x.Written then 1 else 0 := by
  rcases h.cases with ⟨hw, -, _, -, hafter⟩ | ⟨hw, hafter⟩
  · rw [hafter, Memory.writes_keep, if_pos hw]
  · rw [hafter, if_neg hw, Nat.add_zero]

end EmissionStep

/-! ## Emissions in a row -/

/-- Emissions one after the other, each on the memory that the one before it left. -/
inductive Emits (r : Renderer) : Memory → List EmissionStep → Memory → Prop where
  | done (s : Memory) : Emits r s [] s
  | step {x : EmissionStep} {xs : List EmissionStep} {t : Memory} (first : x.Happens r)
    (rest : Emits r x.after xs t) : Emits r x.before (x :: xs) t

namespace Emits

variable {r : Renderer} {s t u : Memory} {xs ys : List EmissionStep} {n : QualifiedName}
  {text : String}

/-- Rows of emissions are put together. -/
theorem append (h : Emits r s xs t) (h' : Emits r t ys u) : Emits r s (xs ++ ys) u := by
  induction h with
  | done => exact h'
  | step first _ ih => exact .step first (ih h')

/-- Every emission of a row is one that happens. -/
theorem happens_of_mem (h : Emits r s xs t) {x : EmissionStep} (hx : x ∈ xs) : x.Happens r := by
  induction h with
  | done => cases hx
  | step first _ ih =>
    rcases List.mem_cons.mp hx with rfl | hx
    · exact first
    · exact ih hx

/-- Everything that was there before stays as it was. -/
theorem contents?_of_before (h : Emits r s xs t) (hn : s.contents? n = some text) :
    t.contents? n = some text := by
  induction h with
  | done => exact hn
  | step first _ ih => exact ih (first.contents?_of_before hn)

/-- What is free in the end was free before. -/
theorem contents?_eq_none_of_after (h : Emits r s xs t) (hn : t.contents? n = none) :
    s.contents? n = none := by
  cases hs : s.contents? n with
  | none => rfl
  | some text =>
    rw [h.contents?_of_before hs] at hn
    cases hn

/-- The names that were free and are no longer so are those of the written artifacts. -/
theorem fills_iff (h : Emits r s xs t) (hn : s.contents? n = none) :
    t.contents? n ≠ none ↔ ∃ x ∈ xs, x.Written ∧ x.spec.name = n := by
  induction h with
  | done => simp [hn]
  | @step x xs t first rest ih =>
    simp only [List.mem_cons, exists_eq_or_imp]
    by_cases hfill : x.after.contents? n = none
    · rw [ih hfill, ← first.fills_iff hn]
      simp [hfill]
    · -- What the first emission fills stays filled.
      have hx := (first.fills_iff hn).mp hfill
      have ht : t.contents? n ≠ none := fun ht => hfill (rest.contents?_eq_none_of_after ht)
      simp [ht, hx]

/-- A written artifact had a free name, and is kept as it was rendered. -/
theorem contents?_of_written (h : Emits r s xs t) {x : EmissionStep} (hx : x ∈ xs)
    (hw : x.Written) :
    s.contents? x.spec.name = none ∧
      ∃ text, r.source x.spec = .ok text ∧ t.contents? x.spec.name = some text := by
  induction h with
  | done => cases hx
  | @step y ys t first rest ih =>
    rcases List.mem_cons.mp hx with rfl | hx
    · rcases first.cases with ⟨-, hfree, text, hr, hafter⟩ | ⟨hn, -⟩
      · have hkept : x.after.contents? x.spec.name = some text := by
          rw [hafter]
          exact Memory.contents?_keep_self hfree
        exact ⟨hfree, text, hr, rest.contents?_of_before hkept⟩
      · exact absurd hw hn
    · obtain ⟨hfree, hkept⟩ := ih hx
      exact ⟨(Emits.step first (.done _)).contents?_eq_none_of_after hfree, hkept⟩

/-- The write count grows by the number of written artifacts. -/
theorem writes_eq (h : Emits r s xs t) : t.writes = s.writes + xs.countP fun x => x.Written := by
  induction h with
  | done => simp
  | step first _ ih =>
    rw [ih, first.writes_after, List.countP_cons]
    simp only [decide_eq_true_eq]
    omega

end Emits

/-- Emitting the artifacts one after the other leads from one memory to another, with these
results. -/
def EmitsAll (r : Renderer) (specs : List Spec) (s : Memory) (results : List (Spec × Emission))
    (t : Memory) : Prop :=
  ∃ xs, Emits r s xs t ∧ xs.map EmissionStep.spec = specs ∧ xs.map EmissionStep.result = results

/-- Without artifacts nothing happens. -/
theorem EmitsAll.nil (r : Renderer) (s : Memory) : EmitsAll r [] s [] s :=
  ⟨[], .done s, rfl, rfl⟩

/-- First some artifacts and then others are emitted in this order. -/
theorem EmitsAll.append {r : Renderer} {s t u : Memory} {specs specs' : List Spec}
    {results results' : List (Spec × Emission)} (h : EmitsAll r specs s results t)
    (h' : EmitsAll r specs' t results' u) :
    EmitsAll r (specs ++ specs') s (results ++ results') u := by
  obtain ⟨xs, hxs, rfl, rfl⟩ := h
  obtain ⟨ys, hys, rfl, rfl⟩ := h'
  exact ⟨xs ++ ys, hxs.append hys, List.map_append, List.map_append⟩

/-- A store in memory emits artifacts one after the other. -/
theorem Memory.emitsAll_emitAll {r : Renderer} {specs : List Spec} {s t : Memory}
    {results : List (Spec × Emission)}
    (h : (Memory.store.emitAll r specs).run.run s = (some results, t)) :
    EmitsAll r specs s results t := by
  induction specs generalizing s results with
  | nil =>
    obtain ⟨rfl, rfl⟩ := run_pure_eq_some_iff.mp h
    exact .nil r s
  | cons spec specs ih =>
    obtain ⟨e, rest, u, hemit, hrest, rfl⟩ := Store.of_run_emitAll_cons h
    have hx : EmissionStep.Happens r ⟨spec, e, s, u⟩ := hemit
    have hfirst : EmitsAll r [spec] s [(spec, e)] u := ⟨[_], .step hx (.done _), rfl, rfl⟩
    exact hfirst.append (ih hrest)

end CrudScaffold
