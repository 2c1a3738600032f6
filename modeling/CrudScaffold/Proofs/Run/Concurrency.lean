import CrudScaffold.Proofs.Run.Emission
import Mathlib.Data.List.Induction

/-!
# Emitters that share a memory

Several emitters work through their artifacts on one memory. An emission takes up to three turns: the
memory is asked, the artifact is rendered, the text is written. Between two turns of one emitter the
others take theirs, in any order, so a name that was free when it was asked for may be taken when it
is written. What a turn does to the memory is settled when it is reported; from the settled reports,
in the order in which they came, follows what the memory holds. An emitter that comes upon an artifact
that cannot be printed aborts there: it reports nothing more and lets the others go on.
-/

namespace CrudScaffold

/-- How far the emission of the first of the artifacts that are due has come. -/
inductive Stage (r : Renderer) (due : List Spec) where
  /-- The memory is to be asked. -/
  | asking
  /-- The memory held nothing; the artifact is to be rendered. -/
  | rendering
  /-- The rendered text is to be written. -/
  | writing (text : String) (rendered : due.head?.map r.source = some (.ok text))
  /-- The artifact cannot be printed, and nothing more is going to happen. -/
  | aborted (unprintable : due.head?.map r.source = some (.error .abort))

/-- No more turns than this are needed for all that is due. -/
def Stage.turnsLeft {r : Renderer} {due : List Spec} : Stage r due → Nat
  | asking => 3 * due.length
  | rendering => 3 * due.length - 1
  | writing _ _ => 3 * due.length - 2
  | aborted _ => 0

/-- An emitter on its way through its artifacts. -/
structure Emitter where
  renderer : Renderer
  /-- The artifacts that it has not reported on. -/
  due : List Spec
  stage : Stage renderer due := .asking
  /-- What came of the other artifacts. -/
  reports : List (Spec × Emission) := []

/-- What an emitter reports of an artifact. -/
structure EmitterReport where
  renderer : Renderer
  spec : Spec
  emission : Emission

/-- The report says that an artifact of this name was written. -/
def EmitterReport.wrote (n : QualifiedName) (f : EmitterReport) : Bool :=
  f.emission = .written ∧ f.spec.name = n

namespace Emitter

variable (e : Emitter)

/-- One turn: the memory is asked, or the artifact is rendered, or its text is written. -/
def turn (memory : Memory) : Emitter × Memory :=
  match e with
  | ⟨_, [], _, _⟩ => (e, memory)
  | ⟨r, s :: rest, .asking, reports⟩ =>
    if memory.answers s.name then (⟨r, rest, .asking, reports ++ [(s, .skippedExisting)]⟩, memory)
    else (⟨r, s :: rest, .rendering, reports⟩, memory)
  | ⟨r, s :: rest, .rendering, reports⟩ =>
    match h : r.source s with
    | .error (.fault fault) => (⟨r, rest, .asking, reports ++ [(s, .failed fault)]⟩, memory)
    | .error .abort => (⟨r, s :: rest, .aborted (congrArg some h), reports⟩, memory)
    | .ok text => (⟨r, s :: rest, .writing text (congrArg some h), reports⟩, memory)
  | ⟨r, s :: rest, .writing text _, reports⟩ =>
    let (result, memory) := memory.write s.name text
    (⟨r, rest, .asking, reports ++ [(s, .ofWrite s.name result)]⟩, memory)
  | ⟨_, _ :: _, .aborted _, _⟩ => (e, memory)

/-- What it works with and works through. -/
def job : Renderer × List Spec := (e.renderer, e.reports.map Prod.fst ++ e.due)

/-- Its reports so far. -/
def told : List EmitterReport := e.reports.map fun (s, x) => ⟨e.renderer, s, x⟩

/-- The emitter needs no more turns than this to come to its end. -/
def turnsLeft : Nat := e.stage.turnsLeft

/-- It has reported on all of its artifacts, or the next one cannot be printed. -/
def Ended : Prop :=
  e.due = [] ∨ ∃ s rest, e.due = s :: rest ∧ e.renderer.source s = .error .abort

end Emitter

/-! ## What a report settles -/

namespace EmitterReport

/-- What it means for the memory that an emission is reported: a free name was filled with what was
rendered, or the name was taken, or the artifact could not be rendered. -/
inductive Settles : EmitterReport → Memory → Memory → Prop where
  | written {r : Renderer} {s : Spec} {text : String} {m : Memory}
    (free : m.contents? s.name = none) (rendered : r.source s = .ok text) :
    Settles ⟨r, s, .written⟩ m (m.keep s.name text)
  | skipped {r : Renderer} {s : Spec} {m : Memory} (taken : m.contents? s.name ≠ none) :
    Settles ⟨r, s, .skippedExisting⟩ m m
  | failed {r : Renderer} {s : Spec} {fault : GenerationError} {m : Memory}
    (fails : r.source s = .error (.fault fault)) : Settles ⟨r, s, .failed fault⟩ m m

variable {f : EmitterReport} {m m' : Memory} {n : QualifiedName} {text : String}

/-- What is there stays there. -/
theorem Settles.contents?_of_before (h : f.Settles m m') (hn : m.contents? n = some text) :
    m'.contents? n = some text := by
  cases h with
  | written => exact Memory.contents?_keep_of_some hn
  | skipped => exact hn
  | failed => exact hn

/-- The memory goes on to take writes if it did so. -/
theorem Settles.failing_eq (h : f.Settles m m') : m'.failing = m.failing := by
  cases h <;> rfl

/-- A free name stays free, or it is filled by what is reported as written. -/
theorem Settles.fills (h : f.Settles m m') (hn : m.contents? n = none) :
    (f.wrote n = false ∧ m'.contents? n = none) ∨
      (f.wrote n = true ∧ ∃ text, f.renderer.source f.spec = .ok text ∧
        m'.contents? n = some text) := by
  cases h with
  | @written r s text m free rendered =>
    by_cases hname : s.name = n
    · subst hname
      exact .inr ⟨by simp [wrote], text, rendered, Memory.contents?_keep_self free⟩
    · exact .inl ⟨by simp [wrote, hname], Memory.contents?_keep_of_ne hn (Ne.symm hname)⟩
  | skipped => exact .inl ⟨by simp [wrote], hn⟩
  | failed => exact .inl ⟨by simp [wrote], hn⟩

/-- Only a free name is reported as written. -/
theorem Settles.wrote_of_taken (h : f.Settles m m') (hn : m.contents? n ≠ none) :
    f.wrote n = false := by
  cases h with
  | @written r s text m free rendered =>
    have hname : s.name ≠ n := fun hname => hn (hname ▸ free)
    simp [wrote, hname]
  | skipped => simp [wrote]
  | failed => simp [wrote]

/-- The write count grows by one exactly for a written artifact. -/
theorem Settles.writes_eq (h : f.Settles m m') :
    m'.writes = m.writes + if f.emission = .written then 1 else 0 := by
  cases h <;> rfl

/-- An artifact that can be rendered is written or skipped. -/
theorem Settles.written_or_skipped (h : f.Settles m m')
    (hsource : f.renderer.source f.spec = .ok text) :
    f.emission = .written ∨ f.emission = .skippedExisting := by
  cases h with
  | written => exact .inl rfl
  | skipped => exact .inr rfl
  | failed fails =>
    rw [fails] at hsource
    cases hsource

end EmitterReport

/-- Reports, the latest first, on emissions that lead from one memory to another. -/
inductive Settled (start : Memory) : List EmitterReport → Memory → Prop where
  | nothing : Settled start [] start
  | next {f : EmitterReport} {fs : List EmitterReport} {m m' : Memory} (before : Settled start fs m)
    (last : f.Settles m m') : Settled start (f :: fs) m'

namespace Settled

variable {start m : Memory} {fs : List EmitterReport} {n : QualifiedName} {text : String}

/-- What was there in the beginning is still there. -/
theorem contents?_of_start (h : Settled start fs m) (hn : start.contents? n = some text) :
    m.contents? n = some text := by
  induction h with
  | nothing => exact hn
  | next _ last ih => exact last.contents?_of_before ih

/-- The memory goes on to take writes if it did so in the beginning. -/
theorem failing_eq (h : Settled start fs m) : m.failing = start.failing := by
  induction h with
  | nothing => rfl
  | next _ last ih => exact last.failing_eq.trans ih

/-- A name that was taken in the beginning is not reported as written. -/
theorem wrote_of_taken (h : Settled start fs m) (hn : start.contents? n ≠ none) :
    fs.filter (EmitterReport.wrote n) = [] := by
  obtain ⟨text, hn⟩ := Option.ne_none_iff_exists'.mp hn
  induction h with
  | nothing => rfl
  | next before last ih =>
    have hthere := before.contents?_of_start hn
    have hlast := last.wrote_of_taken (hthere ▸ Option.some_ne_none text)
    rw [List.filter_cons_of_neg (Bool.eq_false_iff.mp hlast), ih]

/-- A name that was free is either still free, and nobody reports it as written, or exactly one
report says that it was written, and what was rendered there is found under it. -/
theorem fills (h : Settled start fs m) (hn : start.contents? n = none) :
    (fs.filter (EmitterReport.wrote n) = [] ∧ m.contents? n = none) ∨
      ∃ f text, fs.filter (EmitterReport.wrote n) = [f] ∧
        f.renderer.source f.spec = .ok text ∧ m.contents? n = some text := by
  induction h with
  | nothing => exact .inl ⟨rfl, hn⟩
  | @next f fs m m' before last ih =>
    rcases ih with ⟨hnobody, hfree⟩ | ⟨g, text, hone, hsource, hthere⟩
    · rcases last.fills hfree with ⟨hw, hfree'⟩ | ⟨hw, text, hsource, hthere⟩
      · rw [List.filter_cons_of_neg (Bool.eq_false_iff.mp hw)]
        exact .inl ⟨hnobody, hfree'⟩
      · rw [List.filter_cons_of_pos hw, hnobody]
        exact .inr ⟨f, text, rfl, hsource, hthere⟩
    · -- The name is taken by now, so the last report is not one of writing it.
      have hw := last.wrote_of_taken (hthere ▸ Option.some_ne_none text)
      rw [List.filter_cons_of_neg (Bool.eq_false_iff.mp hw)]
      exact .inr ⟨g, text, hone, hsource, last.contents?_of_before hthere⟩

/-- Every write is reported once. -/
theorem writes_eq (h : Settled start fs m) :
    m.writes = start.writes + fs.countP fun f => f.emission = .written := by
  induction h with
  | nothing => rfl
  | next _ last ih =>
    rw [last.writes_eq, ih, List.countP_cons]
    simp only [decide_eq_true_eq]
    omega

/-- Of an artifact that can be rendered no failure is reported. -/
theorem written_or_skipped (h : Settled start fs m) {f : EmitterReport} (hf : f ∈ fs)
    (hsource : f.renderer.source f.spec = .ok text) :
    f.emission = .written ∨ f.emission = .skippedExisting := by
  induction h with
  | nothing => cases hf
  | next _ last ih =>
    rcases List.mem_cons.mp hf with rfl | hf
    · exact last.written_or_skipped hsource
    · exact ih hf

/-- A name that is reported as written was free, and is not any more. -/
theorem taken_of_written (h : Settled start fs m) {f : EmitterReport} (hf : f ∈ fs)
    (hw : f.emission = .written) :
    start.contents? f.spec.name = none ∧ m.contents? f.spec.name ≠ none := by
  have hmem : f ∈ fs.filter (EmitterReport.wrote f.spec.name) :=
    List.mem_filter.mpr ⟨hf, by simp [EmitterReport.wrote, hw]⟩
  have hfree : start.contents? f.spec.name = none := by
    by_contra htaken
    rw [h.wrote_of_taken htaken] at hmem
    cases hmem
  refine ⟨hfree, ?_⟩
  rcases h.fills hfree with ⟨hnobody, -⟩ | ⟨-, text, -, -, hthere⟩
  · rw [hnobody] at hmem
    cases hmem
  · rw [hthere]
    exact Option.some_ne_none text

end Settled

/-! ## The turns of one emitter -/

namespace Emitter

variable (e : Emitter) {m : Memory}

/-- What cannot be rendered is reported as failed. -/
theorem turn_rendering_error {r : Renderer} {s : Spec} {rest : List Spec}
    {reports : List (Spec × Emission)} {fault : GenerationError}
    (h : r.source s = .error (.fault fault)) :
    turn ⟨r, s :: rest, .rendering, reports⟩ m =
      (⟨r, rest, .asking, reports ++ [(s, .failed fault)]⟩, m) := by
  simp only [turn]
  split
  · next fault' h' => rw [Breakdown.fault.inj (Except.error.inj (h.symm.trans h'))]
  · next h' => cases h.symm.trans h'
  · next h' => cases h.symm.trans h'

/-- What cannot be printed aborts the emitter. -/
theorem turn_rendering_abort {r : Renderer} {s : Spec} {rest : List Spec}
    {reports : List (Spec × Emission)} (h : r.source s = .error .abort) :
    turn ⟨r, s :: rest, .rendering, reports⟩ m =
      (⟨r, s :: rest, .aborted (congrArg some h), reports⟩, m) := by
  simp only [turn]
  split
  · next h' => cases h.symm.trans h'
  · rfl
  · next h' => cases h.symm.trans h'

/-- What was rendered is to be written. -/
theorem turn_rendering_ok {r : Renderer} {s : Spec} {rest : List Spec}
    {reports : List (Spec × Emission)} {text : String} (h : r.source s = .ok text) :
    turn ⟨r, s :: rest, .rendering, reports⟩ m =
      (⟨r, s :: rest, .writing text (congrArg some h), reports⟩, m) := by
  simp only [turn]
  split
  · next h' => cases h.symm.trans h'
  · next h' => cases h.symm.trans h'
  · next text' h' =>
    cases Except.ok.inj (h.symm.trans h')
    rfl

/-- In a turn an emitter reports nothing and leaves the memory as it is, or it settles one report. -/
theorem turn_cases (hm : m.failing = false) :
    ((e.turn m).1.told = e.told ∧ (e.turn m).2 = m) ∨
      ∃ f : EmitterReport, (e.turn m).1.told = e.told ++ [f] ∧ f.Settles m (e.turn m).2 := by
  rcases e with ⟨r, _ | ⟨s, rest⟩, stage, reports⟩
  · exact .inl ⟨rfl, rfl⟩
  · cases stage with
    | asking =>
      by_cases hthere : m.answers s.name = true
      · have htaken : m.contents? s.name ≠ none := by
          rw [Memory.answers, Bool.and_eq_true] at hthere
          exact Option.isSome_iff_ne_none.mp hthere.2
        refine .inr ⟨⟨r, s, .skippedExisting⟩, ?_, ?_⟩
        · simp [turn, hthere, told]
        · simp only [turn, hthere, ↓reduceIte]
          exact .skipped htaken
      · exact .inl (by simp [turn, hthere, told])
    | rendering =>
      simp only [turn]
      split
      · next fault hfails => exact .inr ⟨⟨r, s, .failed fault⟩, by simp [told], .failed hfails⟩
      · exact .inl ⟨rfl, rfl⟩
      · exact .inl ⟨rfl, rfl⟩
    | writing text rendered =>
      have hsource : r.source s = .ok text := Option.some.inj rendered
      refine .inr ⟨⟨r, s, .ofWrite s.name (m.write s.name text).1⟩, by simp [turn, told], ?_⟩
      change EmitterReport.Settles _ m (m.write s.name text).2
      by_cases htaken : m.contains s.name = true
      · -- Another emitter was faster: the write is refused, and that is a skip.
        have hwrite : m.write s.name text = (.error (.alreadyExists s.name.path), m) := by
          simp [Memory.write, hm, htaken]
        rw [hwrite]
        exact .skipped (Option.isSome_iff_ne_none.mp htaken)
      · rw [Bool.not_eq_true] at htaken
        have hwrite : m.write s.name text = (.ok (), m.keep s.name text) := by
          simp [Memory.write, hm, htaken, Memory.keep]
        rw [hwrite]
        exact .written (Memory.contains_eq_false_iff.mp htaken) hsource
    | aborted unprintable => exact .inl ⟨rfl, rfl⟩

/-- A turn changes neither what an emitter works with nor what it works through. -/
theorem job_turn : (e.turn m).1.job = e.job := by
  rcases e with ⟨r, _ | ⟨s, rest⟩, stage, reports⟩
  · rfl
  · cases stage with
    | asking =>
      simp only [turn]
      split <;> simp [job]
    | rendering =>
      simp only [turn]
      split <;> simp [job]
    | writing text rendered => simp [turn, job]
    | aborted unprintable => rfl

/-- Every turn brings an emitter closer to its end. -/
theorem turnsLeft_turn : (e.turn m).1.turnsLeft ≤ e.turnsLeft - 1 := by
  rcases e with ⟨r, _ | ⟨s, rest⟩, stage, reports⟩
  · cases stage <;> simp [turn, turnsLeft, Stage.turnsLeft]
  · cases stage with
    | asking =>
      simp only [turn]
      split <;> simp only [turnsLeft, Stage.turnsLeft, List.length_cons] <;> omega
    | rendering =>
      simp only [turn]
      split <;> simp only [turnsLeft, Stage.turnsLeft, List.length_cons] <;> omega
    | writing text rendered =>
      simp only [turn, turnsLeft, Stage.turnsLeft, List.length_cons]
      omega
    | aborted unprintable => exact Nat.le_refl 0

/-- An emitter that needs no more turns has come to its end. -/
theorem ended_of_turnsLeft (h : e.turnsLeft = 0) : e.Ended := by
  rcases e with ⟨r, _ | ⟨s, rest⟩, stage, reports⟩
  · exact .inl rfl
  · cases stage with
    | asking => simp only [turnsLeft, Stage.turnsLeft, List.length_cons] at h; omega
    | rendering => simp only [turnsLeft, Stage.turnsLeft, List.length_cons] at h; omega
    | writing text rendered => simp only [turnsLeft, Stage.turnsLeft, List.length_cons] at h; omega
    | aborted unprintable => exact .inr ⟨s, rest, rfl, Option.some.inj unprintable⟩

end Emitter

/-! ## Many emitters -/

/-- Emitters that share a memory. -/
structure Crew where
  emitters : List Emitter
  memory : Memory

namespace Crew

/-- Every emitter is at the beginning of its job. -/
def start (jobs : List (Renderer × List Spec)) (memory : Memory) : Crew where
  emitters := jobs.map fun (r, specs) => { renderer := r, due := specs }
  memory

variable (c : Crew)

/-- It is the turn of one emitter. -/
def turn (i : Nat) : Crew :=
  match c.emitters[i]? with
  | none => c
  | some e => ⟨c.emitters.set i (e.turn c.memory).1, (e.turn c.memory).2⟩

/-- The emitters take turns in an order. -/
def run (schedule : List Nat) : Crew := schedule.foldl turn c

/-- What all emitters have reported. -/
def told : List EmitterReport := c.emitters.flatMap Emitter.told

variable {c}

/-- First some turns are taken, then the others. -/
theorem run_append (earlier later : List Nat) : c.run (earlier ++ later) = (c.run earlier).run later :=
  List.foldl_append

/-- What changes of one emitter in a turn is all that changes of the crew. -/
theorem turn_split {i : Nat} {e : Emitter} (h : c.emitters[i]? = some e) :
    ∃ before after, c.emitters = before ++ e :: after ∧
      (c.turn i).emitters = before ++ (e.turn c.memory).1 :: after := by
  obtain ⟨hi, rfl⟩ := List.getElem?_eq_some_iff.mp h
  refine ⟨c.emitters.take i, c.emitters.drop (i + 1), ?_, ?_⟩
  · rw [List.getElem_cons_drop, List.take_append_drop]
  · simp only [turn, h]
    exact List.set_eq_take_append_cons_drop.trans (if_pos hi)

/-- In a turn nothing is reported and the memory stays as it is, or one more report is settled. -/
theorem turn_cases (hm : c.memory.failing = false) (i : Nat) :
    ((c.turn i).told = c.told ∧ (c.turn i).memory = c.memory) ∨
      ∃ f : EmitterReport, (c.turn i).told.Perm (f :: c.told) ∧
        f.Settles c.memory (c.turn i).memory := by
  cases he : c.emitters[i]? with
  | none => exact .inl (by simp [turn, he])
  | some e =>
    obtain ⟨before, after, hbefore, hafter⟩ := turn_split he
    have hmemory : (c.turn i).memory = (e.turn c.memory).2 := by simp only [turn, he]
    rw [told, told, hbefore, hafter, hmemory]
    simp only [List.flatMap_append, List.flatMap_cons]
    rcases e.turn_cases hm with ⟨htold, hsame⟩ | ⟨f, htold, hsettles⟩
    · exact .inl ⟨by rw [htold], hsame⟩
    · refine .inr ⟨f, ?_, hsettles⟩
      rw [htold, List.append_assoc, List.singleton_append]
      exact (List.perm_middle.append_left _).trans List.perm_middle

/-- In a turn no job changes. -/
theorem jobs_turn (i : Nat) : (c.turn i).emitters.map Emitter.job = c.emitters.map Emitter.job := by
  cases he : c.emitters[i]? with
  | none => simp only [turn, he]
  | some e =>
    obtain ⟨before, after, hbefore, hafter⟩ := turn_split he
    rw [hbefore, hafter]
    simp only [List.map_append, List.map_cons, e.job_turn]

/-- However the turns are taken, what is reported in them is settled on the memory in some order. -/
theorem settled_run (hm : c.memory.failing = false) (schedule : List Nat) :
    ∃ fs, Settled c.memory fs (c.run schedule).memory ∧
      (c.run schedule).told.Perm (fs ++ c.told) := by
  induction schedule using List.reverseRecOn with
  | nil => exact ⟨[], .nothing, List.Perm.rfl⟩
  | append_singleton schedule i ih =>
    obtain ⟨fs, hsettled, htold⟩ := ih
    rw [run_append]
    rcases turn_cases (hsettled.failing_eq.trans hm) i with ⟨hsame, hmemory⟩ | ⟨f, hmore, hf⟩
    · exact ⟨fs, hmemory ▸ hsettled, hsame ▸ htold⟩
    · exact ⟨f :: fs, hsettled.next hf, hmore.trans (htold.cons f)⟩

/-- However the turns are taken, no job changes. -/
theorem jobs_run (schedule : List Nat) :
    (c.run schedule).emitters.map Emitter.job = c.emitters.map Emitter.job := by
  induction schedule generalizing c with
  | nil => rfl
  | cons i schedule ih => exact ih.trans (jobs_turn i)

/-- An emitter that had enough turns has come to the end of its job. -/
theorem turnsLeft_run {i : Nat} {e : Emitter} (h : c.emitters[i]? = some e) (schedule : List Nat) :
    ∃ e', (c.run schedule).emitters[i]? = some e' ∧
      e'.turnsLeft ≤ e.turnsLeft - schedule.count i := by
  induction schedule generalizing c e with
  | nil => exact ⟨e, h, Nat.le_refl _⟩
  | cons j schedule ih =>
    have hi : i < c.emitters.length := (List.getElem?_eq_some_iff.mp h).1
    by_cases hij : j = i
    · subst hij
      have hturn : (c.turn j).emitters[j]? = some (e.turn c.memory).1 := by
        simp only [turn, h]
        exact List.getElem?_set_self hi
      obtain ⟨e', he', hleft⟩ := ih hturn
      have hstep := e.turnsLeft_turn (m := c.memory)
      refine ⟨e', he', ?_⟩
      rw [List.count_cons_self]
      omega
    · have hturn : (c.turn j).emitters[i]? = some e := by
        unfold turn
        split
        · exact h
        · exact (List.getElem?_set_ne hij).trans h
      rw [List.count_cons_of_ne hij]
      exact ih hturn

/-! ## One emitter alone -/

/-- One emitter that is about to ask for an artifact. -/
def alone (r : Renderer) (due : List Spec) (reports : List (Spec × Emission)) (memory : Memory) :
    Crew :=
  ⟨[⟨r, due, .asking, reports⟩], memory⟩

/-- The turn of the only emitter. -/
theorem turn_single (e : Emitter) (m : Memory) :
    (⟨[e], m⟩ : Crew).turn 0 = ⟨[(e.turn m).1], (e.turn m).2⟩ := rfl

/-- The only emitter asks for a name that is not there. -/
theorem turn_alone_of_free {s : Spec} {m : Memory} (hfree : m.answers s.name = false)
    (r : Renderer) (rest : List Spec) (reports : List (Spec × Emission)) :
    (alone r (s :: rest) reports m).turn 0 = ⟨[⟨r, s :: rest, .rendering, reports⟩], m⟩ := by
  simp [alone, turn_single, Emitter.turn, hfree]

/-- Undisturbed, the turns of one emission do what emitting the artifact does. -/
theorem run_alone_emit {r : Renderer} {s : Spec} {e : Emission} {m m' : Memory}
    (h : (Memory.store.emit r s).run.run m = (some e, m')) (rest : List Spec)
    (reports : List (Spec × Emission)) :
    ∃ k ≤ 3, (alone r (s :: rest) reports m).run (List.replicate k 0) =
      alone r rest (reports ++ [(s, e)]) m' := by
  rw [Memory.run_emit] at h
  by_cases hthere : m.answers s.name = true
  · rw [if_pos hthere] at h
    cases h
    exact ⟨1, by decide, by simp [hthere, alone, run, turn_single, Emitter.turn]⟩
  · rw [if_neg hthere] at h
    have hasked := turn_alone_of_free (Bool.eq_false_iff.mpr hthere) r rest reports
    rcases hsource : r.source s with (fault | _) | text <;> rw [hsource] at h <;> cases h
    · refine ⟨2, by decide, ?_⟩
      change ((alone r (s :: rest) reports m).turn 0).turn 0 = _
      rw [hasked, turn_single, Emitter.turn_rendering_error hsource]
      rfl
    · refine ⟨3, by decide, ?_⟩
      change (((alone r (s :: rest) reports m).turn 0).turn 0).turn 0 = _
      rw [hasked, turn_single, Emitter.turn_rendering_ok hsource]
      rfl

/-- Undisturbed, an emitter does in enough turns what emitting its artifacts one after the other does. -/
theorem run_alone_emitAll {r : Renderer} {specs : List Spec} {results : List (Spec × Emission)}
    {m m' : Memory} (h : (Memory.store.emitAll r specs).run.run m = (some results, m'))
    (rest : List Spec) (reports : List (Spec × Emission)) :
    ∃ k ≤ 3 * specs.length, (alone r (specs ++ rest) reports m).run (List.replicate k 0) =
      alone r rest (reports ++ results) m' := by
  induction specs generalizing reports m results with
  | nil =>
    obtain ⟨rfl, rfl⟩ := run_pure_eq_some_iff.mp h
    exact ⟨0, Nat.le_refl _, congrArg (alone r rest · m) (List.append_nil reports).symm⟩
  | cons s specs ih =>
    obtain ⟨e, others, u, hemit, hothers, rfl⟩ := Store.of_run_emitAll_cons h
    obtain ⟨j, hj, hfirst⟩ := run_alone_emit hemit (specs ++ rest) reports
    obtain ⟨k, hk, hrest⟩ := ih hothers (reports ++ [(s, e)])
    refine ⟨j + k, by rw [List.length_cons]; omega, ?_⟩
    rw [List.replicate_add, run_append, List.cons_append, hfirst, hrest, List.append_assoc]
    rfl

/-- Undisturbed, an emitter aborts where emitting its artifacts one after the other does. -/
theorem run_alone_of_aborts {r : Renderer} {specs : List Spec} {m m' : Memory}
    (h : Memory.store.Aborts r specs m m') (reports : List (Spec × Emission)) :
    ∃ k ≤ 3 * specs.length, ∃ (results : List (Spec × Emission)) (s : Spec) (rest : List Spec)
      (unprintable : r.source s = .error .abort), specs = results.map Prod.fst ++ s :: rest ∧
      (alone r specs reports m).run (List.replicate k 0) =
        ⟨[⟨r, s :: rest, .aborted (congrArg some unprintable), reports ++ results⟩], m'⟩ := by
  obtain ⟨results, s, rest, u, rfl, hresults, hasks, habort⟩ := h
  obtain ⟨hfree, rfl⟩ := Prod.mk.inj hasks
  obtain ⟨k, hk, hbefore⟩ := run_alone_emitAll hresults (s :: rest) reports
  refine ⟨k + 2, ?_, results, s, rest, habort, rfl, ?_⟩
  · rw [List.length_append, List.length_cons]
    omega
  · rw [List.replicate_add, run_append, hbefore]
    change ((alone r (s :: rest) (reports ++ results) u).turn 0).turn 0 = _
    rw [turn_alone_of_free hfree r rest, turn_single, Emitter.turn_rendering_abort habort]

/-! ## Any schedule -/

/-- However many emitters take turns in whatever order: what is once there stays as it is, each name
that is new was written by one emission, as that rendered it, every other emission that can be
rendered is skipped, and every write counts once. No emitter loses an artifact, and with three turns
for each one it comes to its end: only one that cannot be printed keeps it from reporting on all. -/
theorem emitters_never_clobber (jobs : List (Renderer × List Spec)) (memory : Memory)
    (hsound : memory.failing = false) (schedule : List Nat) :
    let last := (start jobs memory).run schedule
    (∀ earlier later, schedule = earlier ++ later → ∀ n text,
      ((start jobs memory).run earlier).memory.contents? n = some text →
        last.memory.contents? n = some text) ∧
    (∀ n text, memory.contents? n = none → last.memory.contents? n = some text →
      ∃ f, last.told.filter (EmitterReport.wrote n) = [f] ∧ f.renderer.source f.spec = .ok text) ∧
    (∀ f ∈ last.told, f.emission = .written →
      memory.contents? f.spec.name = none ∧ last.memory.contents? f.spec.name ≠ none) ∧
    (∀ f ∈ last.told, ∀ text, f.renderer.source f.spec = .ok text →
      f.emission = .written ∨ f.emission = .skippedExisting) ∧
    last.memory.writes = memory.writes + (last.told.countP fun f => f.emission = .written) ∧
    last.emitters.map Emitter.job = jobs ∧
    ∀ i r specs, jobs[i]? = some (r, specs) → 3 * specs.length ≤ schedule.count i →
      ∃ e, last.emitters[i]? = some e ∧ e.Ended := by
  intro last
  have hfresh : (start jobs memory).told = [] := by
    simp only [told, start, List.flatMap_eq_nil_iff, List.mem_map]
    rintro _ ⟨job, -, rfl⟩
    rfl
  obtain ⟨fs, hsettled, htold⟩ := settled_run (c := start jobs memory) hsound schedule
  rw [hfresh, List.append_nil] at htold
  have hwrote := fun n => htold.filter (EmitterReport.wrote n)
  refine ⟨?_, ?_, ?_, ?_, ?_, ?_, ?_⟩
  · rintro earlier later rfl n text hn
    obtain ⟨gs, hearlier, -⟩ := settled_run (c := start jobs memory) hsound earlier
    obtain ⟨hs, hlater, -⟩ := settled_run (hearlier.failing_eq.trans hsound) later
    rw [← run_append] at hlater
    exact hlater.contents?_of_start hn
  · intro n text hfree hthere
    rcases hsettled.fills hfree with ⟨-, hnone⟩ | ⟨f, text', hone, hsource, hthere'⟩
    · cases hnone.symm.trans hthere
    · cases hthere'.symm.trans hthere
      exact ⟨f, List.perm_singleton.mp (hone ▸ hwrote n), hsource⟩
  · intro f hf hw
    exact hsettled.taken_of_written (htold.mem_iff.mp hf) hw
  · intro f hf text hsource
    exact hsettled.written_or_skipped (htold.mem_iff.mp hf) hsource
  · rw [htold.countP_eq]
    exact hsettled.writes_eq
  · rw [jobs_run]
    simp [start, Emitter.job, Function.comp_def]
  · intro i r specs hjob hturns
    have hstart : (start jobs memory).emitters[i]? = some { renderer := r, due := specs } := by
      simp [start, hjob]
    obtain ⟨e, he, hleft⟩ := turnsLeft_run hstart schedule
    refine ⟨e, he, e.ended_of_turnsLeft ?_⟩
    simp only [Emitter.turnsLeft, Stage.turnsLeft] at hleft ⊢
    omega

private def sharedName : QualifiedName := ⟨⟨"shop::model"⟩, "OrderPredicates"⟩

private def sharedModel : Model where
  name := ⟨⟨"shop::model"⟩, "Order"⟩
  parentSpace := ⟨"shop"⟩
  identifier := ⟨"id", .scalar "u64"⟩
  fields := []
  variants := []
  generation := {}
  traits := ⟨true, false, false, false⟩
  eagerFetch := []

private def sharedSpec (doc : String) : Spec :=
  { name := sharedName, kind := .predicateFactory, doc, source := sharedModel }

private def rivals (r : Renderer) : List (Renderer × List Spec) :=
  [(r, [sharedSpec "First."]), (r, [sharedSpec "Second."])]

-- Both emitters find the name free; the second writes first.
private def race : List Nat := [0, 1, 0, 1, 1, 0]

/-- The first of two emitters finds a free name, but the second is faster: its text is kept, and the
first skips. -/
theorem second_emitter_is_faster :
    ∃ r, Renderer.ofCrates "scrud_runtime" "scrudgen_codec" [] = .ok r ∧
      let last := (start (rivals r) {}).run race
      last.told.map (fun f => (f.spec.doc, f.emission)) =
        [("First.", .skippedExisting), ("Second.", .written)] ∧
      ∃ f text, last.told.filter (EmitterReport.wrote sharedName) = [f] ∧
        f.renderer.source f.spec = .ok text ∧ last.memory.contents? sharedName = some text := by
  have hrace : (Renderer.ofCrates "scrud_runtime" "scrudgen_codec" []).toOption.map (fun r =>
      let last := (start (rivals r) {}).run race
      (last.told.map (fun f => (f.spec.doc, f.emission)), last.memory.contains sharedName)) =
        some ([("First.", .skippedExisting), ("Second.", .written)], true) := by
    decide +kernel
  obtain ⟨r, hr⟩ : ∃ r, Renderer.ofCrates "scrud_runtime" "scrudgen_codec" [] = .ok r := ⟨_, rfl⟩
  rw [hr, Except.toOption, Option.map_some, Option.some.injEq] at hrace
  obtain ⟨hreports, hthere⟩ := Prod.mk.inj hrace
  obtain ⟨text, hthere⟩ := Option.isSome_iff_exists.mp hthere
  obtain ⟨-, hwritten, -⟩ := emitters_never_clobber (rivals r) {} rfl race
  obtain ⟨f, hone, hsource⟩ := hwritten sharedName text rfl hthere
  exact ⟨r, hr, hreports, f, text, hone, hsource, hthere⟩

end Crew

end CrudScaffold
