import CrudScaffold.Error
import CrudScaffold.Spec.Kind

/-!
# Run reports

What became of every model and of every artifact in one run.
-/

namespace CrudScaffold

/-- What became of an artifact. -/
inductive Outcome where
  | written
  /-- An artifact of its name was there before. -/
  | skippedExisting
  | failed
  deriving DecidableEq, Repr

namespace Outcome

/-- All outcomes. -/
def all : List Outcome := [written, skippedExisting, failed]

/-- The name of an outcome. -/
def text : Outcome → String
  | written => "written"
  | skippedExisting => "skipped-existing"
  | failed => "failed"

/-- The outcomes under their names. -/
def named : List (String × Outcome) := all.map fun o => (o.text, o)

/-- Every outcome is found again under its name. -/
theorem lookup_text (o : Outcome) : named.lookup o.text = some o := by
  cases o <;> decide

end Outcome

/-- What became of a model. -/
inductive ModelStatus where
  /-- An artifact was written and none failed. -/
  | generated
  /-- Every artifact was there before. -/
  | skippedAllExisting
  /-- No artifact is due. -/
  | unqualified
  | failed
  deriving DecidableEq, Repr

namespace ModelStatus

/-- All statuses. -/
def all : List ModelStatus := [generated, skippedAllExisting, unqualified, failed]

/-- The name of a status. -/
def text : ModelStatus → String
  | generated => "generated"
  | skippedAllExisting => "skipped-all-existing"
  | unqualified => "unqualified"
  | failed => "failed"

/-- The statuses under their names. -/
def named : List (String × ModelStatus) := all.map fun s => (s.text, s)

/-- Every status is found again under its name. -/
theorem lookup_text (s : ModelStatus) : named.lookup s.text = some s := by
  cases s <;> decide

end ModelStatus

/-- What became of one artifact. -/
structure ArtifactReport where
  name : String
  kind : ArtifactKind
  outcome : Outcome
  /-- Why it failed. -/
  reason : Option String := none
  deriving DecidableEq, Repr

/-- What became of one model. -/
structure ModelReport where
  model : String
  status : ModelStatus
  /-- The class of the error that stopped the model. -/
  errorKind : Option ErrorKind := none
  reason : Option String := none
  artifacts : List ArtifactReport := []
  deriving DecidableEq, Repr

namespace ModelReport

/-- The model failed. -/
def isFailed (m : ModelReport) : Bool := m.status == .failed

/-- The first artifact of a kind. -/
def artifact? (m : ModelReport) (kind : ArtifactKind) : Option ArtifactReport :=
  m.artifacts.find? fun a => a.kind == kind

/-- How many of the artifacts failed. -/
def failures (artifacts : List ArtifactReport) : Nat :=
  artifacts.countP fun a => a.outcome == .failed

/-- The status that follows from the artifacts alone. -/
def statusOf (artifacts : List ArtifactReport) : ModelStatus :=
  if 0 < failures artifacts then .failed
  else if artifacts.isEmpty then .unqualified
  else if artifacts.all fun a => a.outcome == .skippedExisting then .skippedAllExisting
  else .generated

/-- The reason that follows from the artifacts alone. -/
def reasonOf (artifacts : List ArtifactReport) : Option String :=
  if 0 < failures artifacts then some s!"{failures artifacts} artifact(s) failed to emit" else none

/-- The report on a model: an error that stopped it decides, otherwise its artifacts do. -/
def ofOutcome (model : String) (error : Option GenerationError) (artifacts : List ArtifactReport) :
    ModelReport :=
  match error with
  | some e =>
    { model, status := .failed, errorKind := some e.kind, reason := some e.message, artifacts }
  | none => { model, status := statusOf artifacts, reason := reasonOf artifacts, artifacts }

end ModelReport

/-- What became of everything in one run. -/
structure RunReport where
  models : List ModelReport := []
  deriving DecidableEq, Repr

namespace RunReport

variable (r : RunReport)

/-- All artifacts. -/
def artifacts : List ArtifactReport := r.models.flatMap ModelReport.artifacts

/-- How many artifacts came to an outcome. -/
def count (o : Outcome) : Nat := r.artifacts.countP fun a => a.outcome == o

/-- Some model failed. -/
def hasFailures : Bool := r.models.any ModelReport.isFailed

end RunReport

end CrudScaffold
