import CrudScaffold.Manifest.Decode
import CrudScaffold.Report.Basic
import CrudScaffold.Toml.Sheet

/-!
# Run reports as documents

The sheets by which a report is written down, and how it is read back. What is absent is left out.
-/

namespace CrudScaffold

open Toml Toml.Decoder

/-! ## Writing -/

/-- A text under a key, if there is one. -/
def optionalText (key : String) (text : Option String) : List (String × String) :=
  text.toList.map fun s => (key, s)

/-- The sheet of an artifact. -/
def ArtifactReport.sheet (a : ArtifactReport) : Sheet :=
  .mk
    ([("name", a.name), ("kind", a.kind.text), ("outcome", a.outcome.text)] ++
      optionalText "reason" a.reason)
    []

/-- The sheet of a model. -/
def ModelReport.sheet (m : ModelReport) : Sheet :=
  .mk
    ([("model", m.model), ("status", m.status.text)] ++
      optionalText "error_kind" (m.errorKind.map ErrorKind.text) ++ optionalText "reason" m.reason)
    [.mk "artifacts" (m.artifacts.map ArtifactReport.sheet)]

/-- The sheet of a report. -/
def RunReport.sheet (r : RunReport) : Sheet := .mk [] [.mk "models" (r.models.map ModelReport.sheet)]

/-- The text of a report. -/
def RunReport.toText (r : RunReport) : String := r.sheet.toText

/-! ## Reading -/

/-- An artifact of a report. -/
def ArtifactReport.decode : Decoder ArtifactReport :=
  record "ArtifactReport"
    [("name", string.check), ("kind", (variant ArtifactKind.named).check),
     ("outcome", (variant Outcome.named).check), ("reason", string.check)]
    fun f => do
      .ok { name := ← f.required "name" string
            kind := ← f.required "kind" (variant ArtifactKind.named)
            outcome := ← f.required "outcome" (variant Outcome.named)
            reason := ← f.withDefault "reason" (fun v => (string v).map some) none }

/-- A model of a report. -/
def ModelReport.decode : Decoder ModelReport :=
  record "ModelReport"
    [("model", string.check), ("status", (variant ModelStatus.named).check),
     ("error_kind", (variant ErrorKind.named).check), ("reason", string.check),
     ("artifacts", (list ArtifactReport.decode).check)]
    fun f => do
      .ok { model := ← f.required "model" string
            status := ← f.required "status" (variant ModelStatus.named)
            errorKind := ← f.withDefault "error_kind"
              (fun v => (variant ErrorKind.named v).map some) none
            reason := ← f.withDefault "reason" (fun v => (string v).map some) none
            artifacts := ← f.withDefault "artifacts" (list ArtifactReport.decode) [] }

/-- A report. -/
def RunReport.decode : Decoder RunReport :=
  record "RunReport" [("models", (list ModelReport.decode).check)]
    fun f => do .ok { models := ← f.withDefault "models" (list ModelReport.decode) [] }

/-- Read the text of a report. -/
def RunReport.ofText (text : String) : Except ReadError RunReport := RunReport.decode.ofText text

end CrudScaffold
