import CrudScaffold.Rendering.Source
import CrudScaffold.Report.Basic
import CrudScaffold.Run.Log
import CrudScaffold.Store.Basic

/-!
# Emission

An artifact is rendered and written unless the store holds one of its name. What is there is never
replaced, also when it came to be in the meantime. An artifact that cannot be printed aborts the
program: then nothing comes of the emission, nor of what was to follow.
-/

namespace CrudScaffold

/-- What came of emitting an artifact. -/
inductive Emission where
  | written
  | skippedExisting
  | failed (error : GenerationError)
  deriving DecidableEq, Repr

namespace Emission

/-- The outcome alone. -/
def outcome : Emission → Outcome
  | written => .written
  | skippedExisting => .skippedExisting
  | failed _ => .failed

/-- Why it failed. -/
def reason? : Emission → Option String
  | failed e => some e.message
  | written | skippedExisting => none

/-- What is told of an emission. -/
def log (s : Spec) : Emission → Log
  | written => [⟨.info, s!"Wrote {s.name} ({s.kind.text})"⟩]
  | skippedExisting => []
  | failed e => [⟨.warn, e.message⟩]

/-- The report on an emission. -/
def report (s : Spec) (e : Emission) : ArtifactReport :=
  { name := s.name.path, kind := s.kind, outcome := e.outcome, reason := e.reason? }

/-- What came of a write. -/
def ofWrite (n : QualifiedName) : Except IoFault Unit → Emission
  | .ok () => written
  | .error fault => if fault.isAlreadyExists then skippedExisting else failed (.emissionIo n fault)

end Emission

variable {m : Type → Type} [Monad m]

/-- Emit an artifact. -/
def Store.emit (store : Store m) (r : Renderer) (s : Spec) : OptionT m Emission := do
  if ← store.holds s.name then return .skippedExisting
  else
    match r.source s with
    | .error (.fault e) => return .failed e
    | .error .abort => failure
    | .ok text => return .ofWrite s.name (← store.write s.name text)

/-- Emit artifacts one after the other. -/
def Store.emitAll (store : Store m) (r : Renderer) : List Spec → OptionT m (List (Spec × Emission))
  | [] => return []
  | s :: rest => do
    let e ← store.emit r s
    return (s, e) :: (← store.emitAll r rest)

end CrudScaffold
