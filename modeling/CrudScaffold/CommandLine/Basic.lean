import CrudScaffold.CommandLine.Arguments
import CrudScaffold.Manifest.File
import CrudScaffold.Report.Document
import CrudScaffold.Run.Basic
import CrudScaffold.Store.Directory

/-!
# The command line

A manifest is read from a file, its artifacts are written below the output root, the report is
written if asked for, and a line is printed for every model and one for the whole run.
-/

namespace CrudScaffold.CommandLine

/-- What comes of an invocation. -/
structure Response where
  exitCode : Nat
  /-- What is printed. -/
  lines : List String := []
  log : Log := []
  deriving DecidableEq, Repr

/-- The exit code of success. -/
def success : Nat := 0

/-- The exit code of a failed run, or of a run with a failed model. -/
def failure : Nat := 1

/-- The exit code of wrong usage. -/
def usage : Nat := 2

/-- The exit code of an aborted program. -/
def aborted : Nat := 101

/-- The response to an error. -/
def Response.ofError (log : Log) (e : GenerationError) : Response :=
  { exitCode := failure, log := log ++ [⟨.error, e.message⟩] }

/-- A text with blanks behind it up to a width. -/
def padded (width : Nat) (s : String) : String :=
  s ++ .ofList (List.replicate (width - s.length) ' ')

/-- The line on a model. -/
def modelLine (m : ModelReport) : String :=
  match m.reason with
  | some reason => s!"{padded 40 m.model} {padded 20 m.status.text} {reason}"
  | none => s!"{padded 40 m.model} {m.status.text}"

/-- The line on the whole run. -/
def countLine (r : RunReport) : String :=
  let written := r.count .written
  let skipped := r.count .skippedExisting
  let failed := r.count .failed
  s!"{written} written, {skipped} skipped, {failed} failed"

/-- The response to a finished run. -/
def Response.ofReport (log : Log) (r : RunReport) : Response :=
  { exitCode := if r.hasFailures then failure else success
    lines := r.models.map modelLine ++ [countLine r]
    log }

variable {m : Type → Type} [Monad m]

/-- Write the report if asked for, and respond. -/
def finish (files : Files m) (a : Arguments) (log : Log) (r : RunReport) : m Response := do
  match a.report with
  | none => return .ofReport log r
  | some path =>
    match ← files.write path r.toText with
    | .ok () => return .ofReport log r
    | .error fault => return .ofError log (.io fault)

/-- The generator that arguments and a manifest ask for. -/
def generatorOf (a : Arguments) (manifest : Manifest) : Except GenerationError Generator := do
  Generator.ofConfig (← Config.ofSection manifest.generator a.output a.sourceRoots)

/-- Generate what arguments ask for. -/
def generate (files : Files m) (a : Arguments) : m Response := do
  match ← files.readManifest a.manifest with
  | .error e => return .ofError [] e
  | .ok manifest =>
    match generatorOf a manifest with
    | .error e => return .ofError [] e
    | .ok g =>
      let roots : ArtifactRoots := ⟨a.output, a.sourceRoots⟩
      match ← (g.run (roots.store files) manifest).run with
      | none => return { exitCode := aborted }
      | some (.refused e, log, _) => return .ofError log e
      | some (.alreadyRan, log, _) => finish files a log {}
      | some (.completed report, log, _) => finish files a log report

/-- What is printed when help is asked for. -/
def helpLines : List String :=
  ["Generate DTOs, mappers, repositories, services and controllers from a model manifest",
   "",
   "Usage: scrudgen [OPTIONS] <MANIFEST>",
   "",
   "Arguments:",
   "  <MANIFEST>  Model manifest (TOML)",
   "",
   "Options:",
   "  -o, --output <OUTPUT>            Directory receiving generated artifacts [default: generated]",
   "  -s, --source-root <SOURCE_ROOT>  Hand-written source root; artifacts found here are not regenerated (repeatable)",
   "  -r, --report <REPORT>            Write the run report as TOML to this file",
   "  -h, --help                       Print help"]

/-- Do what a list of arguments asks for. -/
def invoke (files : Files m) (arguments : List String) : m Response := do
  match request? arguments with
  | none => return { exitCode := usage }
  | some .help => return { exitCode := success, lines := helpLines }
  | some (.run a) => generate files a

end CrudScaffold.CommandLine
