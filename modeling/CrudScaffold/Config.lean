import CrudScaffold.Code.Reading
import CrudScaffold.Error
import CrudScaffold.FilePath
import CrudScaffold.Settings

/-!
# Configuration of a run

Where artifacts go, which crates generated code calls into, and free-form settings.
-/

namespace CrudScaffold

/-- The options of one run. -/
structure Config where
  /-- The directory that receives artifacts. -/
  outputRoot : FilePath
  /-- Directories of hand-written sources; an artifact found there is never generated. -/
  sourceRoots : List FilePath := []
  /-- The crate that generated code calls into. -/
  runtimeCrate : String := "scrud_runtime"
  /-- The crate of the identifier codec that generated code calls into. -/
  codecCrate : String := "scrudgen_codec"
  settings : Settings := {}
  /-- Types that exist outside the manifest. -/
  knownTypes : List String := []
  deriving DecidableEq, Repr

/-- What is wrong with a configuration. -/
inductive Config.Fault where
  /-- A crate is not written as a path; the option and the text. -/
  | notAPath (option text : String)
  /-- The output root is also a source root. -/
  | rootTwice (root : FilePath)
  deriving DecidableEq, Repr

/-- The wording of a fault. -/
def Config.Fault.message : Config.Fault → String
  | .notAPath option text => s!"{option} '{text}' is not a valid Rust path"
  | .rootTwice root => s!"output root '{root.text}' must not also be a source root"

namespace Config

/-- The text can be read as a path. -/
def isPath (text : String) : Bool := (Code.Path.ofText? text).isSome

/-- The first fault of a configuration. -/
def fault? (c : Config) : Option Fault :=
  if !isPath c.runtimeCrate then some (.notAPath "runtime_crate" c.runtimeCrate)
  else if !isPath c.codecCrate then some (.notAPath "codec_crate" c.codecCrate)
  else if c.sourceRoots.any fun root => root.components == c.outputRoot.components then
    some (.rootTwice c.outputRoot)
  else none

/-- Refuse a configuration with a fault. -/
def validate (c : Config) : Except GenerationError Unit :=
  match c.fault? with
  | some fault => .error (.configuration fault.message)
  | none => .ok ()

/-- The configuration of a manifest's generator section, as it stands. -/
def ofGenerator (g : Manifest.Generator) (outputRoot : FilePath) (sourceRoots : List FilePath) :
    Config :=
  { outputRoot
    sourceRoots
    runtimeCrate := g.runtimeCrate.getD "scrud_runtime"
    codecCrate := g.codecCrate.getD "scrudgen_codec"
    settings := Settings.ofList g.settings
    knownTypes := g.knownTypes }

/-- The configuration of a manifest's generator section, unless it has a fault. -/
def ofSection (g : Manifest.Generator) (outputRoot : FilePath) (sourceRoots : List FilePath) :
    Except GenerationError Config := do
  let c := ofGenerator g outputRoot sourceRoots
  c.validate
  return c

end Config

end CrudScaffold
