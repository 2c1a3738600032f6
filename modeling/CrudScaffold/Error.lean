import CrudScaffold.Codec.Segments
import CrudScaffold.Manifest.Decode
import CrudScaffold.Name.Qualified

/-!
# Errors of a generation run

What can go wrong, with its class and its wording. Errors of one model are recorded against that
model; only a bad configuration and an empty manifest end a whole run.
-/

namespace CrudScaffold

/-- Why a file or store operation failed. -/
inductive IoFault where
  | alreadyExists (message : String)
  | notFound
  | notADirectory
  | isADirectory
  | notEmpty
  | nameTooLong
  /-- The place is in use as a way to other places. -/
  | busy
  /-- The path holds a character that no path may hold. -/
  | badPath
  /-- The operation makes no sense for these places. -/
  | invalid
  | other (message : String)
  deriving DecidableEq, Repr

namespace IoFault

/-- The class of the fault. -/
def kind : IoFault → String
  | alreadyExists _ => "AlreadyExists"
  | notFound => "NotFound"
  | notADirectory => "NotADirectory"
  | isADirectory => "IsADirectory"
  | notEmpty => "DirectoryNotEmpty"
  | nameTooLong => "InvalidFilename"
  | busy => "ResourceBusy"
  | badPath | invalid => "InvalidInput"
  | other _ => "Other"

/-- The wording of the fault. -/
def message : IoFault → String
  | alreadyExists message => message
  | notFound => "No such file or directory (os error 2)"
  | notADirectory => "Not a directory (os error 20)"
  | isADirectory => "Is a directory (os error 21)"
  | notEmpty => "Directory not empty (os error 39)"
  | nameTooLong => "File name too long (os error 36)"
  | busy => "Device or resource busy (os error 16)"
  | badPath => "file name contained an unexpected NUL byte"
  | invalid => "Invalid argument (os error 22)"
  | other message => message

/-- A file is already there. -/
def fileExists : IoFault := alreadyExists "File exists (os error 17)"

/-- The fault says that what should be made is already there. -/
def isAlreadyExists : IoFault → Bool
  | alreadyExists _ => true
  | _ => false

end IoFault

/-- What can go wrong. -/
inductive GenerationError where
  | unresolvableModel (model reason : String)
  | duplicateArtifactName (name : QualifiedName)
  | invalidAttributePath (model path reason : String)
  | emissionIo (name : QualifiedName) (fault : IoFault)
  | render (name : QualifiedName) (reason : String)
  | configuration (reason : String)
  | nothingToGenerate (reason : String)
  | malformed (fault : MalformedIdentifier)
  | io (fault : IoFault)
  | unreadable (fault : ReadError)
  | unwritable (reason : String)
  deriving DecidableEq, Repr

/-- The classes of errors. -/
inductive ErrorKind where
  | unresolvableModel
  | duplicateArtifactName
  | invalidAttributePath
  | emissionIo
  | render
  | configuration
  | nothingToGenerate
  | malformed
  | io
  | tomlDe
  | tomlSer
  deriving DecidableEq, Repr

/-- The classes under the names by which a report writes them. -/
def ErrorKind.named : List (String × ErrorKind) :=
  [("unresolvable-model", .unresolvableModel), ("duplicate-artifact-name", .duplicateArtifactName),
   ("invalid-attribute-path", .invalidAttributePath), ("emission-io", .emissionIo),
   ("render", .render), ("configuration", .configuration),
   ("nothing-to-generate", .nothingToGenerate), ("malformed", .malformed), ("io", .io),
   ("toml-de", .tomlDe), ("toml-ser", .tomlSer)]

/-- The name by which a report writes the class. -/
def ErrorKind.text : ErrorKind → String
  | .unresolvableModel => "unresolvable-model"
  | .duplicateArtifactName => "duplicate-artifact-name"
  | .invalidAttributePath => "invalid-attribute-path"
  | .emissionIo => "emission-io"
  | .render => "render"
  | .configuration => "configuration"
  | .nothingToGenerate => "nothing-to-generate"
  | .malformed => "malformed"
  | .io => "io"
  | .tomlDe => "toml-de"
  | .tomlSer => "toml-ser"

/-- Every class is found again under its name. -/
theorem ErrorKind.lookup_text (k : ErrorKind) : ErrorKind.named.lookup k.text = some k := by
  cases k <;> decide

namespace GenerationError

/-- The class of an error. -/
def kind : GenerationError → ErrorKind
  | unresolvableModel _ _ => .unresolvableModel
  | duplicateArtifactName _ => .duplicateArtifactName
  | invalidAttributePath _ _ _ => .invalidAttributePath
  | emissionIo _ _ => .emissionIo
  | render _ _ => .render
  | configuration _ => .configuration
  | nothingToGenerate _ => .nothingToGenerate
  | malformed _ => .malformed
  | io _ => .io
  | unreadable _ => .tomlDe
  | unwritable _ => .tomlSer

/-- The wording of an error. -/
def message : GenerationError → String
  | unresolvableModel model reason => s!"Unresolvable model '{model}': {reason}"
  | duplicateArtifactName name => s!"Duplicate artifact name: {name}"
  | invalidAttributePath model path reason =>
    s!"Invalid attribute path '{path}' on model '{model}': {reason}"
  | emissionIo name fault => s!"Failed to write artifact {name}: {fault.message}"
  | render name reason => s!"Failed to render artifact {name}: {reason}"
  | configuration reason => s!"Configuration Error: {reason}"
  | nothingToGenerate reason => s!"Nothing to generate: {reason}"
  | malformed fault => fault.message
  | io fault => s!"IO Error: {fault.message}"
  | unreadable .notADocument => "TOML Decode Error: "
  | unreadable (.shape fault) => s!"TOML Decode Error: {fault.message}"
  | unwritable reason => s!"TOML Encode Error: {reason}"

/-- The error ends the whole run rather than a single model. -/
def abortsRun : GenerationError → Bool
  | configuration _ | nothingToGenerate _ => true
  | _ => false

end GenerationError

end CrudScaffold
