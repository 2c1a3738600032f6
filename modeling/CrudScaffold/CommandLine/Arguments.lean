import CrudScaffold.FilePath

/-!
# Arguments of the command line

One manifest, and options with one value each. A value follows its option, or is attached to it: to a
long one with an equals sign, to a short one directly or with an equals sign. Two hyphens end the
options.
-/

namespace CrudScaffold.CommandLine

/-- What the program is asked to do. -/
structure Arguments where
  manifest : FilePath
  output : FilePath := ⟨"generated"⟩
  sourceRoots : List FilePath := []
  report : Option FilePath := none
  deriving DecidableEq, Repr

/-- What arguments ask for. -/
inductive Request where
  | run (arguments : Arguments)
  | help
  deriving DecidableEq, Repr

/-- The options that take a value. -/
inductive Switch where
  | output
  | sourceRoot
  | report
  deriving DecidableEq, Repr

/-- An option by its long name. -/
def Switch.ofLong? : String → Option Switch
  | "output" => some .output
  | "source-root" => some .sourceRoot
  | "report" => some .report
  | _ => none

/-- An option by its letter. -/
def Switch.ofLetter? : Char → Option Switch
  | 'o' => some .output
  | 's' => some .sourceRoot
  | 'r' => some .report
  | _ => none

/-- The arguments that were read so far. -/
structure Draft where
  manifest : Option FilePath := none
  output : Option FilePath := none
  sourceRoots : List FilePath := []
  report : Option FilePath := none

namespace Draft

variable (d : Draft)

/-- Set an option. Only source roots may be given several times, and no value is empty. -/
def set? (o : Switch) (value : String) : Option Draft :=
  if value.isEmpty then none
  else
    match o with
    | .output => if d.output.isSome then none else some { d with output := some ⟨value⟩ }
    | .sourceRoot => some { d with sourceRoots := d.sourceRoots ++ [⟨value⟩] }
    | .report => if d.report.isSome then none else some { d with report := some ⟨value⟩ }

/-- Take the manifest, which is given once. -/
def setManifest? (value : String) : Option Draft :=
  if value.isEmpty || d.manifest.isSome then none else some { d with manifest := some ⟨value⟩ }

/-- The finished arguments; the manifest must be among them. -/
def finish? : Option Request :=
  d.manifest.map fun manifest =>
    .run
      { manifest
        output := d.output.getD ⟨"generated"⟩
        sourceRoots := d.sourceRoots
        report := d.report }

end Draft

/-- How an argument is to be taken. -/
inductive Word where
  | value (text : String)
  | endOfOptions
  | help
  | option (option : Switch) (attached : Option String)
  | unknown
  deriving DecidableEq, Repr

/-- A long option without its hyphens. -/
def Word.ofLong (cs : List Char) : Word :=
  let name := cs.takeWhile (· != '=')
  let attached := match cs.drop name.length with
    | [] => none
    | _ :: text => some (String.ofList text)
  match Switch.ofLong? (.ofList name), attached with
  | some o, attached => .option o attached
  | none, none => if name == "help".toList then .help else .unknown
  | none, some _ => .unknown

/-- A short option without its hyphen. -/
def Word.ofShort (letter : Char) (rest : List Char) : Word :=
  if letter = 'h' then .help
  else
    match Switch.ofLetter? letter, rest with
    | some o, [] => .option o none
    | some o, '=' :: text => .option o (some (.ofList text))
    | some o, text => .option o (some (.ofList text))
    | none, _ => .unknown

/-- How an argument is to be taken; a single hyphen is a value. -/
def Word.of (argument : String) : Word :=
  match argument.toList with
  | ['-', '-'] => .endOfOptions
  | '-' :: '-' :: cs => .ofLong cs
  | '-' :: c :: cs => .ofShort c cs
  | _ => .value argument

/-- Take values only. -/
def readValues (d : Draft) : List String → Option Request
  | [] => d.finish?
  | a :: rest => do readValues (← d.setManifest? a) rest

/-- Take arguments in front of what was read so far. -/
def readFrom (d : Draft) : List String → Option Request
  | [] => d.finish?
  | a :: rest =>
    match Word.of a with
    | .value text => do readFrom (← d.setManifest? text) rest
    | .endOfOptions => readValues d rest
    | .help => some .help
    | .option o (some value) => do readFrom (← d.set? o value) rest
    | .option o none =>
      match rest with
      | [] => none
      | next :: rest =>
        match Word.of next with
        | .value text => do readFrom (← d.set? o text) rest
        | _ => none
    | .unknown => none

/-- What a list of arguments asks for; `none` for wrong usage. -/
def request? (arguments : List String) : Option Request := readFrom {} arguments

end CrudScaffold.CommandLine
