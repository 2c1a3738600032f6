import CrudScaffold.Files
import CrudScaffold.Text.Pieces

/-!
# A tree of files

Directories and texts at places. A place is the list of names that lead to it from the top, and paths
are followed from a working directory. A failed operation may leave directories behind that it made
on its way.
-/

namespace CrudScaffold

/-- The names that lead to a place from the top. -/
abbrev Place := List String

/-- What stands at a place. -/
inductive FileTree.Entry where
  | directory
  | file (text : String)
  deriving DecidableEq, Repr

/-- Directories and files at their places. -/
structure FileTree where
  entries : List (Place × FileTree.Entry)
  /-- The place at which relative paths start. -/
  home : Place
  deriving DecidableEq, Repr

namespace FileTree

open FilePath

/-- A tree with an empty working directory. -/
def empty : FileTree := ⟨[([], .directory), (["home"], .directory)], ["home"]⟩

/-- An operation on a tree. -/
abbrev Action := ExceptT IoFault (StateM FileTree)

variable (t : FileTree)

/-! ## Places -/

/-- What stands at a place. -/
def standing? (p : Place) : Option Entry := t.entries.lookup p

/-- Put something at a place. -/
def put (p : Place) (e : Entry) : FileTree :=
  { t with entries := t.entries.filter (fun (q, _) => q != p) ++ [(p, e)] }

/-- Take away what stands at a place. -/
def erase (p : Place) : FileTree :=
  { t with entries := t.entries.filter fun (q, _) => q != p }

/-- Bytes that a name may have at most. -/
def longestName : Nat := 255

/-- Bytes that a path may have at most. -/
def longestPath : Nat := 4095

/-- Follow components from a place; all but the last one must lead to directories. -/
def walk : Place → List Component → Except IoFault Place
  | p, [] => .ok p
  | p, c :: rest =>
    match t.standing? p with
    | none => .error .notFound
    | some (.file _) => .error .notADirectory
    | some .directory =>
      match c with
      | .root => walk [] rest
      | .here => walk p rest
      | .parent => walk p.dropLast rest
      | .named name =>
        if longestName < name.utf8ByteSize then .error .nameTooLong else walk (p ++ [name]) rest

/-- The place to which steps lead. -/
def placeOf (cs : List Component) : Except IoFault Place := t.walk t.home cs

/-- The steps of a path that can be followed at all. -/
def checked (path : FilePath) : Except IoFault (List Component) :=
  if path.text.toList.contains '\x00' then .error .badPath
  else if longestPath < path.text.utf8ByteSize then .error .nameTooLong
  else if path.text.isEmpty then .error .notFound
  else .ok path.steps

/-- The place to which a path leads. -/
def locate (path : FilePath) : Except IoFault Place := checked path >>= t.placeOf

/-- What stands at the end of a path; behind a slash only a directory can stand. -/
def find (path : FilePath) : Except IoFault (Place × Entry) := do
  let p ← t.locate path
  match t.standing? p with
  | some (.file text) => if path.endsOpen then throw .notADirectory else return (p, .file text)
  | some .directory => return (p, .directory)
  | none => throw .notFound

/-- The path leads to a file. -/
def isFile (path : FilePath) : Bool :=
  match t.find path with
  | .ok (_, .file _) => true
  | _ => false

/-- Steps lead to a directory. -/
def isDirectory (cs : List Component) : Bool :=
  ((t.placeOf cs).toOption >>= t.standing?) == some .directory

/-- The text of a file. -/
def read (path : FilePath) : Except IoFault String := do
  match ← t.find path with
  | (_, .file text) => return text
  | (_, .directory) => throw .isADirectory

/-! ## Operations -/

/-- Make a file that is not there yet. -/
def create (path : FilePath) (text : String) : Action Unit := do
  let p ← (← get).locate path
  if path.endsOpen then throw .isADirectory
  if ((← get).standing? p).isSome then throw .fileExists
  modify fun t => t.put p (.file text)

/-- Make a file or replace one. -/
def write (path : FilePath) (text : String) : Action Unit := do
  let p ← (← get).locate path
  if path.endsOpen || (← get).standing? p = some .directory then throw .isADirectory
  modify fun t => t.put p (.file text)

/-- Make a directory that is not there yet. -/
def makeDirectory (cs : List Component) : Action Unit := do
  let p ← (← get).placeOf cs
  if ((← get).standing? p).isSome then throw .fileExists
  modify fun t => t.put p .directory

/-- Make a directory, or be content with one that is there. -/
def ensureDirectory (cs : List Component) : Action Unit := do
  try makeDirectory cs
  catch fault => unless (← get).isDirectory cs do throw fault

/-- Make a directory and all that lead to it, from components in reverse. -/
def makeOutward : List Component → Action Unit
  | [] => return
  | c :: before => do
    let cs := (c :: before).reverse
    try makeDirectory cs
    catch fault =>
      if fault = .notFound then
        makeOutward before
        ensureDirectory cs
      else unless (← get).isDirectory cs do throw fault

/-- Make a directory and all directories that lead to it, as far as they are missing. -/
def makeDirectories (path : FilePath) : Action Unit := do
  if path.text.isEmpty then return
  let cs ← checked path
  try makeDirectory cs
  catch fault =>
    if fault = .notFound then
      makeOutward path.components.dropLast.reverse
      ensureDirectory cs
    else unless (← get).isDirectory cs do throw fault

/-- Take away a file. -/
def remove (path : FilePath) : Action Unit := do
  match ← (← get).find path with
  | (p, .file _) => modify fun t => t.erase p
  | (_, .directory) => throw .isADirectory

/-- The place that a place below one moved place has after the move. -/
def moved (old new p : Place) : Place :=
  if old.isPrefixOf p then new ++ p.drop old.length else p

/-- Move a file or directory; what it replaces goes away. -/
def rename (path target : FilePath) : Action Unit := do
  let t ← get
  let old ← t.locate path
  let new ← t.locate target
  if !path.endsNamed || !target.endsNamed then throw .busy
  let some e := t.standing? old | throw .notFound
  if e != .directory && (path.endsOpen || target.endsOpen) then throw .notADirectory
  if old = new then return
  if old.isPrefixOf new then throw .invalid
  if new.isPrefixOf old then throw .notEmpty
  match e, t.standing? new with
  | .file _, some .directory => throw .isADirectory
  | .directory, some (.file _) => throw .notADirectory
  | _, occupant =>
    if occupant = some .directory && t.entries.any fun (p, _) => new.isPrefixOf p && p != new then
      throw .notEmpty
    let rest := t.entries.filter fun (p, _) => p != new
    set { t with entries := rest.map fun (p, e) => (moved old new p, e) }

/-! ## Views -/

/-- The paths of all files below the working directory, in order. -/
def files : List String :=
  let below := t.entries.filterMap fun (p, e) =>
    match e with
    | .file _ => if t.home.isPrefixOf p then some ("/".intercalate (p.drop t.home.length)) else none
    | .directory => none
  below.mergeSort fun a b => !(b < a)

/-- Access to the files of a tree. -/
def access : Files (StateM FileTree) where
  isFile path := return (← get).isFile path
  makeDirectories path := (makeDirectories path).run
  create path text := (create path text).run
  write path text := (write path text).run
  read path := return (← get).read path

end FileTree

end CrudScaffold
