import CrudScaffold.CommandLine.Basic

/-!
# The program

The command line over the files of the machine.
-/

namespace CrudScaffold

/-- A failure of the machine as a fault. -/
def faultOfFailure : IO.Error → IoFault
  | .alreadyExists .. => .fileExists
  | .noFileOrDirectory .. => .notFound
  | .inappropriateType .. => .notADirectory
  | e => .other (toString e)

/-- Run an action and keep its fault. -/
def attempt {α : Type} (action : IO α) : IO (Except IoFault α) := do
  match ← action.toBaseIO with
  | .ok a => return .ok a
  | .error e => return .error (faultOfFailure e)

/-- The files of the machine. -/
def machineFiles : Files IO where
  isFile path := do return (← attempt (IO.FS.readBinFile path.text)).isOk
  makeDirectories path := attempt (if path.text.isEmpty then pure () else IO.FS.createDirAll path.text)
  create path text := attempt do
    let handle ← IO.FS.Handle.mk path.text .writeNew
    handle.putStr text
    handle.flush
  write path text := attempt (IO.FS.writeFile path.text text)
  read path := attempt (IO.FS.readFile path.text)

/-- Print a response. -/
def printResponse (r : CommandLine.Response) : IO UInt32 := do
  for line in r.log do
    IO.eprintln s!"[{line.level.text}] {line.text}"
  for line in r.lines do
    IO.println line
  if r.exitCode = CommandLine.usage then
    IO.eprintln "error: wrong usage; for more information, try '--help'"
  return r.exitCode.toUInt32

end CrudScaffold

/-- The program. -/
def main (arguments : List String) : IO UInt32 := do
  CrudScaffold.printResponse (← CrudScaffold.CommandLine.invoke CrudScaffold.machineFiles arguments)
