import SpokenArithmetic.CommandLine.Files
import SpokenArithmetic.History.Archive
import Std.Time.DateTime

set_option autoImplicit false

namespace SpokenArithmetic.Program

def fileText? (path : String) : IO (Option String) := do
  try return some (<- IO.FS.readFile path)
  catch _ => return none

def readable (paths : List String) : IO (List (String × String)) := do
  let found <- paths.mapM fun path => do
    return (<- fileText? path).map fun text => (path, text)
  return found.filterMap id

def setVariables (names : List String) : IO (List (String × String)) := do
  let found <- names.mapM fun name => do
    return (<- IO.getEnv name).map fun value => (name, value)
  return found.filterMap id

def startEnvironment : IO Environment := do
  let bindings <- setVariables [rootVariable, Settings.pairsVariable]
  let home := (<- IO.getEnv "HOME").getD "/"
  let directory := (<- IO.getEnv "PWD").getD "/"
  return { files := [], directories := [], bindings, home, directory }

def currentMoment : IO Moment := do
  let wall := (<- Std.Time.Timestamp.now).toWallTime .zero
  let now := Std.Time.PlainDateTime.ofWallTime wall
  return { year := now.date.year.toInt.toNat
           month := now.date.month.val.toNat
           day := now.date.day.val.toNat
           hour := now.time.hour.val.toNat
           minute := now.time.minute.val.toNat
           second := now.time.second.val.toNat
           microsecond := now.time.nanosecond.val.toNat / 1000 }

def isWritable (path : String) : IO Bool := do
  try
    let _ <- IO.FS.Handle.mk path .append
    return true
  catch _ => return false

def openShelf (environment : Environment) (path : String) : IO (Environment × Shelf) := do
  if <- isWritable path then
    let text := (<- fileText? path).getD ""
    let environment :=
      { environment with directories := Path.join path ".." :: environment.directories }
    match Archive.decode? text with
    | some table => return (environment, [(environment.locate path, table)])
    | none => return ({ environment with files := (path, text) :: environment.files }, [])
  else return (environment, [])

def display (event : Event) : IO Unit := do
  (<- IO.getStdout).putStr event.output
  (<- IO.getStderr).putStr event.errorOutput

def keep (environment : Environment) (path : String) (shelf : Shelf) : IO Unit := do
  match shelf.lookup (environment.locate path) with
  | some table => IO.FS.writeFile path (Archive.encode table)
  | none => return

def inputFor (arguments : List String) : IO String := do
  if (CommandLine.asked? arguments).any (·.interactive) then (<- IO.getStdin).readToEnd
  else return ""

end SpokenArithmetic.Program

open SpokenArithmetic in
def main (arguments : List String) : IO UInt32 := do
  let environment <- Program.startEnvironment
  let files <- Program.readable (CommandLine.settingsFiles environment arguments)
  let environment := { environment with files }
  let historyFile := CommandLine.historyFile? environment arguments
  let (environment, shelf) <-
    match historyFile with
    | some path => Program.openShelf environment path
    | none => pure (environment, [])
  let surroundings : CommandLine.Surroundings :=
    { environment, reply := .unreachable, now := <- Program.currentMoment
      input := <- Program.inputFor arguments }
  let run := CommandLine.run surroundings arguments { shared := Settings.Shared.none, shelf }
  run.events.forM Program.display
  let (outcome, kept) := run.result
  match historyFile with
  | some path => Program.keep environment path kept.shelf
  | none => pure ()
  match outcome with
  | .ok code => return UInt32.ofNat code
  | .error fault =>
    IO.eprintln fault.message
    return 1
