import Daybook.Cli.Run
import Std.Time

/-!
# The command line

The outer layer of the program: it reads the part of the disk that a run depends on, asks
`Cli.run` for the outcome, and prints it.  A run names the places that it depends on, so the disk is
read step by step until a run depends on nothing that was not read.
-/

namespace Daybook.Cli

open Project

/-- The environment variables that a run depends on. -/
def variableNames : List String :=
  Settings.countVariables.map (·.2) ++ Settings.boolVariables.map (·.2) ++
    ["HLA_DATE_ORDER", "HLA_JOURNAL_EXTENSIONS", LogLevel.variableName,
      PackageLogger.formatVariable]

/-- The part of the environment that a run depends on, if these are the statements of the environment
file. -/
def readEnvironment (statements : List Statement) : IO Environment := do
  let mut env : Environment := .empty
  for name in variableNames ++ statements.flatMap (·.mentions) do
    if let some value := ← IO.getEnv name then
      env := env.insert name value
  return env

/-- The present day. -/
def readToday : IO Calendar.Date := do
  let now ← Std.Time.PlainDate.now
  match Calendar.Date.make now.year.toInt now.month.val now.day.val with
  | .ok day => return day
  | .error e => throw (IO.userError e.message)

/-- Adds what is at a place to a disk, a directory with all that is below it. -/
partial def readPlace (disk : Disk) (place : Path) : IO Disk := do
  try
    let real ← IO.FS.realPath place.text
    let time := (← real.metadata).modified
    let modified := time.sec * 1000000000 + time.nsec.toNat
    if ← real.isDir then
      let mut disk := disk.makeDirectory modified place
      for entry in ← real.readDir do
        disk ← readPlace disk (place.child entry.fileName)
      return disk.touch modified place
    else
      let bytes ← IO.FS.readBinFile place.text
      return (disk.write modified place bytes (some modified)).toOption.getD disk
  catch _ =>
    return disk

/-- The places that arguments name. -/
def argumentPlaces (s : Surroundings) (args : List String) : List Path :=
  args.filterMap fun arg => (s.resolve (.read arg)).toOption

/-- Whether a place is among those that were read or below one of them. -/
def isRead (read : List Path) (place : Path) : Bool :=
  read.any fun r => r == place || (r.below? place).isSome

/-- Runs until all places that the outcome depends on are read. -/
partial def settle (view : View) (read : List Path) (pending : List Path)
    (attempt : View → Outcome) : IO Outcome := do
  let mut disk := view.disk
  for place in pending do
    disk ← readPlace disk place
  let view := { view with disk }
  let read := read ++ pending
  let outcome := attempt view
  match outcome with
  | .done report =>
    match report.places.filter fun p => !isRead read p with
    | [] => return outcome
    | missing => settle view read missing attempt
  | _ => return outcome

/-- Prints an outcome. -/
def Outcome.print : Outcome → IO Unit
  | .done report => do
    IO.print report.stdout.render
    IO.eprint report.stderr
  | .misused e => IO.eprintln ("Error: " ++ e.message)
  | .failed e => IO.eprintln ("Error: " ++ e.message)

/-- The keys that are typed: those of the standard input, if a prompt is asked for. -/
def readKeys (args : List String) : IO (List Completion.Key) := do
  if args.head? = some CommandName.repl.name then
    let typed ← (← IO.getStdin).readToEnd
    return typed.toList.map fun c => .ofChar (if c = '\n' then '\r' else c)
  else return []

/-- Runs the program. -/
def runProgram (args : List String) : IO UInt32 := do
  let here := (WrittenPath.read (← IO.currentDir).toString).parts
  let home := (← IO.getEnv "HOME").getD "/"
  let surroundings : Surroundings := ⟨⟨here⟩, home, .empty⟩
  let disk ← readPlace (.blank 0) ((Path.mk here).child environmentFileName)
  let environment ← readEnvironment ((statementsIn disk ⟨here⟩).toOption.getD [])
  let keys ← readKeys args
  let view : View := ⟨disk, surroundings, ← readToday⟩
  let outcome ← settle view [] (argumentPlaces surroundings args) fun view =>
    run view environment keys args
  outcome.print
  return outcome.exitCode.toUInt32

end Daybook.Cli

/-- The entry point of the program. -/
def main (args : List String) : IO UInt32 :=
  Daybook.Cli.runProgram args
