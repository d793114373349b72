import Daybook.Disk.Path
import Daybook.Number.Lenient

/-!
# Commands

* `Command`: what the program can be asked to do.
* `scan`: arguments, told apart into options and the rest.
* `CommandName.read`: the command that the arguments behind its name ask for.
-/

namespace Daybook.Cli

open Number

/-- What `query` lists. -/
inductive QueryKind where
  | accounts
  | definedAccounts
  | usedAccounts
  | payees
  | commodities
  | tags
  | tagValues
  | templates
  | lastDate
deriving DecidableEq, Repr

/-- The name of a kind. -/
def QueryKind.name : QueryKind → String
  | accounts => "accounts"
  | definedAccounts => "defined-accounts"
  | usedAccounts => "used-accounts"
  | payees => "payees"
  | commodities => "commodities"
  | tags => "tags"
  | tagValues => "tag-values"
  | templates => "templates"
  | lastDate => "last-date"

/-- The kind with a name. -/
def QueryKind.ofName? (name : String) : Option QueryKind :=
  [accounts, definedAccounts, usedAccounts, payees, commodities, tags, tagValues, templates,
    lastDate].find? fun kind => kind.name = name

/-- The names of commands. -/
inductive CommandName where
  | summary
  | query
  | classify
  | complete
  | repl
deriving DecidableEq, Repr

/-- The text of a name. -/
def CommandName.name : CommandName → String
  | summary => "summary"
  | query => "query"
  | classify => "classify"
  | complete => "complete"
  | repl => "repl"

/-- All names. -/
def CommandName.all : List CommandName :=
  [summary, query, classify, complete, repl]

/-- What the program can be asked to do. -/
inductive Command where
  /-- An overview of a journal, or of all journals below a directory. -/
  | summary (path : WrittenPath)
  /-- A list of names or templates. -/
  | query (kind : QueryKind) (path : WrittenPath) (key payee : Option String)
  /-- The place at a column of a line. -/
  | classify (line : String) (column : Option Int)
  /-- The suggestions at a column of a line. -/
  | complete (path : WrittenPath) (line : String) (column : Option Int) (payee : Option String)
      (asJson : Bool)
  /-- A prompt for lines, with completion. -/
  | repl (path : WrittenPath)
deriving DecidableEq, Repr

/-- Why arguments ask for nothing. -/
inductive UsageError where
  | noArguments
  | unknownCommand (name : String)
  | unknownOption (name : String)
  | missingValue (option : String)
  | unexpectedValue (option : String)
  | missingArgument
  | unexpectedArgument (argument : String)
  | unknownKind (name : String)
  | notInteger (text : String)
deriving DecidableEq, Repr

/-- The wording of an error. -/
def UsageError.message : UsageError → String
  | noArguments => "Missing command."
  | unknownCommand name => "No such command: " ++ name
  | unknownOption name => "No such option: " ++ name
  | missingValue option => "Option " ++ option ++ " requires an argument."
  | unexpectedValue option => "Option " ++ option ++ " does not take a value."
  | missingArgument => "Missing argument."
  | unexpectedArgument argument => "Got unexpected extra argument: " ++ argument
  | unknownKind name => "No such kind: " ++ name
  | notInteger text => "Not a valid integer: " ++ text

/-! ## Arguments -/

/-- Arguments, told apart. -/
structure Scanned where
  positional : List String
  /-- The options that have a value. -/
  values : Table String String
  /-- The options that have none. -/
  flags : List String
deriving DecidableEq, Repr

/-- The options of a command. -/
structure OptionNames where
  withValue : List String
  flags : List String

/-- Whether an argument is an option: a hyphen with something behind it. -/
def isOption (arg : String) : Bool :=
  match arg.toList with
  | '-' :: _ :: _ => true
  | _ => false

/-- The name of an option, and the value behind an equals sign. -/
def splitOption (arg : String) : String × Option String :=
  let cs := arg.toList
  let name := String.ofList (cs.takeWhile (· != '='))
  match cs.dropWhile (· != '=') with
  | [] => (name, none)
  | _ :: value => (name, some (String.ofList value))

/-- Adds the value of an option in front of others; a later value of the same option wins. -/
def Scanned.addValue (s : Scanned) (name value : String) : Scanned :=
  { s with values := s.values.insertNew name value }

/-- Tells options and other arguments apart.  Behind two hyphens nothing is an option. -/
def scan (names : OptionNames) : List String → Except UsageError Scanned
  | [] => .ok ⟨[], .empty, []⟩
  | arg :: rest =>
    if arg = "--" then .ok ⟨rest, .empty, []⟩
    else if isOption arg then
      match splitOption arg with
      | (name, explicit) =>
        if names.flags.contains name then
          if explicit.isSome then .error (.unexpectedValue name)
          else (scan names rest).map fun s => { s with flags := name :: s.flags }
        else if names.withValue.contains name then
          match explicit, rest with
          | some value, rest => (scan names rest).map (·.addValue name value)
          | none, [] => .error (.missingValue name)
          | none, value :: rest => (scan names rest).map (·.addValue name value)
        else .error (.unknownOption name)
    else (scan names rest).map fun s => { s with positional := arg :: s.positional }

/-- An integer. -/
def readColumn (text : String) : Except UsageError Int :=
  match readLenient? text with
  | some n => .ok n
  | none => .error (.notInteger text)

/-- An integer, if there is a text. -/
def readColumn? : Option String → Except UsageError (Option Int)
  | none => .ok none
  | some text => (readColumn text).map some

/-- The options of a command. -/
def CommandName.options : CommandName → OptionNames
  | query => ⟨["--key", "--payee"], []⟩
  | complete => ⟨["--column", "--payee"], ["--json"]⟩
  | _ => ⟨[], []⟩

/-- The command that told-apart arguments ask for. -/
def CommandName.ofScanned (name : CommandName) (s : Scanned) : Except UsageError Command :=
  match name, s.positional with
  | .summary, [path] => .ok (.summary (.read path))
  | .repl, [path] => .ok (.repl (.read path))
  | .classify, [line] => .ok (.classify line none)
  | .classify, [line, column] => (readColumn column).map fun n => .classify line (some n)
  | .query, [kind, path] =>
    match QueryKind.ofName? kind with
    | none => .error (.unknownKind kind)
    | some k => .ok (.query k (.read path) (s.values.get? "--key") (s.values.get? "--payee"))
  | .complete, [path, line] =>
    (readColumn? (s.values.get? "--column")).map fun column =>
      .complete (.read path) line column (s.values.get? "--payee") (s.flags.contains "--json")
  | .classify, _ :: _ :: extra :: _ => .error (.unexpectedArgument extra)
  | .query, _ :: _ :: extra :: _ => .error (.unexpectedArgument extra)
  | .complete, _ :: _ :: extra :: _ => .error (.unexpectedArgument extra)
  | .summary, _ :: extra :: _ => .error (.unexpectedArgument extra)
  | .repl, _ :: extra :: _ => .error (.unexpectedArgument extra)
  | _, _ => .error .missingArgument

/-- The command that the arguments behind its name ask for. -/
def CommandName.read (name : CommandName) (args : List String) : Except UsageError Command :=
  match scan name.options args with
  | .error e => .error e
  | .ok s => name.ofScanned s

/-- The command with a name, and the arguments behind it. -/
def readNamed (name : String) (args : List String) :
    Except UsageError (Option (CommandName × List String)) :=
  match CommandName.all.find? fun c => c.name = name with
  | none => .error (.unknownCommand name)
  | some c => .ok (some (c, args))

/-- The name of the command and the arguments behind it; `none` if two hyphens stand alone. -/
def readName : List String → Except UsageError (Option (CommandName × List String))
  | [] => .error .noArguments
  | first :: rest =>
    if first = "--" then
      match rest with
      | [] => .ok none
      | name :: args => readNamed name args
    else if isOption first then .error (.unknownOption first)
    else readNamed first rest

end Daybook.Cli
