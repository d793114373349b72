import Daybook.Cli.Command
import Daybook.Cli.EnvironmentFile
import Daybook.Cli.JsonValue
import Daybook.Completion.Prompt
import Daybook.Log
import Daybook.Project.Summary

/-!
# The program

* `Report`: what a run prints, and its exit code.
* `Failure`: what ends a run without a report.
* `execute`: the outcome of a command.
* `run`: the outcome of a run with given arguments.
-/

namespace Daybook.Cli

open Text Calendar Completion Search Template Project

/-- What is printed. -/
inductive Output where
  | text (s : String)
  | json (v : JsonValue)

/-- The text that is printed. -/
def Output.render : Output → String
  | text s => s
  | json v => v.render ++ "\n"

/-- What a run prints, and its exit code. -/
structure Report where
  exitCode : Nat
  stdout : Output
  stderr : String
  /-- The places on the disk that the report depends on. -/
  places : List Path

/-- What ends a run without a report. -/
inductive Failure where
  | environment (cause : EnvironmentError)
  | settings (problems : List SettingError)
  | log (cause : LogError)
  | path (place : WrittenPath) (cause : DiskError)
  | project (cause : ProjectError)
  | calendar (cause : CalendarError)
  | matcher (cause : MatchError)

/-- The wording of a failure. -/
def Failure.message : Failure → String
  | environment cause => cause.message
  | settings problems => "invalid settings: " ++ ", ".intercalate (problems.map (·.field))
  | log cause => cause.message
  | path place cause => cause.message place.text
  | project cause => cause.message
  | calendar cause => cause.message
  | matcher cause => cause.message

/-- What a run comes to. -/
inductive Outcome where
  | done (report : Report)
  /-- The arguments ask for nothing. -/
  | misused (cause : UsageError)
  | failed (cause : Failure)

/-- The exit code of a run. -/
def Outcome.exitCode : Outcome → Nat
  | done report => report.exitCode
  | misused _ => 2
  | failed _ => 1

/-- A message on the error stream, and the exit code 1. -/
def refusal (message : String) : Outcome :=
  .done ⟨1, .text "", "Error: " ++ message ++ "\n", []⟩

/-- What a run works with. -/
structure Workspace where
  view : View
  environment : Environment

/-- The settings that the environment asks for. -/
def Workspace.settings (w : Workspace) : Except Outcome Settings :=
  match (Settings.ofEnvironment w.environment).1 with
  | .ok s => .ok s
  | .error problems => .error (.failed (.settings problems))

/-- The entry of a journal, or of all journals below a directory.  A file that is missing or is no
text is reported. -/
def loadEntry (w : Workspace) (path : WrittenPath) : Except Outcome Entry := do
  let settings ← w.settings
  let cache := Cache.start settings
  let answer ←
    match w.view.disk.holdsDirectory (w.view.surroundings.startOf path) path with
    | .ok true => pure (cache.workspace w.view none path)
    | .ok false => pure (cache.get w.view none path)
    | .error e => throw (.failed (.path path e))
  match answer.result with
  | .ok (entry, _) => return entry
  | .error (.unreadable _ .notFound) => throw (refusal ("File not found: " ++ path.text))
  | .error (.unreadable _ (.notText fault)) =>
    throw (refusal (path.text ++ " is not valid UTF-8: " ++ fault.message))
  | .error e => throw (.failed (.project e))

/-- A successful report about an entry. -/
def reportOn (entry : Entry) (output : Output) : Outcome :=
  .done ⟨0, output, "", entry.times.keys⟩

/-- Lines, each with its line break. -/
def unlines (lines : List String) : String :=
  String.join (lines.map (· ++ "\n"))

/-! ## Summaries and queries -/

/-- A summary as JSON. -/
def summaryJson (s : Summary) : JsonValue :=
  .record
    [("path", .text s.path), ("transactions", .int s.transactions),
      ("defined_accounts", .texts s.definedAccounts), ("used_accounts", .texts s.usedAccounts),
      ("payees", .texts s.payees), ("commodities", .texts s.commodities), ("tags", .texts s.tags),
      ("default_commodity", .optional s.defaultCommodity),
      ("decimal_mark", .optional s.decimalMark),
      ("last_date", .optional (s.lastDate.map (·.iso))), ("warnings", .texts s.warnings)]

/-- A template as JSON. -/
def templateJson (data : Snapshot) (t : Template) : JsonValue :=
  .record
    [("payee", .text t.payee), ("accounts", .texts (t.postings.map (·.account))),
      ("usage_count", .int t.usageCount), ("recent_count", .int (data.recentCount t)),
      ("last_used_date", .text t.lastUsed.iso)]

/-- What a query lists, or which option is missing. -/
def answerQuery (data : Snapshot) (kind : QueryKind) (key payee : Option String) :
    Except Outcome Output :=
  let names := fun l => .ok (.text (unlines l))
  match kind with
  | .accounts => names data.allAccounts
  | .definedAccounts => names data.definedAccounts
  | .usedAccounts => names data.usedAccounts
  | .payees => names data.payeeNames
  | .commodities => names data.commodityNames
  | .tags => names data.tagKeys
  | .lastDate => names (data.lastDate.map (·.iso)).toList
  | .tagValues =>
    match key.filter (!·.isEmpty) with
    | none => .error (refusal "--key is required for tag-values")
    | some key => names (data.tagValueNames key)
  | .templates =>
    match payee.filter (!·.isEmpty) with
    | none => .error (refusal "--payee is required for templates")
    | some payee => .ok (.json (.list ((data.templatesFor payee).map (templateJson data))))

/-! ## Completion -/

/-- A suggestion as JSON. -/
def itemJson (i : Item) : JsonValue :=
  .record
    [("label", .text i.label), ("kind", .text i.kind.name), ("insert_text", .text i.insertText),
      ("replace_start", .int i.replaceStart), ("score", .real i.score),
      ("sort_key", .text i.sortKey), ("detail", .optional i.detail)]

/-- A suggestion as a line with tabs between its fields. -/
def itemLine (i : Item) : String :=
  let label := String.ofList (i.label.toList.flatMap fun c => if c = '\n' then ['\\', 'n'] else [c])
  i.kind.name ++ "\t" ++ label ++ "\t" ++ i.detail.getD ""

/-- An engine for an entry, and its matcher. -/
def engineFor (w : Workspace) (entry : Entry) : Except Outcome (Engine × Matcher) := do
  let settings ← w.settings
  match Engine.matcherFor settings with
  | .ok m => return (.start settings entry.data, m)
  | .error e => throw (.failed (.matcher e))

/-- The outcome of a request for suggestions that is refused. -/
def refusedCompletion : CompletionError → Outcome
  | .column e => refusal e.message
  | .calendar .overflow => .failed (.calendar .overflow)
  | .calendar e => refusal e.message

/-- The suggestions at a column of a line. -/
def completeLine (w : Workspace) (entry : Entry) (line : String) (column : Option Int)
    (payee : Option String) : Except Outcome (List Item) := do
  let (engine, matcher) ← engineFor w entry
  let cs := line.toList
  let request : Request := ⟨cs, column.getD cs.length, payee, w.view.today⟩
  match (engine.complete matcher request).1 with
  | .ok items => return items
  | .error e => throw (refusedCompletion e)

/-- The place at a column of a line. -/
def classifyLine (line : String) (column : Option Int) : Outcome :=
  let cs := line.toList
  match analyze cs (column.getD cs.length) with
  | .error e => refusal e.message
  | .ok position =>
    let domain := (position.context.domain?.map (·.name)).getD "-"
    .done ⟨0, .text (position.context.name ++ "\t" ++ domain ++ "\n"), "", []⟩

/-- The payee that a line names, if it starts a transaction; an empty one counts as none. -/
def payeeOfLine? (line : String) : Option (Option String) :=
  (afterDatePattern.match? line.toList).map fun found =>
    let payee := trimChars ((found.textD .payee).takeWhile (· != '|'))
    if payee.isEmpty then none else some (String.ofList payee)

/-- The lines that keys type at a prompt, until the input ends.  The payee of the last transaction
ranks the accounts of its postings.  Every line takes at least one key, so `fuel` keys are enough. -/
def promptLines (today : Date) (e : Engine) (m : Matcher) (payee : Option String)
    (keys : List Key) : Nat → List String
  | 0 => []
  | fuel + 1 =>
    match readLine e m payee today [] keys with
    | (.line text, keys, e, m) =>
      text :: promptLines today e m ((payeeOfLine? text).getD payee) keys fuel
    | _ => []

/-! ## Runs -/

/-- The outcome of a command, or what stops it. -/
def executeM (w : Workspace) (keys : List Key) : Command → Except Outcome Outcome
  | .summary path => do
    let entry ← loadEntry w path
    return reportOn entry (.json (summaryJson (.ofEntry entry)))
  | .query kind path key payee => do
    let entry ← loadEntry w path
    return reportOn entry (← answerQuery entry.data kind key payee)
  | .classify line column => return classifyLine line column
  | .complete path line column payee asJson => do
    let entry ← loadEntry w path
    let items ← completeLine w entry line column payee
    return reportOn entry
      (if asJson then .json (.list (items.map itemJson)) else .text (unlines (items.map itemLine)))
  | .repl path => do
    let entry ← loadEntry w path
    let (engine, matcher) ← engineFor w entry
    return reportOn entry
      (.text (unlines (promptLines w.view.today engine matcher none keys keys.length)))

/-- The outcome of a command. -/
def execute (w : Workspace) (keys : List Key) (command : Command) : Outcome :=
  match executeM w keys command with
  | .ok outcome => outcome
  | .error outcome => outcome

/-- The report of a run without a command. -/
def noCommand : Outcome :=
  .done ⟨1, .text "No subcommand provided. Use --help to see available commands.\n", "", []⟩

/-- The outcome with warnings in front of what is on the error stream. -/
def Outcome.withWarnings (warnings : List String) : Outcome → Outcome
  | done report => .done { report with stderr := unlines warnings ++ report.stderr }
  | outcome => outcome

/-- The outcome of a run in an environment: the log is configured, and then the command is read and
carried out. -/
def runCommand (w : Workspace) (keys : List Key) (name : Option (CommandName × List String)) :
    Outcome :=
  match (PackageLogger.initial.configure w.environment "stderr" .unset none).2 with
  | some e => .failed (.log e)
  | none =>
    match name with
    | none => noCommand
    | some (name, args) =>
      match name.read args with
      | .error e => .misused e
      | .ok command => execute w keys command

/-- The outcome of a run: the name of the command is looked up, the environment file is read, and
then the command is carried out. -/
def run (view : View) (environment : Environment) (keys : List Key) (args : List String) :
    Outcome :=
  match readName args with
  | .error e => .misused e
  | .ok name =>
    match withEnvironmentFile view.disk view.surroundings.workingDirectory environment with
    | .error e => .failed (.environment e)
    | .ok (environment, warnings) =>
      (runCommand ⟨view, environment⟩ keys name).withWarnings warnings

end Daybook.Cli
