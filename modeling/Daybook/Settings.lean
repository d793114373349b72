import Daybook.Calendar.Written
import Daybook.Log.Level
import Daybook.Text.Casing
import Daybook.Text.Trim

/-!
# Settings

The values that reading, searching and completing can be tuned by.  They come from a record of
values, which is checked strictly, or from environment variables, where a malformed value is logged
and left out.

* `Settings`: the settings; `Settings.standard`.
* `Settings.ofValues`: settings from a record of values, or all problems with it.
* `Settings.ofEnvironment`: settings from environment variables, with the warnings.
-/

namespace Daybook

open Text Number Calendar

/-- The settings. -/
structure Settings where
  maxResults : Nat
  fuzzyCacheSize : Nat
  chunkSize : Nat
  maxIncludeDepth : Nat
  dateOrder : DateOrder
  suppressMidWord : Bool
  templateCompletions : Bool
  journalExtensions : List String
  excludeDirs : List String
deriving DecidableEq, Repr

/-- The settings in the absence of any value. -/
def Settings.standard : Settings where
  maxResults := 50
  fuzzyCacheSize := 1000
  chunkSize := 1000
  maxIncludeDepth := 10
  dateOrder := .dayFirst
  suppressMidWord := true
  templateCompletions := true
  journalExtensions := [".journal", ".hledger", ".ledger"]
  excludeDirs := ["node_modules", ".git", ".vscode", "dist", "build"]

/-- A value that is offered for a setting. -/
inductive SettingValue where
  | int (n : Int)
  | bool (b : Bool)
  | text (s : String)
  | list (values : List SettingValue)
  /-- Anything else. -/
  | other
deriving Inhabited

/-- What is wrong with a value. -/
inductive SettingProblem where
  /-- The value has the right type and is refused. -/
  | refused
  | notInteger
  | notBoolean
  | notText
  | notList
  /-- The value is not one of those that are possible. -/
  | notListed
  /-- There is no such setting. -/
  | unknown
deriving DecidableEq, Repr

/-- A problem with the setting `field`, or with the element of it at an index. -/
structure SettingError where
  field : String
  index : Option Nat
  problem : SettingProblem
deriving DecidableEq, Repr

namespace Settings

/-- A positive integer. -/
def checkCount (field : String) : SettingValue → Except (List SettingError) Nat
  | .int n => if n < 1 then .error [⟨field, none, .refused⟩] else .ok n.toNat
  | _ => .error [⟨field, none, .notInteger⟩]

/-- A Boolean. -/
def checkBool (field : String) : SettingValue → Except (List SettingError) Bool
  | .bool b => .ok b
  | _ => .error [⟨field, none, .notBoolean⟩]

/-- A date order. -/
def checkOrder (field : String) : SettingValue → Except (List SettingError) DateOrder
  | .text "dmy" => .ok .dayFirst
  | .text "mdy" => .ok .monthFirst
  | _ => .error [⟨field, none, .notListed⟩]

/-- The text of a value. -/
def textOf? : SettingValue → Option String
  | .text s => some s
  | _ => none

/-- The elements of a list that are no texts. -/
def nonTexts (field : String) (values : List SettingValue) : List SettingError :=
  values.zipIdx.filterMap fun v =>
    if (textOf? v.1).isNone then some ⟨field, some v.2, .notText⟩ else none

/-- A list of texts. -/
def checkTexts (field : String) : SettingValue → Except (List SettingError) (List String)
  | .list values =>
    match nonTexts field values with
    | [] => .ok (values.filterMap textOf?)
    | problems => .error problems
  | _ => .error [⟨field, none, .notList⟩]

/-- File extensions in lower case, each with a dot in front; empty ones are left out. -/
def dotted (extensions : List String) : List String :=
  ((extensions.map fun e => lower (trim e)).filter (!·.isEmpty)).map fun e =>
    if e.toList.head? = some '.' then e else "." ++ e

/-- File extensions, of which at least one must be left. -/
def checkExtensions (field : String) (value : SettingValue) :
    Except (List SettingError) (List String) :=
  match checkTexts field value with
  | .error e => .error e
  | .ok texts =>
    match dotted texts with
    | [] => .error [⟨field, none, .refused⟩]
    | extensions => .ok extensions

/-- Sets one setting. -/
def set (s : Settings) (field : String) (value : SettingValue) :
    Except (List SettingError) Settings :=
  match field with
  | "max_results" => (checkCount field value).map fun n => { s with maxResults := n }
  | "fuzzy_cache_size" => (checkCount field value).map fun n => { s with fuzzyCacheSize := n }
  | "chunk_size" => (checkCount field value).map fun n => { s with chunkSize := n }
  | "max_include_depth" => (checkCount field value).map fun n => { s with maxIncludeDepth := n }
  | "date_order" => (checkOrder field value).map fun o => { s with dateOrder := o }
  | "suppress_mid_word" => (checkBool field value).map fun b => { s with suppressMidWord := b }
  | "template_completions" =>
    (checkBool field value).map fun b => { s with templateCompletions := b }
  | "journal_extensions" =>
    (checkExtensions field value).map fun e => { s with journalExtensions := e }
  | "exclude_dirs" => (checkTexts field value).map fun d => { s with excludeDirs := d }
  | _ => .error [⟨field, none, .unknown⟩]

/-- Sets settings one after another and collects the problems. -/
def setAll (s : Settings) : List (String × SettingValue) → Settings × List SettingError
  | [] => (s, [])
  | (field, value) :: rest =>
    match s.set field value with
    | .ok s' => setAll s' rest
    | .error problems =>
      let (s', others) := setAll s rest
      (s', problems ++ others)

/-- Whether a problem is listed before another or level with it: by field, then by index. -/
def errorLe (a b : SettingError) : Bool :=
  if a.field ≠ b.field then a.field < b.field
  else a.index.getD 0 ≤ b.index.getD 0

/-- The settings with the given values, or all problems with them. -/
def ofValues (values : List (String × SettingValue)) : Except (List SettingError) Settings :=
  match setAll standard values with
  | (s, []) => .ok s
  | (_, problems) => .error (problems.mergeSort errorLe)

/-! ## Environment variables -/

/-- The logger that warnings about settings go to. -/
def loggerName : String := "hledger_assist.config"

/-- A warning about a variable. -/
def warning (message : String) : LogRecord :=
  ⟨LogLevel.warning, loggerName, message ++ "; using default"⟩

/-- The settings that are positive integers, with their variables. -/
def countVariables : List (String × String) :=
  [("max_results", "HLA_MAX_RESULTS"), ("fuzzy_cache_size", "HLA_FUZZY_CACHE_SIZE"),
    ("chunk_size", "HLA_CHUNK_SIZE"), ("max_include_depth", "HLA_MAX_INCLUDE_DEPTH")]

/-- The settings that are Booleans, with their variables. -/
def boolVariables : List (String × String) :=
  [("suppress_mid_word", "HLA_SUPPRESS_MID_WORD"),
    ("template_completions", "HLA_TEMPLATE_COMPLETIONS")]

/-- What a variable contributes: a value for its setting, a warning, or nothing. -/
abbrev Contribution := List (String × SettingValue) × List LogRecord

/-- What the variable of a count contributes. -/
def countFrom (env : Environment) (entry : String × String) : Contribution :=
  match env.get? entry.2 with
  | none => ([], [])
  | some raw =>
    if raw.toList.all isBlank then ([], [])
    else
      match readInteger raw with
      | .error _ =>
        ([], [warning ("config:invalid_int var=" ++ entry.2 ++ " value=" ++ quoted raw)])
      | .ok n =>
        if n < 1 then
          ([], [warning ("config:non_positive var=" ++ entry.2 ++ " value=" ++ toString n)])
        else ([(entry.1, .int n)], [])

/-- The Boolean that a text stands for. -/
def readBool? (raw : String) : Option Bool :=
  let v := lower (trim raw)
  if ["1", "true", "yes", "on"].contains v then some true
  else if ["0", "false", "no", "off"].contains v then some false
  else none

/-- What the variable of a Boolean contributes. -/
def boolFrom (env : Environment) (entry : String × String) : Contribution :=
  match env.get? entry.2 with
  | none => ([], [])
  | some raw =>
    match readBool? raw with
    | none => ([], [warning ("config:invalid_bool var=" ++ entry.2 ++ " value=" ++ quoted raw)])
    | some b => ([(entry.1, .bool b)], [])

/-- What the variable of the date order contributes. -/
def orderFrom (env : Environment) : Contribution :=
  match env.get? "HLA_DATE_ORDER" with
  | none => ([], [])
  | some raw =>
    let order := lower (trim raw)
    if order = "dmy" ∨ order = "mdy" then ([("date_order", .text order)], [])
    else ([], [warning ("config:invalid_date_order value=" ++ quoted order)])

/-- What the variable of the file extensions contributes. -/
def extensionsFrom (env : Environment) : Contribution :=
  match env.get? "HLA_JOURNAL_EXTENSIONS" with
  | none => ([], [])
  | some raw =>
    if raw.toList.all isBlank then ([], [])
    else
      let parts := (splitAt ',' raw.toList).filter fun p => !p.all isBlank
      ([("journal_extensions", .list (parts.map fun p => .text (String.ofList p)))], [])

/-- The settings that environment variables ask for, and the warnings about malformed ones. -/
def ofEnvironment (env : Environment) : Except (List SettingError) Settings × List LogRecord :=
  let contributions :=
    countVariables.map (countFrom env) ++ boolVariables.map (boolFrom env) ++
      [orderFrom env, extensionsFrom env]
  (ofValues (contributions.flatMap (·.1)), contributions.flatMap (·.2))

end Settings

end Daybook
