import Daybook.Log.Format

/-!
# The log

The package writes to one logger and the loggers below it.  As long as nobody configures it, the
logger is silent.  Configuring it attaches one stream; it can be reset and configured again.

* `PackageLogger`: the state of the package's logger; `PackageLogger.initial`.
* `PackageLogger.configure`, `PackageLogger.reset`, `PackageLogger.getLogger`, `PackageLogger.log`.
-/

namespace Daybook

open Text Number

/-! ## The logger -/

/-- Where records go. -/
inductive LogHandler where
  /-- Nowhere. -/
  | silent
  /-- To a stream, from a level on. -/
  | stream (name : String) (level : Int) (format : String)
deriving DecidableEq, Repr

/-- The state of the package's logger, with all that was written to streams. -/
structure PackageLogger where
  level : Int
  /-- Whether records also go to the loggers above. -/
  propagate : Bool
  handlers : List LogHandler
  /-- The handler that configuring attached. -/
  configured : Option LogHandler
  streams : Table String String
deriving DecidableEq, Repr

/-- Why configuring fails. -/
inductive LogError where
  | badLevel (cause : IntegerError)
  /-- The format has no placeholder. -/
  | badFormat (format : String)
deriving DecidableEq, Repr

/-- The wording of an error. -/
def LogError.message : LogError → String
  | badLevel cause => cause.message
  | badFormat format => "Invalid format '" ++ format ++ "' for '%' style"

namespace PackageLogger

/-- The name of the package's logger. -/
def packageName : String := "hledger_assist"

/-- The variable that holds the format. -/
def formatVariable : String := "HLEDGER_ASSIST_LOG_FORMAT"

/-- The format in the absence of any other. -/
def standardFormat : String := "%(asctime)s %(name)s %(levelname)s %(message)s"

/-- A logger that nobody configured. -/
def initial : PackageLogger := ⟨0, true, [.silent], none, .empty⟩

/-- The format of a request: its own, that of the environment, or the standard one. -/
def formatOf (env : Environment) (format : Option String) : String :=
  let candidates := [format, env.get? formatVariable].filterMap fun f =>
    f.filter fun text => !text.isEmpty
  candidates.headD standardFormat

/-- Attaches a stream, unless one is attached.  When the request fails, the logger is left without
its silent handlers. -/
def configure (l : PackageLogger) (env : Environment) (stream : String)
    (level : LogLevel.Request) (format : Option String) :
    PackageLogger × Option LogError :=
  let l := { l with streams := l.streams.insertNew stream "" }
  if l.configured.isSome then (l, none)
  else
    let l := { l with handlers := l.handlers.filter (· != .silent) }
    match LogLevel.read env level with
    | .error e => (l, some (.badLevel e))
    | .ok resolved =>
      let text := formatOf env format
      if !hasPlaceholder text.toList then (l, some (.badFormat text))
      else
        let handler := LogHandler.stream stream resolved text
        ({ l with
            level := resolved
            propagate := false
            handlers := l.handlers ++ [handler]
            configured := some handler }, none)

/-- Detaches the stream. -/
def reset (l : PackageLogger) : PackageLogger :=
  { l with
    level := 0
    propagate := true
    handlers :=
      match l.configured with
      | none => l.handlers
      | some h => l.handlers.erase h
    configured := none }

/-- Asks for a logger; a package logger without any handler gets a silent one. -/
def getLogger (l : PackageLogger) : PackageLogger :=
  if l.configured.isNone && l.handlers.isEmpty then { l with handlers := [.silent] } else l

/-- Whether a logger is the package's own or below it. -/
def isPackageLogger (name : String) : Bool :=
  name = packageName || (packageName ++ ".").toList.isPrefixOf name.toList

/-- The level from which on records are taken. -/
def effectiveLevel (l : PackageLogger) : Int :=
  if l.level = 0 then LogLevel.rootLevel else l.level

/-- Writes a record to a handler. -/
def write (r : LogRecord) (l : PackageLogger) (h : LogHandler) : PackageLogger :=
  match h with
  | .silent => l
  | .stream name level format =>
    if level ≤ r.level then
      { l with streams := l.streams.alter name fun old => old.getD "" ++ renderRecord format r }
    else l

/-- Logs a record.  A record of level nought or below is never taken. -/
def log (l : PackageLogger) (r : LogRecord) : PackageLogger :=
  let l := l.getLogger
  if isPackageLogger r.logger && 0 < r.level && l.effectiveLevel ≤ r.level then
    l.handlers.foldl (write r) l
  else l

end PackageLogger

end Daybook
