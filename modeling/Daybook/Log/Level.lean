import Daybook.Number.Integer
import Daybook.Table

/-!
# Log levels

A record has a level, which is a number; some levels have names.

* `LogRecord`: a message with its level and its logger.
* `LogLevel.name`: the name of a level.
* `LogLevel.read`: the level that a number, a name or the environment asks for.
-/

namespace Daybook

open Text Number

/-- A message that was logged. -/
structure LogRecord where
  level : Int
  logger : String
  message : String
deriving DecidableEq, Repr

/-- The names of environment variables with their values. -/
abbrev Environment := Table String String

namespace LogLevel

/-- The levels that have a name, the name in use first. -/
def named : List (String × Int) :=
  [("CRITICAL", 50), ("FATAL", 50), ("ERROR", 40), ("WARNING", 30), ("WARN", 30), ("INFO", 20),
    ("DEBUG", 10), ("NOTSET", 0)]

/-- The level of a warning. -/
def warning : Int := 30

/-- The level in the absence of any other. -/
def info : Int := 20

/-- The level below which loggers without a level of their own stay silent. -/
def rootLevel : Int := 30

/-- The name of a level. -/
def name (level : Int) : String :=
  match named.find? fun e => e.2 = level with
  | some e => e.1
  | none => "Level " ++ toString level

/-- The upper-case form of a character, for the characters whose upper-case form is made of ASCII
letters; other characters stay. -/
def upperChar (c : Char) : List Char :=
  if c.toNat < 128 then [c.toUpper]
  else
    match c with
    | 'ß' => ['S', 'S']
    | 'ı' => ['I']
    | 'ſ' => ['S']
    | 'ﬀ' => ['F', 'F']
    | 'ﬁ' => ['F', 'I']
    | 'ﬂ' => ['F', 'L']
    | 'ﬃ' => ['F', 'F', 'I']
    | 'ﬄ' => ['F', 'F', 'L']
    | 'ﬅ' => ['S', 'T']
    | 'ﬆ' => ['S', 'T']
    | _ => [c]

/-- The level that a text asks for: a number, or a name in any case.  Anything else asks for the
usual level. -/
def ofText (text : String) : Except IntegerError Int :=
  let cs := (trimChars text.toList).flatMap upperChar
  let s := String.ofList cs
  if !cs.isEmpty && cs.all isDigitSign then readInteger s
  else
    match named.find? fun e => e.1 = s with
    | some e => .ok e.2
    | none => .ok info

/-- The level that a request asks for. -/
inductive Request where
  | number (level : Int)
  | text (level : String)
  /-- No level; then the environment decides. -/
  | unset
deriving DecidableEq, Repr

/-- The variable that holds the level. -/
def variableName : String := "HLEDGER_ASSIST_LOG_LEVEL"

/-- The level of a request. -/
def read (env : Environment) : Request → Except IntegerError Int
  | .number level => .ok level
  | .text level => ofText level
  | .unset =>
    match env.get? variableName with
    | none => .ok info
    | some text => if text.isEmpty then .ok info else ofText text

end LogLevel

end Daybook
