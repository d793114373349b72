import Daybook.Number.Decimal

/-!
# JSON output

* `JsonValue`: what is printed as JSON.
* `JsonValue.render`: the text of a value, two more spaces to the left of each deeper level.
-/

namespace Daybook.Cli

open Number

/-- A value that is printed as JSON. -/
inductive JsonValue where
  | null
  | int (n : Int)
  /-- A number that need not be an integer. -/
  | real (r : Rat)
  | text (s : String)
  | list (values : List JsonValue)
  | record (fields : List (String × JsonValue))

namespace JsonValue

/-- A text or nothing. -/
def optional : Option String → JsonValue
  | none => null
  | some s => text s

/-- A list of texts. -/
def texts (l : List String) : JsonValue :=
  list (l.map text)

/-- The hexadecimal digits of a character code below 256, filled to four. -/
def hexCode (n : Nat) : List Char :=
  ['0', '0'] ++ Nat.toDigits 16 (n / 16) ++ Nat.toDigits 16 (n % 16)

/-- A character inside a JSON text.  Quotes, backslashes and control characters are escaped. -/
def escaped (c : Char) : List Char :=
  if c = '"' then ['\\', '"']
  else if c = '\\' then ['\\', '\\']
  else if c = '\n' then ['\\', 'n']
  else if c = '\r' then ['\\', 'r']
  else if c = '\t' then ['\\', 't']
  else if c.toNat = 8 then ['\\', 'b']
  else if c.toNat = 12 then ['\\', 'f']
  else if c.toNat < 32 then ['\\', 'u'] ++ hexCode c.toNat
  else [c]

/-- A text in quotes. -/
def quoted (s : String) : String :=
  String.ofList ('"' :: s.toList.flatMap escaped ++ ['"'])

/-- The number of decimal places of a number that need not be an integer. -/
def realPlaces : Nat := 6

/-- Lines between brackets, at a depth; without lines the brackets stand together. -/
def bracketed (opening closing : String) (depth : Nat) (lines : List String) : String :=
  if lines.isEmpty then opening ++ closing
  else
    let pad := fun n => String.ofList (List.replicate (2 * n) ' ')
    let inner := lines.map fun l => pad (depth + 1) ++ l
    opening ++ "\n" ++ ",\n".intercalate inner ++ "\n" ++ pad depth ++ closing

mutual

/-- The text of a value at a depth. -/
def renderAt (depth : Nat) : JsonValue → String
  | null => "null"
  | int n => toString n
  | real r => fixedPlaces realPlaces r
  | text s => quoted s
  | list values => bracketed "[" "]" depth (renderAll (depth + 1) values)
  | record fields => bracketed "\x7b" "\x7d" depth (renderFields (depth + 1) fields)

/-- The texts of values at a depth. -/
def renderAll (depth : Nat) : List JsonValue → List String
  | [] => []
  | v :: rest => renderAt depth v :: renderAll depth rest

/-- The texts of fields at a depth, each with its name. -/
def renderFields (depth : Nat) : List (String × JsonValue) → List String
  | [] => []
  | (name, v) :: rest => (quoted name ++ ": " ++ renderAt depth v) :: renderFields depth rest

end

/-- The text of a value. -/
def render (v : JsonValue) : String :=
  v.renderAt 0

end JsonValue

end Daybook.Cli
