import Daybook.Log.Level
import Daybook.Text.Letter

/-!
# Log formats

A format is a text with placeholders, such as `%(message)s`.  Behind the name of a field a
placeholder can have flags, a width, a precision and the kind of conversion; two percent signs stand
for one.

* `hasPlaceholder`: whether a text is taken as a format at all.
* `Placeholder.read?`: a placeholder that can be followed; `Placeholder.render`.
* `renderRecord`: the line of a record.
-/

namespace Daybook

open Text

/-! ## What counts as a format -/

/-- The characters that end a placeholder: letters in either case, among them the three letters
beyond ASCII whose other case is one of these, and the percent sign. -/
def conversionChars : List Char := "diouxefgcrsaDIOUXEFGCRSA%İıſ".toList

/-- The characters that can stand in front of a width. -/
def flagChars : List Char := "#0+ -".toList

/-- The characters behind the precision that a placeholder may have. -/
def dropPrecision (cs : List Char) : List Char :=
  match cs with
  | '.' :: '*' :: rest => rest
  | '.' :: rest => if rest.head?.any isDigit then rest.dropWhile isDigit else cs
  | _ => cs

/-- The characters behind the width that a placeholder may have. -/
def dropWidth : List Char → List Char
  | '*' :: rest => rest
  | cs => cs.dropWhile isDigit

/-- Whether a text starts with a placeholder: a name in parentheses behind a percent sign, and then
flags, a width, a precision and the kind of conversion. -/
def startsWithPlaceholder : List Char → Bool
  | '%' :: '(' :: rest =>
    match rest.dropWhile isWord with
    | ')' :: spec =>
      let spec := dropPrecision (dropWidth (spec.dropWhile (flagChars.contains ·)))
      rest.head?.any isWord && spec.head?.any (conversionChars.contains ·)
    | _ => false
  | _ => false

/-- Whether a text has at least one placeholder. -/
def hasPlaceholder : List Char → Bool
  | [] => false
  | c :: cs => startsWithPlaceholder (c :: cs) || hasPlaceholder cs

/-! ## Placeholders that can be followed -/

/-- The parts of a record that a placeholder can name. -/
inductive RecordField where
  | levelName
  | loggerName
  | message
deriving DecidableEq, Repr

/-- The field with a name. -/
def RecordField.ofName? (name : List Char) : Option RecordField :=
  if name = "levelname".toList then some levelName
  else if name = "name".toList then some loggerName
  else if name = "message".toList then some message
  else none

/-- The text of a field. -/
def RecordField.text (r : LogRecord) : RecordField → String
  | levelName => LogLevel.name r.level
  | loggerName => r.logger
  | message => r.message

/-- How the text of a field is shown. -/
inductive Conversion where
  | plain
  | quoted
  /-- Quoted, in ASCII characters only. -/
  | quotedPlainly
  /-- As it is, if it is a single character. -/
  | single
deriving DecidableEq, Repr

/-- The conversion that a letter asks for. -/
def Conversion.ofChar? : Char → Option Conversion
  | 's' => some plain
  | 'r' => some quoted
  | 'a' => some quotedPlainly
  | 'c' => some single
  | _ => none

/-- A placeholder that can be followed. -/
structure Placeholder where
  field : RecordField
  conversion : Conversion
  leftAligned : Bool
  width : Nat
  /-- How many characters are shown at most. -/
  precision : Option Nat
deriving DecidableEq, Repr

namespace Placeholder

/-- The number in front of a text, and what follows it; without digits it is nought. -/
def readNumber (cs : List Char) : Nat × List Char :=
  (Number.ofDigits ((cs.takeWhile Char.isDigit).map fun c => c.toNat - '0'.toNat),
    cs.dropWhile Char.isDigit)

/-- The precision in front of a text, and what follows it. -/
def readPrecision : List Char → Option Nat × List Char
  | '.' :: rest => ((readNumber rest).1, (readNumber rest).2)
  | cs => (none, cs)

/-- The characters without the size letter that may stand before a conversion. -/
def dropSize : List Char → List Char
  | [] => []
  | c :: rest => if c = 'h' || c = 'l' || c = 'L' then rest else c :: rest

/-- The placeholder of a field, read from what follows its name, and what follows it. -/
def readSpec? (field : RecordField) (cs : List Char) : Option (Placeholder × List Char) :=
  let flags := cs.takeWhile (flagChars.contains ·)
  let (width, rest) := readNumber (cs.dropWhile (flagChars.contains ·))
  let (precision, rest) := readPrecision rest
  match dropSize rest with
  | [] => none
  | c :: rest =>
    (Conversion.ofChar? c).map fun conversion =>
      (⟨field, conversion, flags.contains '-', width, precision⟩, rest)

/-- The placeholder in front of a text, and what follows it. -/
def read? : List Char → Option (Placeholder × List Char)
  | '%' :: '(' :: rest =>
    match rest.dropWhile (· != ')') with
    | [] => none
    | _ :: spec =>
      (RecordField.ofName? (rest.takeWhile (· != ')'))).bind fun field => readSpec? field spec
  | _ => none

/-- A text filled with spaces to the width. -/
def pad (p : Placeholder) (cs : List Char) : List Char :=
  let fill := List.replicate (p.width - cs.length) ' '
  if p.leftAligned then cs ++ fill else fill ++ cs

/-- What is shown for a placeholder; `none` if the text of the field cannot be shown so. -/
def render (p : Placeholder) (r : LogRecord) : Option (List Char) :=
  let text := p.field.text r
  let cut := fun (s : String) =>
    match p.precision with
    | none => s.toList
    | some n => s.toList.take n
  match p.conversion with
  | .plain => some (p.pad (cut text))
  | .quoted => some (p.pad (cut (Text.quoted text)))
  | .quotedPlainly => some (p.pad (cut (Text.quotedPlainly text)))
  | .single => if text.length = 1 then some (p.pad text.toList) else none

end Placeholder

/-! ## Lines -/

/-- A record in a format; `none` if the format cannot be followed.  Every piece takes at least one
character of the format, so `fuel` characters are enough. -/
def renderFormat (r : LogRecord) : Nat → List Char → Option (List Char)
  | _, [] => some []
  | 0, _ => none
  | fuel + 1, c :: cs =>
    match Placeholder.read? (c :: cs) with
    | some (p, rest) => do return (← p.render r) ++ (← renderFormat r fuel rest)
    | none =>
      if c = '%' then
        match cs with
        | '%' :: rest => (renderFormat r fuel rest).map ('%' :: ·)
        | _ => none
      else (renderFormat r fuel cs).map (c :: ·)

/-- The line of a record in a format; nothing if the format cannot be followed. -/
def renderRecord (format : String) (r : LogRecord) : String :=
  match renderFormat r format.length format.toList with
  | none => ""
  | some cs => String.ofList (cs ++ ['\n'])

end Daybook
