import Daybook.Text.Trim

/-!
# The text of an environment file

A text sets variables by statements `NAME=value`.  A value can be quoted, and then go over several
lines; a statement can start with the word `export`, and a comment can stand behind it.  A statement
that is not understood is left out with the rest of its line.

* `Statement`: what a statement says.
* `readKey`, `readValue`, `readStatement`: its parts and the whole; a reader that fails gives the
  text it failed at.
* `readStatements`: the statements of a text.
-/

namespace Daybook.Cli

open Text

/-- What a statement says. -/
inductive Statement where
  /-- Nothing. -/
  | blank
  /-- A variable, with a value unless it is only named. -/
  | binding (key : String) (value : Option String)
  /-- Something that is not understood; the statement starts on a line, counted from one. -/
  | malformed (line : Nat)
deriving DecidableEq, Repr

/-- What a reader takes off the front of a text and what it leaves, or the text it fails at. -/
abbrev Taken (α : Type) := Except (List Char) (α × List Char)

/-- Whether a character is blank and breaks no line. -/
def isInlineBlank (c : Char) : Bool :=
  isBlank c && c != '\n' && c != '\r'

/-- The characters without inline blanks in front. -/
def dropInlineBlanks (cs : List Char) : List Char :=
  cs.dropWhile isInlineBlank

/-- The word that may stand in front of a statement. -/
def exportWord : List Char := "export".toList

/-- A statement without the word in front of it. -/
def dropExport (cs : List Char) : List Char :=
  let rest := cs.drop exportWord.length
  if exportWord.isPrefixOf cs && rest.head?.any isInlineBlank then dropInlineBlanks rest else cs

/-! ## Keys -/

/-- Whether a key that is not quoted can hold a character. -/
def isKeyChar (c : Char) : Bool :=
  c != '=' && c != '#' && !isBlank c

/-- The key of a statement: quoted or plain, or none if there is only a comment. -/
def readKey (cs : List Char) : Taken (Option String) :=
  match cs with
  | '#' :: _ => .ok (none, cs)
  | '\'' :: rest =>
    let key := rest.takeWhile (· != '\'')
    match rest.dropWhile (· != '\'') with
    | [] => .error cs
    | _ :: after => if key.isEmpty then .error cs else .ok (some (String.ofList key), after)
  | _ =>
    let key := cs.takeWhile isKeyChar
    if key.isEmpty then .error cs
    else .ok (some (String.ofList key), cs.dropWhile isKeyChar)

/-! ## Values -/

/-- What stands in front of the closing quote, and what follows.  A backslash takes the character
behind it along, so a quote there does not close. -/
def splitAtClosingQuote? (quote : Char) : List Char → Option (List Char × List Char)
  | [] => none
  | [c] => if c = quote then some ([], []) else none
  | c :: d :: rest =>
    if c = quote then some ([], d :: rest)
    else if c = '\\' then (splitAtClosingQuote? quote rest).map fun r => (c :: d :: r.1, r.2)
    else (splitAtClosingQuote? quote (d :: rest)).map fun r => (c :: r.1, r.2)

/-- What a backslash and a character stand for inside quotes of a kind. -/
def escapeOf? (quote c : Char) : Option Char :=
  if c = '\\' || c = '\'' then some c
  else if quote = '\'' then none
  else
    match c with
    | '"' => some '"'
    | 'a' => some '\x07'
    | 'b' => some '\x08'
    | 'f' => some '\x0c'
    | 'n' => some '\n'
    | 'r' => some '\r'
    | 't' => some '\t'
    | 'v' => some '\x0b'
    | _ => none

/-- The text that the inside of quotes stands for. -/
def unescape (quote : Char) : List Char → List Char
  | [] => []
  | [c] => [c]
  | c :: d :: rest =>
    match if c = '\\' then escapeOf? quote d else none with
    | some e => e :: unescape quote rest
    | none => c :: unescape quote (d :: rest)

/-- A value without the comment behind it, which starts with a number sign behind a blank. -/
def cutComment : List Char → List Char
  | [] => []
  | c :: rest =>
    if isBlank c && (rest.dropWhile isBlank).head? == some '#' then [] else c :: cutComment rest

/-- Whether a character is in a line. -/
def isInLine (c : Char) : Bool :=
  c != '\n' && c != '\r'

/-- The value behind the opening quote. -/
def readQuoted (quote : Char) (cs : List Char) : Option (String × List Char) :=
  (splitAtClosingQuote? quote cs).map fun r => (String.ofList (unescape quote r.1), r.2)

/-- The value behind an equals sign. -/
def readValue (cs : List Char) : Taken String :=
  let start := dropInlineBlanks cs
  match start with
  | '\'' :: rest =>
    match readQuoted '\'' rest with
    | none => .error start
    | some r => .ok r
  | '"' :: rest =>
    match readQuoted '"' rest with
    | none => .error start
    | some r => .ok r
  | _ => .ok (String.ofList (trimChars (cutComment (cs.takeWhile isInLine))), cs.dropWhile isInLine)

/-! ## Statements -/

/-- What follows a comment, if there is one. -/
def dropComment (cs : List Char) : List Char :=
  if (dropInlineBlanks cs).head? == some '#' then cs.dropWhile isInLine else cs

/-- What follows the end of a line. -/
def dropBreak : List Char → List Char
  | '\r' :: '\n' :: rest => rest
  | '\r' :: rest => rest
  | '\n' :: rest => rest
  | cs => cs

/-- What follows the end of a line, if a line ends here. -/
def readLineEnd (cs : List Char) : Taken Unit :=
  let start := dropInlineBlanks cs
  if start.head?.any isInLine then .error cs else .ok ((), dropBreak start)

/-- The value of a statement, if there is an equals sign. -/
def readAssignment (cs : List Char) : Taken (Option String) :=
  match cs with
  | '=' :: rest => (readValue rest).map fun r => (some r.1, r.2)
  | _ => .ok (none, cs)

/-- The statement that a key, an assignment and the end of a line make up. -/
def readBinding (cs : List Char) : Taken Statement :=
  match readKey cs with
  | .error e => .error e
  | .ok (key, cs) =>
    match readAssignment (dropInlineBlanks cs) with
    | .error e => .error e
    | .ok (value, cs) =>
      (readLineEnd (dropComment cs)).map fun r => ((key.map (.binding · value)).getD .blank, r.2)

/-- The statement in front of a text. -/
def readStatement (cs : List Char) : Taken Statement :=
  let cs := trimStart cs
  if cs.isEmpty then .ok (.blank, cs) else readBinding (dropExport cs)

/-- The number of line feeds. -/
def countBreaks (cs : List Char) : Nat :=
  cs.countP (· == '\n')

/-- The statements of a text whose first line has the number `line`.  Every statement takes at least
one character, so `fuel` characters are enough. -/
def statementsFrom (line : Nat) (cs : List Char) : Nat → List Statement
  | 0 => []
  | fuel + 1 =>
    if cs.isEmpty then []
    else
      let (statement, rest) :=
        match readStatement cs with
        | .ok r => r
        | .error place => (.malformed line, dropBreak (place.dropWhile isInLine))
      statement :: statementsFrom (line + (countBreaks cs - countBreaks rest)) rest fuel

/-- The statements of a text. -/
def readStatements (text : String) : List Statement :=
  statementsFrom 1 text.toList text.length

end Daybook.Cli
