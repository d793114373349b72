import Daybook.Completion.Engine
import Daybook.Text.Casing

/-!
# Completion at a prompt

How suggestions meet text that is being typed: as a menu, as a remainder that is shown behind the
cursor, and at a prompt that reads one line key by key.

* `Document`: a text with a cursor; only the line of the cursor is completed.
* `menu`: the suggestions as entries of a menu.
* `remainder?`: what the best suggestion would add behind the cursor.
* `readLine`: the line that a sequence of keys types.
-/

namespace Daybook.Completion

open Text Calendar Search

/-- A text with a cursor. -/
structure Document where
  text : List Char
  /-- The number of characters before the cursor. -/
  cursor : Nat
deriving DecidableEq, Repr

namespace Document

/-- A text with the cursor at its end. -/
def atEnd (text : List Char) : Document :=
  ⟨text, text.length⟩

/-- The part of the line of the cursor that stands before it. -/
def lineBefore (d : Document) : List Char :=
  ((d.text.take d.cursor).reverse.takeWhile (· != '\n')).reverse

/-- The part of the line of the cursor that stands behind it. -/
def lineAfter (d : Document) : List Char :=
  (d.text.drop d.cursor).takeWhile (· != '\n')

/-- The request for suggestions at the cursor. -/
def request (d : Document) (payee : Option String) (today : Date) : Request :=
  ⟨d.lineBefore ++ d.lineAfter, d.lineBefore.length, payee, today⟩

end Document

/-- An entry of a menu. -/
structure MenuEntry where
  text : String
  /-- Where the replaced text starts, counted from the cursor. -/
  offset : Int
  label : String
  /-- What is said about the entry: the detail of the suggestion or else its kind. -/
  remark : String
deriving DecidableEq, Repr

/-- The menu entry of a suggestion. -/
def Item.menuEntry (column : Nat) (i : Item) : MenuEntry :=
  ⟨i.insertText, (i.replaceStart : Int) - column, i.label,
    ((i.detail.filter (!·.isEmpty)).getD i.kind.name)⟩

/-- The suggestions as entries of a menu. -/
def menu (d : Document) (items : List Item) : List MenuEntry :=
  items.map (·.menuEntry d.lineBefore.length)

/-- What accepting a suggestion adds behind the cursor, if the suggestion extends what is typed and is
a single line. -/
def Item.remainder? (before : List Char) (i : Item) : Option String :=
  if i.kind == .template || i.insertText.toList.contains '\n' then none
  else
    let typed := before.drop i.replaceStart
    let fits := (lower (String.ofList typed)).toList.isPrefixOf (lower i.insertText).toList
    let rest := i.insertText.toList.drop typed.length
    if typed.isEmpty || !fits || rest.isEmpty then none else some (String.ofList rest)

/-- What the best suggestion adds behind the cursor. -/
def remainder? (d : Document) (items : List Item) : Option String :=
  items.head?.bind (·.remainder? d.lineBefore)

/-! ## The prompt -/

/-- A key that is pressed at a prompt. -/
inductive Key where
  | insert (c : Char)
  /-- Takes over the remainder of the best suggestion. -/
  | takeOver
  | accept
  | interrupt
  /-- Ends the input, if nothing is typed. -/
  | finish
deriving DecidableEq, Repr

/-- The key that a character stands for. -/
def Key.ofChar (c : Char) : Key :=
  if c == '\t' then takeOver
  else if c == '\r' then accept
  else if c == '\x03' then interrupt
  else if c == '\x04' then finish
  else insert c

/-- How reading a line ends. -/
inductive PromptResult where
  | line (text : String)
  | interrupted
  | ended
deriving DecidableEq, Repr

/-- The remainder of the best suggestion for a text with the cursor at its end. -/
def inlineSuggestion (e : Engine) (m : Matcher) (payee : Option String) (today : Date)
    (typed : List Char) : Option String × Engine × Matcher :=
  let document := Document.atEnd typed
  match e.complete m (document.request payee today) with
  | (.error _, e', m') => (none, e', m')
  | (.ok items, e', m') => (remainder? document items, e', m')

/-- Reads one line: what comes of it, and the keys that are left.  Without further keys the input has
ended. -/
def readLine (e : Engine) (m : Matcher) (payee : Option String) (today : Date)
    (typed : List Char) : List Key → PromptResult × List Key × Engine × Matcher
  | [] => (.ended, [], e, m)
  | .insert c :: keys => readLine e m payee today (typed ++ [c]) keys
  | .accept :: keys => (.line (String.ofList typed), keys, e, m)
  | .interrupt :: keys => (.interrupted, keys, e, m)
  | .finish :: keys =>
    if typed.isEmpty then (.ended, keys, e, m) else readLine e m payee today typed keys
  | .takeOver :: keys =>
    let (added, e', m') := inlineSuggestion e m payee today typed
    readLine e' m' payee today (typed ++ (added.getD "").toList) keys

end Daybook.Completion
