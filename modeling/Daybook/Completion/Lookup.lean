import Daybook.Completion.Context
import Daybook.Snapshot.Basic
import Daybook.Text.Collation

/-!
# What is looked up

Everything but dates is completed by looking up what was typed among the names of one subject.

* `Subject`: payees, accounts, commodities, tags or the values of one tag; `Subject.names` and
  `Subject.usage` give its names in a snapshot and how often they are used.
* `Subject.ordered`: its names, the most used first.
* `Lookup`: a subject, a query and the column from which text is replaced.
* `lookup?`: what is looked up at the end of a text.
-/

namespace Daybook.Completion

open Text Journal

/-- What names are names of. -/
inductive Subject where
  | payees
  | accounts
  | commodities
  | tags
  | valuesOf (tag : String)
deriving DecidableEq, Repr

namespace Subject

/-- The names that a snapshot knows. -/
def names (s : Snapshot) : Subject → List String
  | payees => s.payees
  | accounts => s.accounts.keys
  | commodities => s.commodities.keys
  | tags => s.tags
  | valuesOf tag => (s.tagValues.get? tag).getD []

/-- How often a snapshot uses a name. -/
def usage (s : Snapshot) (subject : Subject) (name : String) : Nat :=
  match subject with
  | payees => s.payeeUsage.count name
  | accounts => s.accountUsage.count name
  | commodities => s.commodityUsage.count name
  | tags => s.tagUsage.count name
  | valuesOf tag => s.tagValueUsage.count (tag, name)

/-- The names, the most used first and then in collation order, each with its usage. -/
def ordered (s : Snapshot) (subject : Subject) : List (String × Nat) :=
  ((sortNames (subject.names s)).map fun name => (name, subject.usage s name)).mergeSort
    fun a b => decide (b.2 ≤ a.2)

end Subject

/-- A search for a name, and the column from which text is replaced by what is found. -/
structure Lookup where
  subject : Subject
  query : String
  start : Nat
deriving DecidableEq, Repr

/-! ## Queries -/

/-- The parts of a line that the patterns for queries record. -/
inductive QueryPart where
  | tag
  | query
deriving DecidableEq, Repr

/-- An indented account, and perhaps a status in front of it. -/
def accountQueryPattern : Pattern QueryPart :=
  .all [someGap, .opt (.seq (.one isStatus) someGap), .group .query (.many isInline 0), .atEnd]

/-- Whether a character can be part of a commodity that is looked up. -/
def isSymbolQueryChar (c : Char) : Bool :=
  isTypedSymbolChar c && c != '"'

/-- The start of a symbol, perhaps quoted, at the end of a text. -/
def commodityQueryPattern : Pattern QueryPart :=
  .all [.opt (.one (· == '"')), .group .query (.many isSymbolQueryChar 0), .atEnd]

/-- Whether a character can be part of a tag key that is looked up. -/
def isTagQueryChar (c : Char) : Bool :=
  isWord c || c == '-'

/-- The start of a tag key at the end of a text. -/
def tagQueryPattern : Pattern QueryPart :=
  .all [.group .query (.many isTagQueryChar 0), .atEnd]

/-- A tag key and the start of a value at the end of a text. -/
def tagValueQueryPattern : Pattern QueryPart :=
  .all [.group .tag (.many isTagQueryChar 1), .one (· == ':'), .many isBlank 0,
    .group .query (.many (fun c => c != ',' && c != ';') 0), .atEnd]

/-- The search for a payee: the text after the date.  Behind a bar nothing is offered. -/
def payeeLookup? (before : List Char) : Option Lookup := do
  let found ← afterDatePattern.match? before
  let span ← found.span? .payee
  let typed := Match.slice before span.start span.stop
  if typed.contains '|' then none
  else some ⟨.payees, String.ofList (trimChars typed), span.start + leadingBlanks typed⟩

/-- The search for an account.  After the separator behind an account nothing is offered. -/
def accountLookup? (before : List Char) : Option Lookup := do
  if postingPattern.accepts before then none
  else
    let found ← accountQueryPattern.match? before
    let span ← found.span? .query
    some ⟨.accounts, String.ofList (found.textD .query), span.start⟩

/-- The search for a commodity; a quote in front of it is replaced too. -/
def commodityLookup (before : List Char) : Lookup :=
  match commodityQueryPattern.find? before with
  | none => ⟨.commodities, "", before.length⟩
  | some found => ⟨.commodities, String.ofList (found.textD .query), found.start⟩

/-- The search for a tag. -/
def tagLookup (before : List Char) : Lookup :=
  let typed :=
    match tagQueryPattern.find? before with
    | none => []
    | some found => found.textD .query
  ⟨.tags, String.ofList typed, before.length - typed.length⟩

/-- The search for a value of a tag. -/
def tagValueLookup? (before : List Char) : Option Lookup := do
  let found ← tagValueQueryPattern.find? before
  let span ← found.span? .query
  some ⟨.valuesOf (String.ofList (found.textD .tag)),
    String.ofList (trimChars (found.textD .query)), span.start⟩

/-- The search that completes a domain at the end of a text; dates are not looked up. -/
def lookup? (domain : Domain) (before : List Char) : Option Lookup :=
  match domain with
  | .date => none
  | .payee => payeeLookup? before
  | .account => accountLookup? before
  | .commodity => some (commodityLookup before)
  | .tag => some (tagLookup before)
  | .tagValue => tagValueLookup? before

end Daybook.Completion
