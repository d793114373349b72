import Daybook.Calendar.Date
import Daybook.Number.Integer
import Daybook.Pattern

/-!
# Dates as journals write them

Journals write a day in several ways:

* with the year first, as in `2024-01-05`, `2024/1/5` and `2024.01.05`;
* with the year last, as in `05.01.2024`, which is always day first, and as in `05/01/2024` and
  `05-01-2024`, where a setting says whether the day or the month comes first;
* without a year, as in `01-05` and `1/5`, month first.

Contents:

* `WrittenDate`: the components of a date text; `WrittenDate.ofChars?` takes a text apart.
* `Date.read`: the day that a text stands for.
* `detectOrder`: the order that a collection of date texts gives evidence for.
* `datePattern`: the shape of a date text inside a line.
-/

namespace Daybook.Calendar

open Text Number

/-- Which of day and month comes first in a date with the year last. -/
inductive DateOrder where
  | dayFirst
  | monthFirst
  /-- An order that no reader knows. -/
  | unknown (name : String)
deriving DecidableEq, Repr

/-- The order with a given name. -/
def DateOrder.ofName (name : String) : DateOrder :=
  if name = "dmy" then .dayFirst
  else if name = "mdy" then .monthFirst
  else .unknown name

/-- The name of an order. -/
def DateOrder.name : DateOrder → String
  | dayFirst => "dmy"
  | monthFirst => "mdy"
  | unknown name => name

/-- Why a text does not stand for a day. -/
inductive DateError where
  /-- The order is not known. -/
  | unknownOrder (name : String)
  /-- The text has the form of a date, but there is no such day. -/
  | invalid (raw : Option String)
  /-- The text does not have the form of a date. -/
  | unrecognized (raw : Option String)
  /-- The year is beyond all calendar arithmetic. -/
  | overflow
deriving DecidableEq, Repr

/-- The wording of an error. -/
def DateError.message : DateError → String
  | unknownOrder name => "unknown date order: " ++ quoted name
  | invalid raw => "invalid date: " ++ quotedOr "None" raw
  | unrecognized raw => "unrecognized date: " ++ quotedOr "None" raw
  | overflow => CalendarError.overflow.message

/-! ## Taking a date text apart -/

/-- Whether a character separates the components of a date. -/
def isDateSeparator (c : Char) : Bool :=
  c == '-' || c == '/' || c == '.'

/-- The digit groups of a text and the separators between them; `none` if it holds anything
else. -/
def digitGroups : List Char → Option (List (List Nat) × List Char)
  | [] => some ([[]], [])
  | c :: rest =>
    match digitGroups rest with
    | none => none
    | some (groups, separators) =>
      match digitValue? c with
      | some v => some ((v :: groups.headD []) :: groups.tail, separators)
      | none => if isDateSeparator c then some ([] :: groups, c :: separators) else none

/-- The components of a date text. -/
inductive WrittenDate where
  | yearFirst (year month day : Nat)
  /-- The year comes last; which of the others is the day depends on the separator and the order. -/
  | yearLast (first : Nat) (separator : Char) (second year : Nat)
  | noYear (month day : Nat)
deriving DecidableEq, Repr

/-- Whether a digit group can be a day or a month. -/
def isShort (group : List Nat) : Bool :=
  group.length == 1 || group.length == 2

/-- The components of a date text.  Both separators of a text with a year must be the same. -/
def WrittenDate.ofChars? (cs : List Char) : Option WrittenDate :=
  match digitGroups cs with
  | some ([a, b, c], [s, t]) =>
    if s ≠ t then none
    else if a.length = 4 ∧ isShort b ∧ isShort c then
      some (.yearFirst (ofDigits a) (ofDigits b) (ofDigits c))
    else if isShort a ∧ isShort b ∧ c.length = 4 then
      some (.yearLast (ofDigits a) s (ofDigits b) (ofDigits c))
    else none
  | some ([a, b], [_]) =>
    if isShort a ∧ isShort b then some (.noYear (ofDigits a) (ofDigits b)) else none
  | _ => none

/-- Whether the first component of a date with the year last is the day.  A component above twelve
can only be a day; otherwise a dot or the order decides. -/
def isDayFirst (order : DateOrder) (first : Nat) (separator : Char) (second : Nat) : Bool :=
  if 12 < first ∧ second ≤ 12 then true
  else if 12 < second ∧ first ≤ 12 then false
  else separator == '.' || order == .dayFirst

/-! ## Reading -/

/-- The day of given components, or the complaint that `raw` names none. -/
def dayOf (raw : Option String) (year month day : Int) : Except DateError Date :=
  match Date.make year month day with
  | .ok d => .ok d
  | .error .overflow => .error .overflow
  | .error _ => .error (.invalid raw)

/-- The day that a text stands for.  A date without a year takes `defaultYear`, or the year of
`today` if there is none. -/
def Date.read (order : DateOrder) (defaultYear : Option Int) (today : Date) (raw : Option String) :
    Except DateError Date :=
  match order with
  | .unknown name => .error (.unknownOrder name)
  | _ =>
    match WrittenDate.ofChars? (trimChars (raw.getD "").toList) with
    | some (.yearFirst year month day) => dayOf raw year month day
    | some (.yearLast first separator second year) =>
      if isDayFirst order first separator second then dayOf raw year second first
      else dayOf raw year first second
    | some (.noYear month day) => dayOf raw (defaultYear.getD today.year) month day
    | none => .error (.unrecognized raw)

/-! ## Evidence for an order -/

/-- What a date text says about the order: `some true` for the day first, `some false` for the month
first. -/
def orderEvidence (raw : Option String) : Option Bool :=
  match WrittenDate.ofChars? (trimChars (raw.getD "").toList) with
  | some (.yearLast first separator second _) =>
    if separator = '.' then some true
    else if 12 < first ∧ second ≤ 12 then some true
    else if 12 < second ∧ first ≤ 12 then some false
    else none
  | _ => none

/-- The order that most of the telling samples have, if one has a majority. -/
def detectOrder (samples : List (Option String)) : Option DateOrder :=
  let evidence := samples.filterMap orderEvidence
  let dayFirst := evidence.count true
  let monthFirst := evidence.count false
  if dayFirst = monthFirst then none
  else some (if monthFirst < dayFirst then .dayFirst else .monthFirst)

/-! ## Dates inside lines -/

/-- A separator between the components of a date. -/
def dateSeparatorPattern {γ : Type} : Pattern γ := .one isDateSeparator

/-- The shape of a date text, the longest forms first. -/
def datePattern {γ : Type} : Pattern γ :=
  .either
    (.all [.between isDigit 4 4, dateSeparatorPattern, .between isDigit 1 2, dateSeparatorPattern,
      .between isDigit 1 2])
    (.either
      (.all [.between isDigit 1 2, dateSeparatorPattern, .between isDigit 1 2,
        dateSeparatorPattern, .between isDigit 4 4])
      (.all [.between isDigit 1 2, dateSeparatorPattern, .between isDigit 1 2]))

end Daybook.Calendar
