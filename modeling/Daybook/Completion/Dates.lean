import Daybook.Calendar.Written
import Daybook.Completion.Item
import Daybook.Text.Trim

/-!
# Suggested dates

At the start of a line a few days around the present one are offered, in the form in which a date is
being typed: with the separator that was typed first, and without the year if a month was typed.

* `suggestedDays`: the days, each with what it stands for.
* `DateStyle`: the form in which dates are written; `DateStyle.ofTyped`.
* `dateItems`: the suggestions that start with what was typed.
-/

namespace Daybook.Completion

open Text Calendar

/-- The days that are offered, each with what it stands for. -/
def suggestedDays (last : Option Date) (today : Date) :
    Except CalendarError (List (Date × String)) := do
  let yesterday ← today.yesterday
  let weekAgo ← today.weekAgo
  let thisMonth ← today.monthStart 0
  let lastMonth ← today.monthStart 1
  return (last.map fun d => (d, "last used")).toList ++
    [(today, "today"), (yesterday, "yesterday"), (weekAgo, "a week ago"),
      (thisMonth, "start of this month"), (lastMonth, "start of last month")]

/-- A form in which dates are written. -/
structure DateStyle where
  separator : Char
  /-- Whether the year is left out. -/
  short : Bool
deriving DecidableEq, Repr

/-- A month without a year, and perhaps the start of a day. -/
def shortDatePattern : Pattern Unit :=
  .all [
    .either (.seq (.one (· == '0')) (.opt (.one isDigit)))
      (.seq (.one (· == '1')) (.opt (.one fun c => c == '0' || c == '1' || c == '2'))),
    .opt (.seq (.one isDateSeparator) (.between isDigit 0 2)),
    .atEnd]

/-- The form of a date of which `typed` is typed. -/
def DateStyle.ofTyped (typed : List Char) : DateStyle :=
  ⟨(typed.find? isDateSeparator).getD '-', !typed.isEmpty && shortDatePattern.accepts typed⟩

/-- A day in a form. -/
def DateStyle.write (style : DateStyle) (d : Date) : String :=
  let text := if style.short then d.short else d.iso
  String.ofList (text.toList.map fun c => if c == '-' then style.separator else c)

/-- The dates that are offered after `before`. -/
def dateItems (last : Option Date) (today : Date) (before : List Char) :
    Except CalendarError (List Item) := do
  let typed := trimChars before
  let style := DateStyle.ofTyped typed
  let items := (← suggestedDays last today).map fun day =>
    let text := style.write day.1
    { label := text
      kind := .date
      insertText := text
      replaceStart := leadingBlanks before
      detail := some day.2 : Item }
  return (items.filter fun i => typed.isPrefixOf i.label.toList).eraseDupsBy
    fun i j => i.label == j.label

end Daybook.Completion
