import Daybook.Number.Integer

/-!
# Calendar days

Days of the Gregorian calendar in the years 1 to 9999.

* `Date`: a day; that it exists is part of the type.
* `Date.make`: the day with the given year, month and number, with the reason if there is none.
* `Date.pred?`, `Date.daysBefore?`: the day before, and the day some days before.
* `Date.monthStart`: the first day of an earlier month.
* `Date.iso`, `Date.short`: the written forms `2024-01-05` and `01-05`.
-/

namespace Daybook.Calendar

open Number

/-- Whether a year has a 29th of February. -/
def isLeap (year : Nat) : Bool :=
  year % 4 == 0 && (year % 100 != 0 || year % 400 == 0)

/-- The number of days of a month. -/
def monthLength (year month : Nat) : Nat :=
  if month = 2 then if isLeap year then 29 else 28
  else if month = 4 ∨ month = 6 ∨ month = 9 ∨ month = 11 then 30
  else 31

/-- Whether a year, a month and a number name a day. -/
def IsDay (year month day : Nat) : Prop :=
  1 ≤ year ∧ year ≤ 9999 ∧ 1 ≤ month ∧ month ≤ 12 ∧ 1 ≤ day ∧ day ≤ monthLength year month

instance (year month day : Nat) : Decidable (IsDay year month day) := by
  unfold IsDay
  infer_instance

/-- A day of the calendar. -/
structure Date where
  year : Nat
  month : Nat
  day : Nat
  isDay : IsDay year month day
deriving DecidableEq, Repr

/-- Why there is no such day. -/
inductive CalendarError where
  /-- The year is not one of the years 1 to 9999. -/
  | yearOutOfRange (year : Int)
  /-- The month is not one of the months 1 to 12. -/
  | monthOutOfRange
  /-- The month has no day of that number. -/
  | dayOutOfRange
  /-- A number is beyond all calendar arithmetic, or the result is before the first day. -/
  | overflow
deriving DecidableEq, Repr

/-- The wording of an error. -/
def CalendarError.message : CalendarError → String
  | yearOutOfRange year => "year " ++ toString year ++ " is out of range"
  | monthOutOfRange => "month must be in 1..12"
  | dayOutOfRange => "day is out of range for month"
  | overflow => "date value out of range"

/-- Whether a number takes part in calendar arithmetic at all. -/
def isCalendarNumber (n : Int) : Bool :=
  -2147483648 ≤ n && n < 2147483648

namespace Date

/-- The day with the given year, month and number. -/
def make (year month day : Int) : Except CalendarError Date :=
  if !(isCalendarNumber year && isCalendarNumber month && isCalendarNumber day) then
    .error .overflow
  else if year < 1 ∨ 9999 < year then .error (.yearOutOfRange year)
  else if month < 1 ∨ 12 < month then .error .monthOutOfRange
  else if h : IsDay year.toNat month.toNat day.toNat then
    .ok ⟨year.toNat, month.toNat, day.toNat, h⟩
  else .error .dayOutOfRange

/-- A number by which days are ordered. -/
def rank (d : Date) : Nat :=
  (d.year * 100 + d.month) * 100 + d.day

/-- Whether a day is before another or the same. -/
def le (a b : Date) : Bool :=
  a.rank ≤ b.rank

/-- Whether a day is before another. -/
def lt (a b : Date) : Bool :=
  a.rank < b.rank

/-- The later of two days. -/
def latest (a b : Date) : Date :=
  if a.lt b then b else a

/-! ## Earlier days -/

theorem monthLength_pos (year month : Nat) : 1 ≤ monthLength year month := by
  unfold monthLength
  split
  · split <;> decide
  · split <;> decide

theorem monthLength_le (year month : Nat) : monthLength year month ≤ 31 := by
  unfold monthLength
  split
  · split <;> decide
  · split <;> decide

/-- The day before; the first day of the year 1 has none. -/
def pred? (d : Date) : Option Date :=
  if h : 1 < d.day then
    some ⟨d.year, d.month, d.day - 1, by
      obtain ⟨h1, h2, h3, h4, h5, h6⟩ := d.isDay
      exact ⟨h1, h2, h3, h4, by omega, by omega⟩⟩
  else if h' : 1 < d.month then
    some ⟨d.year, d.month - 1, monthLength d.year (d.month - 1), by
      obtain ⟨h1, h2, h3, h4, h5, h6⟩ := d.isDay
      exact ⟨h1, h2, by omega, by omega, monthLength_pos _ _, Nat.le_refl _⟩⟩
  else if h'' : 1 < d.year then
    some ⟨d.year - 1, 12, 31, by
      obtain ⟨h1, h2, h3, h4, h5, h6⟩ := d.isDay
      refine ⟨by omega, by omega, by omega, by omega, by omega, ?_⟩
      simp [monthLength]⟩
  else none

/-- The day a number of days before. -/
def daysBefore? : Nat → Date → Option Date
  | 0, d => some d
  | n + 1, d => (pred? d).bind (daysBefore? n)

/-- The day before. -/
def yesterday (d : Date) : Except CalendarError Date :=
  match daysBefore? 1 d with
  | some e => .ok e
  | none => .error .overflow

/-- The same weekday one week before. -/
def weekAgo (d : Date) : Except CalendarError Date :=
  match daysBefore? 7 d with
  | some e => .ok e
  | none => .error .overflow

/-- The first day of the month `monthsBack` months before.  Months are counted back over the start
of a year but not forward over its end. -/
def monthStart (d : Date) (monthsBack : Int) : Except CalendarError Date :=
  let m : Int := d.month - monthsBack
  if 1 ≤ m then make d.year m 1
  else make (d.year + (m - 1) / 12) ((m - 1) % 12 + 1) 1

/-! ## Written forms -/

/-- A day as year, month and number. -/
def iso (d : Date) : String :=
  padded 4 d.year ++ "-" ++ padded 2 d.month ++ "-" ++ padded 2 d.day

/-- A day as month and number. -/
def short (d : Date) : String :=
  padded 2 d.month ++ "-" ++ padded 2 d.day

end Date

end Daybook.Calendar
