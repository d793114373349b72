import Daybook.Proofs.Calendar.Written

/-!
# The two orders of day and month

A date with the year last can be read with the day first or with the month first.  Whether there is
such a day does not depend on the order.  Which day it is depends on it only if either component can
be a month; then each order reads the day that the other one reads, with month and number exchanged.

* `Date.exchange`: the day with its month and its number exchanged.
* `Date.folded`: what a day and its exchange have in common.
* `IsAmbiguous`: the texts whose day depends on the order.
* `Date.read_monthFirst`: what is read with the month first.
* `Date.map_folded_read`: what is read does not depend on the order, but for the exchange.
-/

namespace Daybook.Calendar

open Text

/-! ## Exchanging month and number -/

theorem le_monthLength (year month : Nat) : 28 ≤ monthLength year month := by
  unfold monthLength
  split
  · split <;> decide
  · split <;> decide

namespace Date

/-- The day with its month and its number exchanged, or the same day if its number is no month. -/
def exchange (d : Date) : Date :=
  if h : d.day ≤ 12 then
    ⟨d.year, d.day, d.month, d.isDay.1, d.isDay.2.1, d.isDay.2.2.2.2.1, h, d.isDay.2.2.1,
      d.isDay.2.2.2.1.trans ((by decide : 12 ≤ 28).trans (le_monthLength d.year d.day))⟩
  else d

/-- A day, or its exchange if that has the greater number. -/
def folded (d : Date) : Date :=
  if d.day < d.month then d.exchange else d

variable {a b d : Date}

theorem ext_components (hyear : a.year = b.year) (hmonth : a.month = b.month)
    (hday : a.day = b.day) : a = b := by
  cases a
  cases b
  cases hyear
  cases hmonth
  cases hday
  rfl

theorem components_exchange (h : d.day ≤ 12) :
    d.exchange.year = d.year ∧ d.exchange.month = d.day ∧ d.exchange.day = d.month := by
  rw [exchange, dif_pos h]
  exact ⟨rfl, rfl, rfl⟩

theorem exchange_exchange (d : Date) : d.exchange.exchange = d := by
  by_cases h : d.day ≤ 12
  · obtain ⟨hyear, hmonth, hday⟩ := components_exchange h
    have hback : d.exchange.day ≤ 12 := hday ▸ d.isDay.2.2.2.1
    obtain ⟨hyear', hmonth', hday'⟩ := components_exchange hback
    exact ext_components (hyear'.trans hyear) (hmonth'.trans hday) (hday'.trans hmonth)
  · have hsame : d.exchange = d := dif_neg h
    rw [hsame, hsame]

theorem folded_exchange (d : Date) : d.exchange.folded = d.folded := by
  by_cases h : d.day ≤ 12
  · obtain ⟨hyear, hmonth, hday⟩ := components_exchange h
    unfold folded
    rw [hmonth, hday, exchange_exchange]
    rcases Nat.lt_trichotomy d.day d.month with hlt | heq | hlt
    · rw [if_neg (Nat.lt_asymm hlt), if_pos hlt]
    · rw [if_neg (Nat.not_lt.mpr heq.le), if_neg (Nat.not_lt.mpr heq.ge)]
      exact ext_components hyear (hmonth.trans heq) (hday.trans heq.symm)
    · rw [if_pos hlt, if_neg (Nat.lt_asymm hlt)]
  · have hsame : d.exchange = d := dif_neg h
    rw [hsame]

theorem folded_eq (d : Date) : d.folded = d ∨ d.folded = d.exchange := by
  unfold folded
  split
  · exact .inr rfl
  · exact .inl rfl

/-- Days with the same fold are the same or exchanged. -/
theorem eq_or_eq_exchange (h : a.folded = b.folded) : b = a ∨ b = a.exchange := by
  rcases folded_eq a with ha | ha <;> rcases folded_eq b with hb | hb <;> rw [ha, hb] at h
  · exact .inl h.symm
  · exact .inr (by rw [h, exchange_exchange])
  · exact .inr h.symm
  · exact .inl (by rw [← exchange_exchange b, ← h, exchange_exchange])

end Date

/-! ## Days with exchanged components -/

section Exchange

variable {raw : Option String} {year : Int} {first second : Nat}

/-- Components that name no day name none when they are exchanged. -/
theorem dayOf_error_comm {month day : Int} {e : DateError}
    (h : dayOf raw year month day = .error e) (hno : ∀ d, dayOf raw year day month ≠ .ok d) :
    dayOf raw year day month = .error e := by
  have hcalendar : (isCalendarNumber year && isCalendarNumber day && isCalendarNumber month) =
      (isCalendarNumber year && isCalendarNumber month && isCalendarNumber day) :=
    Bool.and_right_comm ..
  have hcases : ∀ m k : Int,
      (isCalendarNumber year && isCalendarNumber m && isCalendarNumber k) = false ∧
        dayOf raw year m k = .error .overflow ∨
      (isCalendarNumber year && isCalendarNumber m && isCalendarNumber k) = true ∧
        (dayOf raw year m k = .error (.invalid raw) ∨ ∃ d, dayOf raw year m k = .ok d) := by
    intro m k
    cases hm : (isCalendarNumber year && isCalendarNumber m && isCalendarNumber k) with
    | false =>
      refine .inl ⟨rfl, ?_⟩
      rw [dayOf, Date.make, hm]
      rfl
    | true =>
      refine .inr ⟨rfl, ?_⟩
      rw [dayOf, Date.make, hm, if_neg (by decide)]
      split
      · exact .inr ⟨_, rfl⟩
      · rename_i hoverflow
        split at hoverflow
        · cases hoverflow
        split at hoverflow
        · cases hoverflow
        split at hoverflow <;> cases hoverflow
      · exact .inl rfl
  rcases hcases month day with ⟨hout, hfirst⟩ | ⟨hin, hfirst | ⟨d, hd⟩⟩
  · rcases hcases day month with ⟨-, hsecond⟩ | ⟨hin, -⟩
    · rw [hsecond, ← hfirst, h]
    · rw [hcalendar, hout] at hin
      cases hin
  · rcases hcases day month with ⟨hout, -⟩ | ⟨-, hsecond | ⟨d, hd⟩⟩
    · rw [hcalendar, hin] at hout
      cases hout
    · rw [hsecond, ← hfirst, h]
    · exact absurd hd (hno d)
  · rw [hd] at h
    cases h

/-- Two components that can be months name exchanged days in the two orders. -/
theorem dayOf_comm (hfirst : first ≤ 12) (hsecond : second ≤ 12) :
    dayOf raw year second first = (dayOf raw year first second).map Date.exchange := by
  have hexchange : ∀ {m k : Nat} {d : Date}, k ≤ 12 → dayOf raw year m k = .ok d →
      dayOf raw year k m = .ok d.exchange := by
    intro m k d hk hd
    obtain ⟨hyear, hmonth, hday⟩ := dayOf_eq_ok_iff.mp hd
    have hmost : d.day ≤ 12 := by omega
    obtain ⟨hyear', hmonth', hday'⟩ := Date.components_exchange hmost
    refine dayOf_eq_ok_iff.mpr ⟨?_, ?_, ?_⟩ <;> omega
  cases h : dayOf raw year first second with
  | ok d => exact hexchange hsecond h
  | error e =>
    refine dayOf_error_comm h fun d hd => ?_
    rw [hexchange hfirst hd] at h
    cases h

/-- Two components that cannot be months name no day in either order. -/
theorem dayOf_comm_of_above (hfirst : 12 < first) (hsecond : 12 < second) :
    dayOf raw year second first = dayOf raw year first second := by
  have hno : ∀ {m k : Nat} {d : Date}, 12 < m → dayOf raw year m k ≠ .ok d := by
    intro m k d hm hd
    have hmonth := (dayOf_eq_ok_iff.mp hd).2.1
    have hmost := d.isDay.2.2.2.1
    omega
  cases h : dayOf raw year first second with
  | ok d => exact absurd h (hno hfirst)
  | error e => exact dayOf_error_comm h fun d => hno hsecond

end Exchange

/-! ## Reading in both orders -/

/-- Whether the order decides which component of a text is the day: the year comes last, there are
no dots, and either of the others can be a month. -/
def IsAmbiguous (cs : List Char) : Prop :=
  ∃ first s second year, (WrittenDate.yearLast first s second year).Spells cs ∧ s ≠ '.' ∧
    first ≤ 12 ∧ second ≤ 12

namespace Date

variable (defaultYear : Option Int) (today : Date) (raw : Option String)

/-- **What is read with the month first** is what is read with the day first, exchanged if the order
decides. -/
theorem read_monthFirst :
    (IsAmbiguous (trimChars (raw.getD "").toList) →
      read .monthFirst defaultYear today raw =
        (read .dayFirst defaultYear today raw).map exchange) ∧
    (¬IsAmbiguous (trimChars (raw.getD "").toList) →
      read .monthFirst defaultYear today raw = read .dayFirst defaultYear today raw) := by
  rw [read_eq (.inl rfl), read_eq (.inr rfl)]
  cases hw : WrittenDate.ofChars? (trimChars (raw.getD "").toList) with
  | none =>
    refine ⟨fun hambiguous => ?_, fun _ => rfl⟩
    obtain ⟨_, _, _, _, hspells, -⟩ := hambiguous
    rw [WrittenDate.ofChars?_eq_some_iff.mpr hspells] at hw
    cases hw
  | some w =>
    have hspells := WrittenDate.ofChars?_eq_some_iff.mp hw
    cases w with
    | yearFirst y m k =>
      refine ⟨fun hambiguous => ?_, fun _ => rfl⟩
      obtain ⟨_, _, _, _, hother, -⟩ := hambiguous
      cases hother.unique hspells
    | noYear m k =>
      refine ⟨fun hambiguous => ?_, fun _ => rfl⟩
      obtain ⟨_, _, _, _, hother, -⟩ := hambiguous
      cases hother.unique hspells
    | yearLast first s second y =>
      simp only [WrittenDate.components]
      by_cases hboth : first ≤ 12 ∧ second ≤ 12
      · have hfirst : ¬(12 < first ∧ second ≤ 12) := by omega
        have hsecond : ¬(12 < second ∧ first ≤ 12) := by omega
        by_cases hdot : s = '.'
        · have hforced : ∀ order, isDayFirst order first s second = true := fun order => by
            rw [isDayFirst, if_neg hfirst, if_neg hsecond, hdot]
            rfl
          refine ⟨fun hambiguous => ?_, fun _ => by rw [hforced, hforced]⟩
          obtain ⟨_, _, _, _, hother, hno, -⟩ := hambiguous
          cases hother.unique hspells
          exact absurd hdot hno
        · have hday : isDayFirst .dayFirst first s second = true := by
            rw [isDayFirst, if_neg hfirst, if_neg hsecond, Bool.or_eq_true]
            exact .inr rfl
          have hmonth : ¬isDayFirst .monthFirst first s second = true := by
            rw [isDayFirst, if_neg hfirst, if_neg hsecond, Bool.or_eq_true, beq_iff_eq]
            exact not_or.mpr ⟨hdot, by decide⟩
          refine ⟨fun _ => ?_, fun hnot => absurd ⟨_, _, _, _, hspells, hdot, hboth⟩ hnot⟩
          rw [if_pos hday, if_neg hmonth]
          exact dayOf_comm hboth.2 hboth.1
      · refine ⟨fun hambiguous => ?_, fun _ => ?_⟩
        · obtain ⟨_, _, _, _, hother, -, hfew⟩ := hambiguous
          cases hother.unique hspells
          exact absurd hfew hboth
        by_cases hfirst : 12 < first ∧ second ≤ 12
        · rw [isDayFirst, isDayFirst, if_pos hfirst, if_pos hfirst]
        by_cases hsecond : 12 < second ∧ first ≤ 12
        · rw [isDayFirst, isDayFirst, if_neg hfirst, if_pos hsecond, if_neg hfirst, if_pos hsecond]
        -- no month among the components, so there is no day in either order
        have hcomm : dayOf raw y second first = dayOf raw y first second :=
          dayOf_comm_of_above (by omega) (by omega)
        split <;> split
        · rfl
        · exact hcomm
        · exact hcomm.symm
        · rfl

variable {defaultYear today raw}

/-- A day whose text leaves the order open can be exchanged. -/
theorem day_le_of_isAmbiguous {order : DateOrder} (horder : order.IsKnown) {d : Date}
    (h : IsAmbiguous (trimChars (raw.getD "").toList))
    (hd : read order defaultYear today raw = .ok d) : d.day ≤ 12 := by
  obtain ⟨first, s, second, year, hspells, -, hfirst, hsecond⟩ := h
  obtain ⟨w, hw, hcomponents⟩ := (read_eq_ok_iff horder).mp hd
  cases hw.unique hspells
  rw [WrittenDate.components] at hcomponents
  split at hcomponents
  · have hday := congrArg (·.2.2) hcomponents
    dsimp only at hday
    omega
  · have hday := congrArg (·.2.2) hcomponents
    dsimp only at hday
    omega

end Date

/-- The day first, unless the order is none that a reader knows. -/
def DateOrder.folded : DateOrder → DateOrder
  | unknown name => unknown name
  | _ => dayFirst

namespace Date

/-- **What is read does not depend on the order**, but for the exchange of month and number. -/
theorem map_folded_read {order order' : DateOrder} (h : order.folded = order'.folded)
    (defaultYear : Option Int) (today : Date) (raw : Option String) :
    (read order defaultYear today raw).map folded =
      (read order' defaultYear today raw).map folded := by
  have hfold : ∀ o : DateOrder, (read o defaultYear today raw).map folded =
      (read o.folded defaultYear today raw).map folded := by
    intro o
    cases o with
    | dayFirst | unknown => rfl
    | monthFirst =>
      obtain ⟨hexchanged, hsame⟩ := read_monthFirst defaultYear today raw
      by_cases hambiguous : IsAmbiguous (trimChars (raw.getD "").toList)
      · have hfolded : DateOrder.monthFirst.folded = .dayFirst := rfl
        rw [hexchanged hambiguous, hfolded]
        cases read .dayFirst defaultYear today raw with
        | error e => rfl
        | ok d => exact congrArg Except.ok (folded_exchange d)
      · rw [hsame hambiguous]
        rfl
  rw [hfold order, h, ← hfold order']

end Date

end Daybook.Calendar
