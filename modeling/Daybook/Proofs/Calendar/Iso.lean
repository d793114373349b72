import Daybook.Proofs.Calendar.Written
import Daybook.Proofs.Number.Padded
import Mathlib.Data.String.Basic

/-!
# Days as years, months and numbers

The written form of a day that other programs read is `2024-01-05`: the year in four digits, the
month and the number of the day in two.  It stands for the same day in every order of day and month
and with every year to fall back on, and days are ordered as their written forms are.

* `Date.IsIso`, `Date.isIso_iso`: the look of the written form.
* `Date.iso_lt_iso_iff`: its order.
* `Date.IsIso.read_eq`: what is read of it.
* `Date.Spelled`, `Date.spelled_and_read_iso`: every way to write a day stands for the day.
-/

namespace Daybook.Calendar

open Text Number

theorem isNumeral_of_isPadded {width n : Nat} {cs : List Char} (h : IsPadded width n cs) :
    IsNumeral width width n cs :=
  ⟨⟨h.isDigit, h.length_eq.ge, h.length_eq.le⟩, h.value⟩

namespace Date

/-- Whether a text consists of the year in four ASCII digits, the month in two and the number of the
day in two, with dashes between them. -/
def IsIso (d : Date) (text : String) : Prop :=
  ∃ year month day, text.toList = year ++ '-' :: (month ++ '-' :: day) ∧
    IsPadded 4 d.year year ∧ IsPadded 2 d.month month ∧ IsPadded 2 d.day day

theorem day_le (d : Date) : d.day ≤ 31 :=
  d.isDay.2.2.2.2.2.trans (monthLength_le d.year d.month)

theorem isIso_iso (d : Date) : d.IsIso d.iso := by
  have hyear : d.year < 10 ^ 4 := Nat.lt_succ_of_le d.isDay.2.1
  have hmonth : d.month < 10 ^ 2 := Nat.lt_of_le_of_lt d.isDay.2.2.2.1 (by decide)
  have hday : d.day < 10 ^ 2 := Nat.lt_of_le_of_lt d.day_le (by decide)
  refine ⟨_, _, _, ?_, isPadded_padded (by decide) hyear, isPadded_padded (by decide) hmonth,
    isPadded_padded (by decide) hday⟩
  rw [iso, String.toList_append, String.toList_append, String.toList_append, String.toList_append,
    List.append_assoc, List.append_assoc, List.append_assoc]
  rfl

variable {a b d : Date} {s t : String}

/-- Written forms are ordered as their days are. -/
theorem IsIso.lt_iff (hs : a.IsIso s) (ht : b.IsIso t) : s < t ↔ a.lt b = true := by
  obtain ⟨y₁, m₁, d₁, hs, hy₁, hm₁, hd₁⟩ := hs
  obtain ⟨y₂, m₂, d₂, ht, hy₂, hm₂, hd₂⟩ := ht
  have hyears := hy₁.length_eq.trans hy₂.length_eq.symm
  have hmonths := hm₁.length_eq.trans hm₂.length_eq.symm
  have hdash : ∀ xs ys : List Char, '-' :: xs < '-' :: ys ↔ xs < ys := fun xs ys => by
    simp only [List.cons_lt_cons_iff, lt_irrefl, false_or, true_and]
  rw [String.lt_iff_toList_lt, hs, ht, append_lt_append_iff hyears, hdash,
    append_lt_append_iff hmonths, hdash, hy₁.lt_iff hy₂, hy₁.eq_iff hy₂, hm₁.lt_iff hm₂,
    hm₁.eq_iff hm₂, hd₁.lt_iff hd₂]
  have hfirstMonth := a.isDay.2.2.2.1
  have hsecondMonth := b.isDay.2.2.2.1
  have hfirstDay := a.day_le
  have hsecondDay := b.day_le
  rw [lt, decide_eq_true_eq, rank, rank]
  omega

theorem iso_lt_iso_iff : a.iso < b.iso ↔ a.lt b = true :=
  a.isIso_iso.lt_iff b.isIso_iso

/-! ## The ways to write a day -/

/-- The written form has the form of a date with the year first. -/
theorem IsIso.spells (h : d.IsIso s) :
    (WrittenDate.yearFirst d.year d.month d.day).Spells s.toList := by
  obtain ⟨year, month, day, hs, hyear, hmonth, hday⟩ := h
  rw [hs]
  exact .yearFirst (by decide) (isNumeral_of_isPadded hyear)
    ((isNumeral_of_isPadded hmonth).mono (by decide) le_rfl)
    ((isNumeral_of_isPadded hday).mono (by decide) le_rfl)

/-- What is read of the written form. -/
theorem IsIso.read_eq (h : d.IsIso s) {order : DateOrder} (horder : order.IsKnown)
    (defaultYear : Option Int) (today : Date) :
    read order defaultYear today (some s) = .ok d := by
  have hread : read order defaultYear today (some (String.ofList s.toList)) = .ok d :=
    read_of_spells horder h.spells rfl
  rwa [String.ofList_toList] at hread

/-- Whether every text that is put together from the components of a day stands for the day. -/
structure Spelled (d : Date) (year month day : List Char) : Prop where
  yearFirst : ∀ (s : Char) (order : DateOrder) (defaultYear : Option Int) (today : Date),
    isDateSeparator s = true → order.IsKnown →
      read order defaultYear today (some (.ofList (year ++ s :: (month ++ s :: day)))) = .ok d
  dotted : ∀ (order : DateOrder) (defaultYear : Option Int) (today : Date), order.IsKnown →
    read order defaultYear today (some (.ofList (day ++ '.' :: (month ++ '.' :: year)))) = .ok d
  dayFirst : ∀ (s : Char) (defaultYear : Option Int) (today : Date), s = '-' ∨ s = '/' →
    read .dayFirst defaultYear today (some (.ofList (day ++ s :: (month ++ s :: year)))) = .ok d
  monthFirst : ∀ (s : Char) (defaultYear : Option Int) (today : Date), s = '-' ∨ s = '/' →
    read .monthFirst defaultYear today (some (.ofList (month ++ s :: (day ++ s :: year)))) = .ok d
  noYear : ∀ (s : Char) (order : DateOrder) (today : Date), isDateSeparator s = true →
    order.IsKnown →
      read order (some d.year) today (some (.ofList (month ++ s :: day))) = .ok d

/-- A month is never taken for the number of a day where a dot or the order says that the day comes
first. -/
theorem isDayFirst_of_day_month {order : DateOrder} {s : Char} (d : Date)
    (h : s = '.' ∨ order = .dayFirst) : isDayFirst order d.day s d.month = true := by
  have hmonth : ¬(12 < d.month ∧ d.day ≤ 12) :=
    fun habove => absurd habove.1 (Nat.not_lt.mpr d.isDay.2.2.2.1)
  have hdot : (s == '.' || order == .dayFirst) = true := by
    rcases h with rfl | rfl <;> simp
  rw [isDayFirst, hdot, if_neg hmonth, ite_self]

theorem isDayFirst_of_month_day {s : Char} (d : Date) (h : s ≠ '.') :
    isDayFirst .monthFirst d.month s d.day = false := by
  have hmonth : ¬(12 < d.month ∧ d.day ≤ 12) :=
    fun habove => absurd habove.1 (Nat.not_lt.mpr d.isDay.2.2.2.1)
  have hdot : (s == '.' || DateOrder.monthFirst == .dayFirst) = false := by
    rw [Bool.or_eq_false_iff, beq_eq_false_iff_ne]
    exact ⟨h, rfl⟩
  rw [isDayFirst, hdot, if_neg hmonth, ite_self]

theorem spelled {year month day : List Char} (hyear : IsNumeral 4 4 d.year year)
    (hmonth : IsNumeral 1 2 d.month month) (hday : IsNumeral 1 2 d.day day) :
    d.Spelled year month day where
  yearFirst _ _ _ _ hs horder := read_of_spells horder (.yearFirst hs hyear hmonth hday) rfl
  dotted order _ _ horder := by
    refine read_of_spells horder (.yearLast (by decide) hday hmonth hyear) ?_
    rw [WrittenDate.components, if_pos (d.isDayFirst_of_day_month (.inl rfl))]
  dayFirst s _ _ hs := by
    have hseparator : isDateSeparator s = true := by rcases hs with rfl | rfl <;> decide
    refine read_of_spells (.inl rfl) (.yearLast hseparator hday hmonth hyear) ?_
    rw [WrittenDate.components, if_pos (d.isDayFirst_of_day_month (.inr rfl))]
  monthFirst s _ _ hs := by
    have hseparator : isDateSeparator s = true := by rcases hs with rfl | rfl <;> decide
    have hdot : s ≠ '.' := by rcases hs with rfl | rfl <;> decide
    refine read_of_spells (.inr rfl) (.yearLast hseparator hmonth hday hyear) ?_
    rw [WrittenDate.components, if_neg (Bool.eq_false_iff.mp (d.isDayFirst_of_month_day hdot))]
  noYear _ _ _ hs horder := read_of_spells horder (.noYear hs hmonth hday) rfl

/-- **Reading inverts writing.**  However a day is written, the day is read; and whatever a day was
read from, its written form is the year, the month and the number with all their zeros, from which
the same day is read in every order and with every year to fall back on. -/
theorem spelled_and_read_iso :
    (∀ (d : Date) (year month day : List Char), IsNumeral 4 4 d.year year →
      IsNumeral 1 2 d.month month → IsNumeral 1 2 d.day day → d.Spelled year month day) ∧
    (∀ (order : DateOrder) (defaultYear : Option Int) (today : Date) (raw : Option String)
      (d : Date), read order defaultYear today raw = .ok d →
        IsDay d.year d.month d.day ∧ d.IsIso d.iso ∧
          ∀ (order' : DateOrder) (defaultYear' : Option Int) (today' : Date), order'.IsKnown →
            read order' defaultYear' today' (some d.iso) = .ok d) :=
  ⟨fun _ _ _ _ hyear hmonth hday => spelled hyear hmonth hday,
    fun _ _ _ _ d _ => ⟨d.isDay, d.isIso_iso, fun _ defaultYear' today' horder =>
      d.isIso_iso.read_eq horder defaultYear' today'⟩⟩

/-- The last day of February in a leap year, with and without the zero of its month. -/
def leapDay : Date :=
  ⟨2024, 2, 29, by decide⟩

theorem spelled_and_read_leapDay :
    leapDay.Spelled "2024".toList "2".toList "29".toList ∧
      read .monthFirst none leapDay (some "29/2/2024") = .ok leapDay ∧
      leapDay.IsIso leapDay.iso ∧ read .dayFirst none leapDay (some leapDay.iso) = .ok leapDay := by
  have hread : read .monthFirst none leapDay (some "29/2/2024") = .ok leapDay := by decide +kernel
  obtain ⟨-, hiso, hback⟩ := spelled_and_read_iso.2 _ _ _ _ _ hread
  refine ⟨spelled_and_read_iso.1 leapDay _ _ _ ?_ ?_ ?_, hread, hiso, hback _ _ _ (.inl rfl)⟩
  · exact ⟨⟨forall_mem_of_all (by decide +kernel), by decide, by decide⟩, by decide +kernel⟩
  · exact ⟨⟨forall_mem_of_all (by decide +kernel), by decide, by decide⟩, by decide +kernel⟩
  · exact ⟨⟨forall_mem_of_all (by decide +kernel), by decide, by decide⟩, by decide +kernel⟩

end Date

end Daybook.Calendar
