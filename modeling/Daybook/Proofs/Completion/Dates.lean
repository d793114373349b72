import Daybook.Proofs.Builder.Safety
import Daybook.Proofs.Calendar.Iso
import Daybook.Proofs.Completion.Origin

/-!
# What suggested dates are read as

At the start of a line a few days are suggested, each for what it is: the day of the last
transaction, yesterday, the first of the last month.  A suggestion is text, and once it is accepted it
is read like any other date of the journal.  Written in full it is read as the day that it was
suggested for.  Written without its year it is read as a day of the present year, so it names another
day, or none, if the day that was meant lies in another one.

* `Date.inYear?`: a day in another year.
* `Date.exists_daysBefore?`, `Date.monthStart_zero`, `Date.exists_monthStart_one`: earlier days.
* `Completion.Suggested`: the days that are suggested, each for what it is.
  `Completion.exists_suggestedDays`: they exist from the year 2 on.
* `Completion.DateStyle.read_write`: what a day in a form is read as.
* `Completion.Engine.suggested_dates_read`: what the suggestions of an engine are read as.
-/

namespace Daybook

open Text Number Calendar

namespace Calendar

/-! ## A day in another year -/

/-- The day with the same month and number in a year, if there is one. -/
def Date.inYear? (d : Date) (year : Nat) : Option Date :=
  if h : IsDay year d.month d.day then some ⟨year, d.month, d.day, h⟩ else none

theorem Date.inYear?_eq_some_self_iff {d : Date} {year : Nat} :
    d.inYear? year = some d ↔ d.year = year := by
  unfold inYear?
  constructor
  · intro h
    split at h
    · exact (congrArg Date.year (Option.some.inj h)).symm
    · cases h
  · rintro rfl
    exact dif_pos d.isDay

theorem eq_invalid_of_dayOf {raw : Option String} {year : Int} {month day : Nat} {e : DateError}
    (h : dayOf raw year month day = .error e) (hyear : 0 ≤ year ∧ year < 10000)
    (hmonth : month < 10000) (hday : day < 10000) : e = .invalid raw := by
  have hcalendar := dayOf_ne_overflow hyear hmonth hday raw
  unfold dayOf at h hcalendar
  split at h
  · cases h
  · rename_i hoverflow
    rw [hoverflow] at hcalendar
    exact absurd rfl hcalendar
  · exact (Except.error.inj h).symm

/-- The month and the number of a day name the day with them in the given year. -/
theorem dayOf_month_day (raw : Option String) (d : Date) {year : Nat}
    (hyear : 1 ≤ year ∧ year ≤ 9999) :
    dayOf raw year d.month d.day = (d.inYear? year).elim (.error (.invalid raw)) .ok := by
  unfold Date.inYear?
  split
  · rename_i h
    exact dayOf_eq_ok_iff.mpr ⟨rfl, rfl, rfl⟩
  · rename_i h
    have hmonth := d.isDay.2.2.2.1
    have hday := d.day_le
    cases hread : dayOf raw year d.month d.day with
    | ok e =>
      obtain ⟨hsame, hsame', hsame''⟩ := dayOf_eq_ok_iff.mp hread
      rw [Int.natCast_inj.mp hsame, Int.natCast_inj.mp hsame', Int.natCast_inj.mp hsame''] at h
      exact absurd e.isDay h
    | error e =>
      rw [eq_invalid_of_dayOf hread (by omega) (by omega) (by omega)]
      rfl

/-! ## Earlier days -/

namespace Date

/-- There is a day some days before, unless it would have to be before the first year. -/
theorem exists_daysBefore? {n : Nat} {d : Date}
    (h : n < d.day ∨ 2 ≤ d.year ∧ n < d.day + 31) : ∃ e, d.daysBefore? n = some e := by
  induction n generalizing d with
  | zero => exact ⟨d, rfl⟩
  | succ n ih =>
    obtain ⟨hyear, -, hmonth, -, hday, -⟩ := d.isDay
    have hlength := monthLength_pos d.year (d.month - 1)
    suffices hpred : ∃ e, d.pred? = some e ∧ (n < e.day ∨ 2 ≤ e.year ∧ n < e.day + 31) by
      obtain ⟨e, he, hleft⟩ := hpred
      obtain ⟨f, hf⟩ := ih hleft
      exact ⟨f, by rw [daysBefore?, he, Option.bind_some, hf]⟩
    unfold pred?
    split
    · exact ⟨_, rfl, by dsimp only; omega⟩
    · split
      · exact ⟨_, rfl, by dsimp only; omega⟩
      · split
        · exact ⟨_, rfl, by dsimp only; omega⟩
        · omega

theorem monthStart_zero (d : Date) :
    ∃ e, d.monthStart 0 = .ok e ∧ e.year = d.year ∧ e.month = d.month ∧ e.day = 1 := by
  obtain ⟨hyear, hyear', hmonth, hmonth', -, -⟩ := d.isDay
  refine ⟨⟨d.year, d.month, 1, hyear, hyear', hmonth, hmonth', le_rfl, monthLength_pos _ _⟩, ?_,
    rfl, rfl, rfl⟩
  rw [monthStart, Int.sub_zero, if_pos (by omega)]
  exact make_eq_ok_iff.mpr ⟨rfl, rfl, rfl⟩

/-- The first day of the month before, counted in months. -/
theorem exists_monthStart_one {d : Date} (h : 2 ≤ d.year) :
    ∃ e, d.monthStart 1 = .ok e ∧ e.year * 12 + e.month + 1 = d.year * 12 + d.month ∧
      e.day = 1 := by
  obtain ⟨hyear, hyear', hmonth, hmonth', -, -⟩ := d.isDay
  rw [monthStart]
  by_cases hfirst : d.month = 1
  · refine ⟨⟨d.year - 1, 12, 1, by omega, by omega, by decide, le_rfl, le_rfl,
      monthLength_pos _ _⟩, ?_, by dsimp only; omega, rfl⟩
    rw [if_neg (by omega), hfirst]
    exact make_eq_ok_iff.mpr ⟨by dsimp only; omega, rfl, rfl⟩
  · refine ⟨⟨d.year, d.month - 1, 1, hyear, hyear', by omega, by omega, le_rfl,
      monthLength_pos _ _⟩, ?_, by dsimp only; omega, rfl⟩
    rw [if_pos (by omega)]
    exact make_eq_ok_iff.mpr ⟨rfl, by dsimp only; omega, rfl⟩

end Date

end Calendar

namespace Completion

/-! ## The days that are suggested -/

/-- Whether a day is suggested for what a text says, where `last` is the last date of a journal. -/
inductive Suggested (last : Option Date) (today : Date) : Date → String → Prop where
  | lastUsed {d : Date} (h : last = some d) : Suggested last today d "last used"
  | today : Suggested last today today "today"
  | yesterday {d : Date} (h : today.daysBefore? 1 = some d) : Suggested last today d "yesterday"
  | weekAgo {d : Date} (h : today.daysBefore? 7 = some d) : Suggested last today d "a week ago"
  | thisMonth {d : Date} (hmonth : d.year = today.year ∧ d.month = today.month) (hday : d.day = 1) :
    Suggested last today d "start of this month"
  | lastMonth {d : Date} (hmonth : d.year * 12 + d.month + 1 = today.year * 12 + today.month)
    (hday : d.day = 1) : Suggested last today d "start of last month"

/-- **From the year 2 on there are days to suggest.** -/
theorem exists_suggestedDays (last : Option Date) {today : Date} (h : 2 ≤ today.year) :
    ∃ days, suggestedDays last today = .ok days ∧
      ∀ day ∈ days, Suggested last today day.1 day.2 := by
  obtain ⟨yesterday, hyesterday⟩ : ∃ e, today.daysBefore? 1 = some e :=
    Date.exists_daysBefore? (.inr ⟨h, by omega⟩)
  obtain ⟨weekAgo, hweekAgo⟩ : ∃ e, today.daysBefore? 7 = some e :=
    Date.exists_daysBefore? (.inr ⟨h, by omega⟩)
  obtain ⟨thisMonth, hthisMonth, hyear, hmonth, hday⟩ := today.monthStart_zero
  obtain ⟨lastMonth, hlastMonth, hcount, hday'⟩ := Date.exists_monthStart_one h
  have hyesterday' : today.yesterday = .ok yesterday := by rw [Date.yesterday, hyesterday]
  have hweekAgo' : today.weekAgo = .ok weekAgo := by rw [Date.weekAgo, hweekAgo]
  refine ⟨_, by rw [suggestedDays, hyesterday', hweekAgo', hthisMonth, hlastMonth]; rfl, ?_⟩
  intro day hmem
  rcases List.mem_append.mp hmem with hmem | hmem
  · obtain ⟨d, hd, rfl⟩ := Option.map_eq_some_iff.mp (Option.mem_toList.mp hmem)
    exact .lastUsed hd
  · simp only [List.mem_cons, List.not_mem_nil, or_false] at hmem
    rcases hmem with rfl | rfl | rfl | rfl | rfl
    · exact .today
    · exact .yesterday hyesterday
    · exact .weekAgo hweekAgo
    · exact .thisMonth ⟨hyear, hmonth⟩ hday
    · exact .lastMonth hcount hday'

/-! ## Days in a form -/

namespace DateStyle

/-- The separator of a typed date is one. -/
theorem isDateSeparator_ofTyped (typed : List Char) :
    isDateSeparator (ofTyped typed).separator = true := by
  rw [ofTyped]
  dsimp only
  cases h : typed.find? isDateSeparator with
  | none => decide
  | some s => exact List.find?_some h

/-- A separator takes the place of the dashes, which are no digits. -/
theorem map_separator_of_isPadded {width n : Nat} {cs : List Char} (h : IsPadded width n cs)
    (s : Char) : cs.map (fun c => if c == '-' then s else c) = cs := by
  conv_rhs => rw [← List.map_id cs]
  refine List.map_congr_left fun c hc => ?_
  have hne : c ≠ '-' := by
    rintro rfl
    exact absurd (h.digit _ hc) (by decide)
  rw [if_neg (by simpa using hne), id]

/-- **A day in a form is one of the ways to write it**, with its year or without. -/
theorem exists_spells_write (style : DateStyle) (h : isDateSeparator style.separator = true)
    (d : Date) :
    ∃ cs, style.write d = .ofList cs ∧
      (if style.short then WrittenDate.noYear d.month d.day
        else .yearFirst d.year d.month d.day).Spells cs := by
  obtain ⟨separator, short⟩ := style
  cases short with
  | true =>
    have hmonth : IsPadded 2 d.month (padded 2 d.month).toList :=
      isPadded_padded (by decide) (Nat.lt_of_le_of_lt d.isDay.2.2.2.1 (by decide))
    have hday : IsPadded 2 d.day (padded 2 d.day).toList :=
      isPadded_padded (by decide) (Nat.lt_of_le_of_lt d.day_le (by decide))
    have htext : d.short.toList = (padded 2 d.month).toList ++ '-' :: (padded 2 d.day).toList := by
      rw [Date.short, String.toList_append, String.toList_append, List.append_assoc]
      rfl
    refine ⟨(padded 2 d.month).toList ++ separator :: (padded 2 d.day).toList, ?_,
      .noYear h ((isNumeral_of_isPadded hmonth).mono (by decide) le_rfl)
        ((isNumeral_of_isPadded hday).mono (by decide) le_rfl)⟩
    rw [write, if_pos rfl, htext, List.map_append, List.map_cons,
      map_separator_of_isPadded hmonth, map_separator_of_isPadded hday]
    rfl
  | false =>
    obtain ⟨year, month, day, htext, hyear, hmonth, hday⟩ := d.isIso_iso
    refine ⟨year ++ separator :: (month ++ separator :: day), ?_,
      .yearFirst h (isNumeral_of_isPadded hyear)
        ((isNumeral_of_isPadded hmonth).mono (by decide) le_rfl)
        ((isNumeral_of_isPadded hday).mono (by decide) le_rfl)⟩
    rw [write, if_neg Bool.false_ne_true, htext, List.map_append, List.map_cons, List.map_append,
      List.map_cons, map_separator_of_isPadded hyear, map_separator_of_isPadded hmonth,
      map_separator_of_isPadded hday]
    rfl

/-- **What a day in a form is read as.**  With its year it is read as itself; without it, as the day
with its month and number in the year that readers fall back on. -/
theorem read_write (style : DateStyle) (h : isDateSeparator style.separator = true) (d : Date)
    {order : DateOrder} (horder : order.IsKnown) {year : Nat} (hyear : 1 ≤ year ∧ year ≤ 9999)
    (now : Date) :
    Date.read order (some year) now (some (style.write d)) =
      if style.short then (d.inYear? year).elim (.error (.invalid (some (style.write d)))) .ok
      else .ok d := by
  obtain ⟨cs, htext, hspells⟩ := style.exists_spells_write h d
  rw [htext]
  split
  · rename_i hshort
    rw [if_pos hshort] at hspells
    rw [Date.read_eq horder, Option.getD_some, String.toList_ofList, hspells.trimChars_eq,
      WrittenDate.ofChars?_eq_some_iff.mpr hspells]
    exact dayOf_month_day _ d hyear
  · rename_i hfull
    rw [if_neg hfull] at hspells
    exact Date.read_of_spells horder hspells rfl

/-- Only a day of the year that readers fall back on is read as itself without its year. -/
theorem read_write_eq_ok_iff (style : DateStyle) (h : isDateSeparator style.separator = true)
    (d : Date) {order : DateOrder} (horder : order.IsKnown) {year : Nat}
    (hyear : 1 ≤ year ∧ year ≤ 9999) (now : Date) :
    Date.read order (some year) now (some (style.write d)) = .ok d ↔
      style.short = false ∨ d.year = year := by
  rw [style.read_write h d horder hyear now]
  cases style.short with
  | false => exact iff_of_true rfl (.inl rfl)
  | true =>
    rw [if_pos rfl, ← Date.inYear?_eq_some_self_iff, or_iff_right Bool.true_eq_false.mp]
    cases d.inYear? year with
    | none => exact iff_of_false nofun nofun
    | some e => exact ⟨fun he => congrArg some (Except.ok.inj he), fun he => he ▸ rfl⟩

end DateStyle

namespace Engine

/-- Where dates are completed, the answer is made of suggestions of days. -/
theorem exists_complete_of_dateItems (e : Engine) (m : Search.Matcher) {request : Request}
    {position : Position} (hposition : analyze request.line request.column = .ok position)
    (hdate : position.context.domain? = some .date) {all : List Item}
    (hall : dateItems e.data.lastDate request.today position.before = .ok all) :
    ∃ items, (e.complete m request).1 = .ok items ∧
      ∀ i ∈ items, ∃ j ∈ all, i = { j with sortKey := i.sortKey } := by
  have hsuggest : e.suggest m .date position.before request.payee request.today =
      .ok (all, e, m) := by
    unfold suggest
    rw [hall]
  rw [complete, hposition]
  dsimp only
  rw [hdate]
  dsimp only
  split_ifs
  · exact ⟨[], rfl, fun _ hi => absurd hi List.not_mem_nil⟩
  · rw [hsuggest]
    exact ⟨_, rfl, fun i hi => mem_numbered hi⟩

/-- **What suggested dates are read as.**  From the year 2 on, every place where dates are completed
has an answer.  What it offers is for the days that the details name: the last date of the journal,
the present day, the one before it, the one a week before it, and the first days of its month and of
the month before.  A suggestion is such a day in the form in which a date is being typed, and whichever
order dates have, it is read, where a date without a year takes the present one, as follows.  With its
year it is read as the day that it is offered for.  Without its year it is read as the day with the
same month and number in the present year, if there is one; so it is read as the day that it is offered
for if and only if that day lies in the present year. -/
theorem suggested_dates_read (e : Engine) (m : Search.Matcher) {request : Request} {position : Position}
    (hposition : analyze request.line request.column = .ok position)
    (hdate : position.context.domain? = some .date) (hyear : 2 ≤ request.today.year) :
    ∃ items, (e.complete m request).1 = .ok items ∧
      ∀ i ∈ items, ∃ day detail, Suggested e.data.lastDate request.today day detail ∧
        i.detail = some detail ∧ i.label = i.insertText ∧
        i.insertText = (DateStyle.ofTyped (trimChars position.before)).write day ∧
        ∀ (order : DateOrder) (now : Date), order.IsKnown →
          let short := (DateStyle.ofTyped (trimChars position.before)).short
          let read := Date.read order (some request.today.year) now (some i.insertText)
          (read = if short then
              (day.inYear? request.today.year).elim (.error (.invalid (some i.insertText))) .ok
            else .ok day) ∧
          (read = .ok day ↔ short = false ∨ day.year = request.today.year) := by
  have hpresent : 1 ≤ request.today.year ∧ request.today.year ≤ 9999 :=
    ⟨request.today.isDay.1, request.today.isDay.2.1⟩
  have hseparator := DateStyle.isDateSeparator_ofTyped (trimChars position.before)
  obtain ⟨days, hdays, hsuggested⟩ := exists_suggestedDays e.data.lastDate hyear
  obtain ⟨all, hall, -, hitems⟩ := exists_dateItems hdays position.before
  obtain ⟨items, hanswer, hranked⟩ := exists_complete_of_dateItems e m hposition hdate hall
  refine ⟨items, hanswer, fun i hi => ?_⟩
  obtain ⟨j, hj, heq⟩ := hranked i hi
  obtain ⟨day, hday, hisDay⟩ := hitems j hj
  have htext : i.insertText = (DateStyle.ofTyped (trimChars position.before)).write day.1 := by
    rw [heq]
    exact hisDay.insertText_eq.trans hisDay.label_eq
  refine ⟨day.1, day.2, hsuggested day hday, ?_, ?_, htext, fun order now horder => ?_⟩
  · rw [heq]
    exact hisDay.detail_eq
  · rw [heq]
    exact hisDay.insertText_eq.symm
  · rw [htext]
    exact ⟨DateStyle.read_write _ hseparator day.1 horder hpresent now,
      DateStyle.read_write_eq_ok_iff _ hseparator day.1 horder hpresent now⟩

/-- A request for dates behind what is typed of one. -/
def dateRequest (typed : String) (today : Date) : Request where
  line := typed.toList
  column := typed.length
  payee := none
  today := today

/-- On the first of March of a leap year three days lie in the February that is typed; with the year and
the separator that are typed, each is read as itself. -/
theorem suggested_dates_read_of_typed_february :
    let today : Date := ⟨2024, 3, 1, by decide⟩
    ∃ position fresh items, Search.Matcher.make 50 1000 = .ok fresh ∧
      analyze (dateRequest "2024/02" today).line (dateRequest "2024/02" today).column =
        .ok position ∧
      position.context.domain? = some .date ∧ 2 ≤ today.year ∧
      ((start .standard .empty).complete fresh (dateRequest "2024/02" today)).1 = .ok items ∧
      items.map (·.insertText) = ["2024/02/29", "2024/02/23", "2024/02/01"] ∧
      ∀ i ∈ items, ∃ day detail, Suggested none today day detail ∧ i.detail = some detail ∧
        Date.read .monthFirst (some 2024) today (some i.insertText) = .ok day := by
  intro today
  have hanswer : (((start .standard .empty).complete ⟨50, 1000, 1, .empty⟩
      (dateRequest "2024/02" today)).1).map (·.map (·.insertText)) =
        .ok ["2024/02/29", "2024/02/23", "2024/02/01"] := by
    decide +kernel
  have hposition : analyze (dateRequest "2024/02" today).line (dateRequest "2024/02" today).column =
      .ok ⟨.lineStart, "2024/02".toList, []⟩ := by
    decide +kernel
  have hlong : (DateStyle.ofTyped (trimChars "2024/02".toList)).short = false := by decide +kernel
  obtain ⟨items, hitems, hread⟩ := suggested_dates_read (start .standard .empty)
    ⟨50, 1000, 1, .empty⟩ hposition rfl (by decide)
  rw [hitems] at hanswer
  refine ⟨_, _, items, rfl, hposition, rfl, by decide, hitems, Except.ok.inj hanswer,
    fun i hi => ?_⟩
  obtain ⟨day, detail, hday, hdetail, -, -, hreads⟩ := hread i hi
  exact ⟨day, detail, hday, hdetail, ((hreads .monthFirst today (.inr rfl)).2).mpr (.inl hlong)⟩

/-- **A day of last year is read as a day of this year.**  On the fifth of January the day of a week ago
is suggested without its year for a typed December, and it is read as the day that comes almost a
year later. -/
theorem week_ago_read_a_year_later :
    let today : Date := ⟨2024, 1, 5, by decide⟩
    ∃ fresh items, Search.Matcher.make 50 1000 = .ok fresh ∧
      ((start .standard .empty).complete fresh (dateRequest "12" today)).1 = .ok items ∧
      items.map (fun i => (i.insertText, i.detail)) =
        [("12-29", some "a week ago"), ("12-01", some "start of last month")] ∧
      today.weekAgo = .ok ⟨2023, 12, 29, by decide⟩ ∧
      Date.read .dayFirst (some 2024) today (some "12-29") = .ok ⟨2024, 12, 29, by decide⟩ ∧
      Date.read .monthFirst (some 2024) today (some "12-29") = .ok ⟨2024, 12, 29, by decide⟩ := by
  intro today
  have hanswer : (((start .standard .empty).complete ⟨50, 1000, 1, .empty⟩
      (dateRequest "12" today)).1).map (·.map fun i => (i.insertText, i.detail)) =
        .ok [("12-29", some "a week ago"), ("12-01", some "start of last month")] := by
    decide +kernel
  obtain ⟨items, hitems, hmap⟩ := exists_ok_of_map hanswer
  exact ⟨_, items, rfl, hitems, hmap, by decide +kernel, by decide +kernel, by decide +kernel⟩

end Engine

end Completion

end Daybook
