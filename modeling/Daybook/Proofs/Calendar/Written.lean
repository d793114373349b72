import Daybook.Proofs.Journal.DateText
import Daybook.Proofs.Number.Decimal

/-!
# What date texts say

A date text is taken apart into rows of digits and the separators between them.  There are three
forms of such texts, and a text is of a form if and only if the reader takes it apart that way.  What
is read of a date text is therefore said in terms of the numbers that were written: which of them
are taken for the year, the month and the number of the day, and whether there is such a day.

* `IsNumeral`: a row of digits with its number.
* `Rows`, `digitGroups_eq_some_iff`: rows of digits with separators between them.
* `WrittenDate.Spells`, `WrittenDate.ofChars?_eq_some_iff`: the forms of date texts.
* `WrittenDate.components`, `Date.read_eq_ok_iff`: the day that a text stands for.
* `Date.read_of_spells`: what is read of a text that was put together.
-/

namespace Daybook.Calendar

open Text Number Journal

/-! ## Rows of digits -/

/-- A row of `least` to `most` digits that stands for a number. -/
structure IsNumeral (least most n : Nat) (cs : List Char) : Prop extends
    IsDigits least most cs where
  value : valueOfDigits cs = n

theorem IsNumeral.mono {least most least' most' n : Nat} {cs : List Char}
    (h : IsNumeral least most n cs) (hleast : least' ≤ least) (hmost : most ≤ most') :
    IsNumeral least' most' n cs :=
  ⟨⟨h.digit, hleast.trans h.least_le, h.le_most.trans hmost⟩, h.value⟩

theorem digitValue?_of_isDigit {c : Char} (h : isDigit c = true) :
    digitValue? c = some (valueOfDigit c) := by
  obtain ⟨v, hv⟩ := Option.isSome_iff_exists.mp h
  rw [valueOfDigit, hv, Option.getD_some]

theorem digitValue?_of_isDateSeparator {c : Char} (h : isDateSeparator c = true) :
    digitValue? c = none :=
  Option.not_isSome_iff_eq_none.mp (Bool.eq_false_iff.mp (isDigit_of_isDateSeparator h))

/-- Rows of digits, and the separators between them. -/
inductive Rows : List Char → List (List Char) → List Char → Prop
  | last {row : List Char} (hrow : ∀ x ∈ row, isDigit x = true) : Rows row [row] []
  | more {row rest : List Char} {rows : List (List Char)} {s : Char} {separators : List Char}
    (hrow : ∀ x ∈ row, isDigit x = true) (hs : isDateSeparator s = true)
    (hrest : Rows rest rows separators) : Rows (row ++ s :: rest) (row :: rows) (s :: separators)

theorem Rows.cons_digit {c : Char} {cs : List Char} {rows : List (List Char)}
    {separators : List Char} (hc : isDigit c = true) (h : Rows cs rows separators) :
    Rows (c :: cs) ((c :: rows.headD []) :: rows.tail) separators := by
  cases h with
  | last hrow => exact .last (List.forall_mem_cons.mpr ⟨hc, hrow⟩)
  | more hrow hs hrest => exact .more (List.forall_mem_cons.mpr ⟨hc, hrow⟩) hs hrest

/-- **The digit groups of a text are its rows of digits.** -/
theorem digitGroups_eq_some_iff {cs : List Char} {groups : List (List Nat)}
    {separators : List Char} :
    digitGroups cs = some (groups, separators) ↔
      ∃ rows, Rows cs rows separators ∧ groups = rows.map (·.map valueOfDigit) := by
  constructor
  · intro h
    induction cs generalizing groups separators with
    | nil =>
      cases h
      exact ⟨[[]], .last nofun, rfl⟩
    | cons c cs ih =>
      rw [digitGroups] at h
      split at h
      · cases h
      rename_i groups' separators' hrest
      obtain ⟨rows, hrows, rfl⟩ := ih hrest
      split at h
      · rename_i v hv
        have hc : isDigit c = true := Option.isSome_iff_exists.mpr ⟨v, hv⟩
        obtain rfl : v = valueOfDigit c :=
          Option.some.inj (hv.symm.trans (digitValue?_of_isDigit hc))
        cases h
        refine ⟨_, hrows.cons_digit hc, ?_⟩
        cases hrows <;> rfl
      · split at h
        · rename_i hs
          cases h
          exact ⟨[] :: rows, .more (List.forall_mem_nil _) hs hrows, rfl⟩
        · cases h
  · rintro ⟨rows, hrows, rfl⟩
    have hdigits : ∀ {row rest : List Char} {groups : List (List Nat)} {separators : List Char},
        (∀ x ∈ row, isDigit x = true) → digitGroups rest = some ([] :: groups, separators) →
          digitGroups (row ++ rest) = some (row.map valueOfDigit :: groups, separators) := by
      intro row rest groups separators hrow hrest
      induction row with
      | nil => exact hrest
      | cons c cs ih =>
        rw [List.forall_mem_cons] at hrow
        rw [List.cons_append, digitGroups, ih hrow.2, digitValue?_of_isDigit hrow.1]
        rfl
    induction hrows with
    | @last row hrow =>
      have hnothing : digitGroups (row ++ []) = some ([row.map valueOfDigit], []) :=
        hdigits hrow rfl
      rwa [List.append_nil] at hnothing
    | @more row rest rows s separators hrow hs hrest ih =>
      refine hdigits hrow ?_
      rw [digitGroups, ih, digitValue?_of_isDateSeparator hs]
      exact if_pos hs

/-! ## The forms of date texts -/

/-- Whether a text is one of the ways to write the components of a date.  A text with a year has the
same separator twice. -/
inductive WrittenDate.Spells : WrittenDate → List Char → Prop
  | yearFirst {y m d : Nat} {year month day : List Char} {s : Char}
    (hs : isDateSeparator s = true) (hyear : IsNumeral 4 4 y year)
    (hmonth : IsNumeral 1 2 m month) (hday : IsNumeral 1 2 d day) :
    Spells (.yearFirst y m d) (year ++ s :: (month ++ s :: day))
  | yearLast {a b y : Nat} {first second year : List Char} {s : Char}
    (hs : isDateSeparator s = true) (hfirst : IsNumeral 1 2 a first)
    (hsecond : IsNumeral 1 2 b second) (hyear : IsNumeral 4 4 y year) :
    Spells (.yearLast a s b y) (first ++ s :: (second ++ s :: year))
  | noYear {m d : Nat} {month day : List Char} {s : Char} (hs : isDateSeparator s = true)
    (hmonth : IsNumeral 1 2 m month) (hday : IsNumeral 1 2 d day) :
    Spells (.noYear m d) (month ++ s :: day)

section Forms

variable {cs row : List Char} {rows : List (List Char)} {separators : List Char} {w : WrittenDate}

theorem isShort_map_iff :
    isShort (row.map valueOfDigit) = true ↔ 1 ≤ row.length ∧ row.length ≤ 2 := by
  rw [isShort, List.length_map, Bool.or_eq_true, beq_iff_eq, beq_iff_eq]
  omega

theorem isNumeral_of_isShort (hrow : ∀ x ∈ row, isDigit x = true)
    (h : isShort (row.map valueOfDigit) = true) :
    IsNumeral 1 2 (ofDigits (row.map valueOfDigit)) row :=
  ⟨⟨hrow, (isShort_map_iff.mp h).1, (isShort_map_iff.mp h).2⟩, (ofDigits_map_valueOfDigit row).symm⟩

theorem isNumeral_of_length (hrow : ∀ x ∈ row, isDigit x = true)
    (h : (row.map valueOfDigit).length = 4) :
    IsNumeral 4 4 (ofDigits (row.map valueOfDigit)) row := by
  rw [List.length_map] at h
  exact ⟨⟨hrow, h.ge, h.le⟩, (ofDigits_map_valueOfDigit row).symm⟩

theorem IsNumeral.ofDigits_map {least most n : Nat} (h : IsNumeral least most n row) :
    ofDigits (row.map valueOfDigit) = n :=
  (ofDigits_map_valueOfDigit row).trans h.value

theorem IsNumeral.isShort_map {n : Nat} (h : IsNumeral 1 2 n row) :
    isShort (row.map valueOfDigit) = true :=
  isShort_map_iff.mpr ⟨h.least_le, h.le_most⟩

theorem IsNumeral.length_map {n : Nat} (h : IsNumeral 4 4 n row) :
    (row.map valueOfDigit).length = 4 :=
  List.length_map .. |>.trans (Nat.le_antisymm h.le_most h.least_le)

theorem exists_three_rows {a b c : List Nat} {s t : Char}
    (h : digitGroups cs = some ([a, b, c], [s, t])) :
    ∃ first second third, cs = first ++ s :: (second ++ t :: third) ∧
      isDateSeparator s = true ∧ isDateSeparator t = true ∧
      (∀ x ∈ first, isDigit x = true) ∧ (∀ x ∈ second, isDigit x = true) ∧
      (∀ x ∈ third, isDigit x = true) ∧ a = first.map valueOfDigit ∧
      b = second.map valueOfDigit ∧ c = third.map valueOfDigit := by
  obtain ⟨rows, hrows, hgroups⟩ := digitGroups_eq_some_iff.mp h
  cases hrows with
  | more hfirst hs hrest =>
    cases hrest with
    | more hsecond ht hlast =>
      cases hlast with
      | last hthird =>
        cases hgroups
        exact ⟨_, _, _, rfl, hs, ht, hfirst, hsecond, hthird, rfl, rfl, rfl⟩

theorem exists_two_rows {a b : List Nat} {s : Char} (h : digitGroups cs = some ([a, b], [s])) :
    ∃ first second, cs = first ++ s :: second ∧ isDateSeparator s = true ∧
      (∀ x ∈ first, isDigit x = true) ∧ (∀ x ∈ second, isDigit x = true) ∧
      a = first.map valueOfDigit ∧ b = second.map valueOfDigit := by
  obtain ⟨rows, hrows, hgroups⟩ := digitGroups_eq_some_iff.mp h
  cases hrows with
  | more hfirst hs hrest =>
    cases hrest with
    | last hsecond =>
      cases hgroups
      exact ⟨_, _, rfl, hs, hfirst, hsecond, rfl, rfl⟩

/-- The digit groups of three rows with one separator. -/
theorem digitGroups_three {first second third : List Char} {s : Char}
    (hs : isDateSeparator s = true) (hfirst : ∀ x ∈ first, isDigit x = true)
    (hsecond : ∀ x ∈ second, isDigit x = true) (hthird : ∀ x ∈ third, isDigit x = true) :
    digitGroups (first ++ s :: (second ++ s :: third)) =
      some ([first.map valueOfDigit, second.map valueOfDigit, third.map valueOfDigit], [s, s]) :=
  digitGroups_eq_some_iff.mpr
    ⟨[first, second, third], .more hfirst hs (.more hsecond hs (.last hthird)), rfl⟩

/-- **A text is taken apart in the form that it was written in**, and only so. -/
theorem WrittenDate.ofChars?_eq_some_iff : WrittenDate.ofChars? cs = some w ↔ w.Spells cs := by
  constructor
  · intro h
    unfold WrittenDate.ofChars? at h
    split at h
    · rename_i a b c s t hgroups
      obtain ⟨first, second, third, rfl, hs, -, hfirst, hsecond, hthird, rfl, rfl, rfl⟩ :=
        exists_three_rows hgroups
      split at h
      · cases h
      rename_i hsame
      obtain rfl : s = t := not_not.mp hsame
      split at h
      · rename_i hform
        cases h
        exact .yearFirst hs (isNumeral_of_length hfirst hform.1)
          (isNumeral_of_isShort hsecond hform.2.1) (isNumeral_of_isShort hthird hform.2.2)
      split at h
      · rename_i hform
        cases h
        exact .yearLast hs (isNumeral_of_isShort hfirst hform.1)
          (isNumeral_of_isShort hsecond hform.2.1) (isNumeral_of_length hthird hform.2.2)
      · cases h
    · rename_i a b s hgroups
      obtain ⟨first, second, rfl, hs, hfirst, hsecond, rfl, rfl⟩ := exists_two_rows hgroups
      split at h
      · rename_i hform
        cases h
        exact .noYear hs (isNumeral_of_isShort hfirst hform.1)
          (isNumeral_of_isShort hsecond hform.2)
      · cases h
    · cases h
  · intro h
    cases h with
    | yearFirst hs hyear hmonth hday =>
      have hform := And.intro hyear.length_map (And.intro hmonth.isShort_map hday.isShort_map)
      rw [WrittenDate.ofChars?, digitGroups_three hs hyear.digit hmonth.digit hday.digit]
      simp only [ne_eq, not_true_eq_false, if_false, if_pos hform, hyear.ofDigits_map,
        hmonth.ofDigits_map, hday.ofDigits_map]
    | @yearLast a b y first second year s hs hfirst hsecond hyear =>
      have hform := And.intro hfirst.isShort_map (And.intro hsecond.isShort_map hyear.length_map)
      -- a row of two digits at most is no year
      have hshort : ¬((first.map valueOfDigit).length = 4 ∧
          isShort (second.map valueOfDigit) = true ∧ isShort (year.map valueOfDigit) = true) := by
        rw [List.length_map]
        have hmost := hfirst.le_most
        omega
      rw [WrittenDate.ofChars?, digitGroups_three hs hfirst.digit hsecond.digit hyear.digit]
      simp only [ne_eq, not_true_eq_false, if_false, if_neg hshort, if_pos hform,
        hfirst.ofDigits_map, hsecond.ofDigits_map, hyear.ofDigits_map]
    | @noYear m d month day s hs hmonth hday =>
      have hgroups : digitGroups (month ++ s :: day) =
          some ([month.map valueOfDigit, day.map valueOfDigit], [s]) :=
        digitGroups_eq_some_iff.mpr
          ⟨[month, day], .more hmonth.digit hs (.last hday.digit), rfl⟩
      have hform := And.intro hmonth.isShort_map hday.isShort_map
      rw [WrittenDate.ofChars?, hgroups]
      simp only [if_pos hform, hmonth.ofDigits_map, hday.ofDigits_map]

theorem WrittenDate.Spells.unique {w' : WrittenDate} (h : w.Spells cs) (h' : w'.Spells cs) :
    w = w' :=
  Option.some.inj ((WrittenDate.ofChars?_eq_some_iff.mpr h).symm.trans
    (WrittenDate.ofChars?_eq_some_iff.mpr h'))

/-- A date text consists of digits and separators. -/
theorem WrittenDate.Spells.isDateChar (h : w.Spells cs) : ∀ x ∈ cs, isDateChar x = true := by
  have hdigit : ∀ {least most n : Nat} {row : List Char}, IsNumeral least most n row →
      ∀ x ∈ row, Journal.isDateChar x = true := fun hrow x hx => by
    rw [Journal.isDateChar, hrow.digit x hx, Bool.true_or]
  have hseparator : ∀ {s : Char}, isDateSeparator s = true → Journal.isDateChar s = true :=
    fun hs => by rw [Journal.isDateChar, hs, Bool.or_true]
  cases h with
  | yearFirst hs h₁ h₂ h₃ | yearLast hs h₁ h₂ h₃ =>
    rw [List.forall_mem_append, List.forall_mem_cons, List.forall_mem_append,
      List.forall_mem_cons]
    exact ⟨hdigit h₁, hseparator hs, hdigit h₂, hseparator hs, hdigit h₃⟩
  | noYear hs h₁ h₂ =>
    rw [List.forall_mem_append, List.forall_mem_cons]
    exact ⟨hdigit h₁, hseparator hs, hdigit h₂⟩

/-- A date text has no blanks, so trimming leaves it as it is. -/
theorem WrittenDate.Spells.trimChars_eq (h : w.Spells cs) : trimChars cs = cs :=
  trimChars_eq_self fun x hx => isBlank_of_isDateChar (h.isDateChar x hx)

end Forms

/-! ## Reading -/

/-- Whether an order is one that dates can be read in. -/
def DateOrder.IsKnown (order : DateOrder) : Prop :=
  order = .dayFirst ∨ order = .monthFirst

/-- What is taken for the year, the month and the number of a day; a date without a year takes the
given one. -/
def WrittenDate.components (order : DateOrder) (year : Int) : WrittenDate → Int × Int × Int
  | yearFirst y m d => (y, m, d)
  | yearLast first s second y =>
    if isDayFirst order first s second then (y, second, first) else (y, first, second)
  | noYear m d => (year, m, d)

section Reading

variable {order : DateOrder} {defaultYear : Option Int} {today date : Date} {raw : Option String}
  {w : WrittenDate}

theorem Date.read_eq (horder : order.IsKnown) (defaultYear : Option Int) (today : Date)
    (raw : Option String) :
    Date.read order defaultYear today raw =
      match WrittenDate.ofChars? (trimChars (raw.getD "").toList) with
      | some w =>
        let c := w.components order (defaultYear.getD today.year)
        dayOf raw c.1 c.2.1 c.2.2
      | none => .error (.unrecognized raw) := by
  rw [Date.read]
  · cases WrittenDate.ofChars? (trimChars (raw.getD "").toList) with
    | none => rfl
    | some w =>
      cases w with
      | yearLast first s second year =>
        dsimp only [WrittenDate.components]
        split <;> rfl
      | _ => rfl
  · rcases horder with rfl | rfl <;> rintro name ⟨⟩

/-- There is one day with the year, the month and the number of a day, and this is it. -/
theorem Date.make_eq_ok_iff {year month day : Int} :
    Date.make year month day = .ok date ↔
      year = date.year ∧ month = date.month ∧ day = date.day := by
  constructor
  · intro hmake
    unfold Date.make at hmake
    split at hmake
    · cases hmake
    split at hmake
    · cases hmake
    split at hmake
    · cases hmake
    split at hmake
    · rename_i hday
      cases hmake
      obtain ⟨hfirstYear, -, hfirstMonth, -, hfirstDay, -⟩ := hday
      refine ⟨?_, ?_, ?_⟩ <;> dsimp only <;> omega
    · cases hmake
  · rintro ⟨rfl, rfl, rfl⟩
    obtain ⟨hfirstYear, hlastYear, hfirstMonth, hlastMonth, hfirstDay, hlastDay⟩ := date.isDay
    have hshort := hlastDay.trans (Date.monthLength_le date.year date.month)
    have hcalendar : ∀ n : Nat, n ≤ 9999 → isCalendarNumber n = true := by
      intro n hn
      rw [isCalendarNumber, Bool.and_eq_true, decide_eq_true_eq, decide_eq_true_eq]
      omega
    unfold Date.make
    rw [hcalendar _ hlastYear, hcalendar _ (by omega), hcalendar _ (by omega),
      if_neg (by decide), if_neg (by omega), if_neg (by omega)]
    exact dif_pos date.isDay

theorem dayOf_eq_ok_iff {year month day : Int} :
    dayOf raw year month day = .ok date ↔
      year = date.year ∧ month = date.month ∧ day = date.day := by
  rw [← Date.make_eq_ok_iff, dayOf]
  split
  · rename_i d hd
    rw [hd, Except.ok.injEq, Except.ok.injEq]
  · rename_i hoverflow
    rw [hoverflow]
    exact ⟨nofun, nofun⟩
  · rename_i e _ he
    rw [he]
    exact ⟨nofun, nofun⟩

/-- **The day that a text stands for** is the one with the components that are written in it. -/
theorem Date.read_eq_ok_iff (horder : order.IsKnown) :
    Date.read order defaultYear today raw = .ok date ↔
      ∃ w : WrittenDate, w.Spells (trimChars (raw.getD "").toList) ∧
        w.components order (defaultYear.getD today.year) =
          ((date.year : Int), (date.month : Int), (date.day : Int)) := by
  rw [Date.read_eq horder]
  constructor
  · intro h
    split at h
    · rename_i w hw
      obtain ⟨hyear, hmonth, hday⟩ := dayOf_eq_ok_iff.mp h
      exact ⟨w, WrittenDate.ofChars?_eq_some_iff.mp hw,
        Prod.ext hyear (Prod.ext hmonth hday)⟩
    · cases h
  · rintro ⟨w, hw, hcomponents⟩
    rw [WrittenDate.ofChars?_eq_some_iff.mpr hw]
    dsimp only
    rw [hcomponents]
    exact dayOf_eq_ok_iff.mpr ⟨rfl, rfl, rfl⟩

/-- What is read of a text that was put together. -/
theorem Date.read_of_spells (horder : order.IsKnown) {cs : List Char} (hcs : w.Spells cs)
    (hcomponents : w.components order (defaultYear.getD today.year) =
      ((date.year : Int), (date.month : Int), (date.day : Int))) :
    Date.read order defaultYear today (some (String.ofList cs)) = .ok date := by
  refine (Date.read_eq_ok_iff horder).mpr ⟨w, ?_, hcomponents⟩
  rw [Option.getD_some, String.toList_ofList, hcs.trimChars_eq]
  exact hcs

end Reading

end Daybook.Calendar
