import Daybook.Proofs.Journal.Marks
import Daybook.Proofs.Pattern.Pieces

/-!
# Dates in lines

A text that has the shape of a date is taken as a whole in front of anything that cannot continue a
date, although one of the shapes is the beginning of another.

* `IsDigits`, `IsDateText`: rows of digits whose length is in some bounds, and dates that are made of
  them; `fits_datePattern`.
* `takesText_datePattern`: a date is taken as a whole.
-/

namespace Daybook.Journal

open Text Calendar Pattern

/-- A row of `least` to `most` digits. -/
structure IsDigits (least most : Nat) (cs : List Char) : Prop where
  digit : ∀ x ∈ cs, isDigit x = true
  least_le : least ≤ cs.length
  le_most : cs.length ≤ most

/-- A text that has the shape of a date: with the year first, with the year last, or without a year. -/
inductive IsDateText : List Char → Prop where
  | yearFirst {year month day : List Char} {s t : Char} (hyear : IsDigits 4 4 year)
    (hs : isDateSeparator s = true) (hmonth : IsDigits 1 2 month) (ht : isDateSeparator t = true)
    (hday : IsDigits 1 2 day) : IsDateText (year ++ s :: (month ++ t :: day))
  | yearLast {first second year : List Char} {s t : Char} (hfirst : IsDigits 1 2 first)
    (hs : isDateSeparator s = true) (hsecond : IsDigits 1 2 second) (ht : isDateSeparator t = true)
    (hyear : IsDigits 4 4 year) : IsDateText (first ++ s :: (second ++ t :: year))
  | noYear {month day : List Char} {s : Char} (hmonth : IsDigits 1 2 month)
    (hs : isDateSeparator s = true) (hday : IsDigits 1 2 day) : IsDateText (month ++ s :: day)

section

variable {γ : Type} {least most least' most' least'' most'' : Nat} {first second third : List Char}
  {s t : Char} {rest : List Char}

theorem isDigit_of_isDateSeparator (h : isDateSeparator s = true) : isDigit s = false := by
  simp only [isDateSeparator, Bool.or_eq_true, beq_iff_eq] at h
  rcases h with (rfl | rfl) | rfl <;> decide +kernel

theorem isDigit_of_isDateChar (h : isDateChar s = false) : isDigit s = false :=
  (Bool.or_eq_false_iff.mp h).1

theorem isDigit_head_cons (h : isDateSeparator s = true) :
    ∀ x ∈ (s :: rest).head?, isDigit x = false := by
  rintro x ⟨⟩
  exact isDigit_of_isDateSeparator h

/-- Two rows of digits with a separator between them. -/
def twoParts (least most least' most' : Nat) : Pattern γ :=
  .all [.between isDigit least most, dateSeparatorPattern, .between isDigit least' most']

/-- Three rows of digits with separators between them. -/
def threeParts (least most least' most' least'' most'' : Nat) : Pattern γ :=
  .all [.between isDigit least most, dateSeparatorPattern, .between isDigit least' most',
    dateSeparatorPattern, .between isDigit least'' most'']

theorem datePattern_eq :
    (datePattern : Pattern γ) =
      .either (threeParts 4 4 1 2 1 2) (.either (threeParts 1 2 1 2 4 4) (twoParts 1 2 1 2)) :=
  rfl

theorem fits_digits {cs : List Char} {fs : List (γ × List Char)} :
    (between isDigit least most : Pattern γ).Fits cs fs ↔ IsDigits least most cs ∧ fs = [] := by
  rw [fits_between]
  exact ⟨fun ⟨hdigit, hleast, hmost, hfs⟩ => ⟨⟨hdigit, hleast, hmost⟩, hfs⟩,
    fun ⟨⟨hdigit, hleast, hmost⟩, hfs⟩ => ⟨hdigit, hleast, hmost, hfs⟩⟩

theorem fits_twoParts {cs : List Char} {fs : List (γ × List Char)} :
    (twoParts least most least' most' : Pattern γ).Fits cs fs ↔
      ∃ first s second, cs = first ++ s :: second ∧ IsDigits least most first ∧
        isDateSeparator s = true ∧ IsDigits least' most' second ∧ fs = [] := by
  constructor
  · intro h
    obtain ⟨first, _, _, _, hahead, hmore, rfl, rfl⟩ := fits_all_cons.mp h
    obtain ⟨_, _, second, _, ⟨s, hs, rfl, rfl⟩, hbehind, rfl, rfl⟩ := fits_all_cons.mp hmore
    obtain ⟨hfirst, rfl⟩ := fits_digits.mp hahead
    obtain ⟨hsecond, rfl⟩ := fits_digits.mp hbehind
    exact ⟨first, s, second, rfl, hfirst, hs, hsecond, rfl⟩
  · rintro ⟨first, s, second, rfl, hfirst, hs, hsecond, rfl⟩
    exact ⟨first, [], _, [], fits_digits.mpr ⟨hfirst, rfl⟩, ⟨[s], [], second, [], ⟨s, hs, rfl, rfl⟩,
      fits_digits.mpr ⟨hsecond, rfl⟩, rfl, rfl⟩, rfl, rfl⟩

theorem fits_threeParts {cs : List Char} {fs : List (γ × List Char)} :
    (threeParts least most least' most' least'' most'' : Pattern γ).Fits cs fs ↔
      ∃ first s second t third, cs = first ++ s :: (second ++ t :: third) ∧
        IsDigits least most first ∧ isDateSeparator s = true ∧ IsDigits least' most' second ∧
        isDateSeparator t = true ∧ IsDigits least'' most'' third ∧ fs = [] := by
  constructor
  · intro h
    obtain ⟨first, _, _, _, hahead, hmore, rfl, rfl⟩ := fits_all_cons.mp h
    obtain ⟨_, _, _, _, ⟨s, hs, rfl, rfl⟩, hlast, rfl, rfl⟩ := fits_all_cons.mp hmore
    obtain ⟨hfirst, rfl⟩ := fits_digits.mp hahead
    obtain ⟨second, t, third, rfl, hsecond, ht, hthird, rfl⟩ := fits_twoParts.mp hlast
    exact ⟨first, s, second, t, third, rfl, hfirst, hs, hsecond, ht, hthird, rfl⟩
  · rintro ⟨first, s, second, t, third, rfl, hfirst, hs, hsecond, ht, hthird, rfl⟩
    exact ⟨first, [], _, [], fits_digits.mpr ⟨hfirst, rfl⟩, ⟨[s], [], _, [], ⟨s, hs, rfl, rfl⟩,
      fits_twoParts.mpr ⟨second, t, third, rfl, hsecond, ht, hthird, rfl⟩, rfl, rfl⟩, rfl, rfl⟩

/-- **What the pattern of dates takes.** -/
theorem fits_datePattern {cs : List Char} {fs : List (γ × List Char)} :
    (datePattern : Pattern γ).Fits cs fs ↔ IsDateText cs ∧ fs = [] := by
  rw [datePattern_eq]
  constructor
  · rintro (h | h | h)
    · obtain ⟨_, _, _, _, _, rfl, hyear, hs, hmonth, ht, hday, rfl⟩ := fits_threeParts.mp h
      exact ⟨.yearFirst hyear hs hmonth ht hday, rfl⟩
    · obtain ⟨_, _, _, _, _, rfl, hfirst, hs, hsecond, ht, hyear, rfl⟩ := fits_threeParts.mp h
      exact ⟨.yearLast hfirst hs hsecond ht hyear, rfl⟩
    · obtain ⟨_, _, _, rfl, hmonth, hs, hday, rfl⟩ := fits_twoParts.mp h
      exact ⟨.noYear hmonth hs hday, rfl⟩
  · rintro ⟨h, rfl⟩
    cases h with
    | yearFirst hyear hs hmonth ht hday =>
      exact .inl (fits_threeParts.mpr ⟨_, _, _, _, _, rfl, hyear, hs, hmonth, ht, hday, rfl⟩)
    | yearLast hfirst hs hsecond ht hyear =>
      exact .inr (.inl
        (fits_threeParts.mpr ⟨_, _, _, _, _, rfl, hfirst, hs, hsecond, ht, hyear, rfl⟩))
    | noYear hmonth hs hday =>
      exact .inr (.inr (fits_twoParts.mpr ⟨_, _, _, rfl, hmonth, hs, hday, rfl⟩))

theorem takesText_digits (h : IsDigits least most first)
    (hrest : ∀ x ∈ rest.head?, isDigit x = false) :
    (between isDigit least most : Pattern γ).TakesText first rest :=
  takesText_between h.digit hrest h.least_le h.le_most

theorem takesText_twoParts (hfirst : IsDigits least most first) (hs : isDateSeparator s = true)
    (hsecond : IsDigits least' most' second) (hrest : ∀ x ∈ rest.head?, isDigit x = false) :
    (twoParts least most least' most' : Pattern γ).TakesText (first ++ s :: second) rest :=
  takesText_seq (takesText_digits hfirst (isDigit_head_cons hs))
    (takesText_seq (takesText_one hs) (takesText_digits hsecond hrest))

theorem takesText_threeParts (hfirst : IsDigits least most first) (hs : isDateSeparator s = true)
    (hsecond : IsDigits least' most' second) (ht : isDateSeparator t = true)
    (hthird : IsDigits least'' most'' third) (hrest : ∀ x ∈ rest.head?, isDigit x = false) :
    (threeParts least most least' most' least'' most'' : Pattern γ).TakesText
      (first ++ s :: (second ++ t :: third)) rest :=
  takesText_seq (takesText_digits hfirst (isDigit_head_cons hs))
    (takesText_seq (takesText_one hs) (takesText_twoParts hsecond ht hthird hrest))

/-- A row of digits that is too short is not taken for a year. -/
theorem leaves_threeParts_short (hfirst : IsDigits least most first)
    (hs : isDateSeparator s = true) (hshort : most < least') (rest : List Char) :
    (threeParts least' most' least'' most'' 1 2 : Pattern γ).leaves (first ++ s :: rest) = [] := by
  refine List.eq_nil_iff_forall_not_mem.mpr fun left hleft => ?_
  obtain ⟨_, _, hfits, hsplit⟩ := exists_fits_of_mem_leaves hleft
  obtain ⟨first', s', second', t', third', rfl, hfirst', hs', -⟩ :=
    fits_threeParts.mp hfits
  rw [List.append_assoc, List.cons_append] at hsplit
  obtain ⟨rfl, -⟩ := append_inj_of_stop hfirst.digit (isDigit_head_cons hs) hfirst'.digit
    (isDigit_head_cons hs') hsplit
  have hleast := hfirst'.least_le
  have hmost := hfirst.le_most
  omega

/-- Behind two rows of digits no third one is read, if no date goes on there. -/
theorem leaves_threeParts_end (hfirst : IsDigits least most first) (hs : isDateSeparator s = true)
    (hsecond : IsDigits least' most' second) (hrest : ∀ x ∈ rest.head?, isDateChar x = false)
    (a b c d e f : Nat) :
    (threeParts a b c d e f : Pattern γ).leaves (first ++ s :: second ++ rest) = [] := by
  refine List.eq_nil_iff_forall_not_mem.mpr fun left hleft => ?_
  obtain ⟨_, _, hfits, hsplit⟩ := exists_fits_of_mem_leaves hleft
  obtain ⟨first', s', second', t', third', rfl, hfirst', hs', hsecond', ht', -⟩ :=
    fits_threeParts.mp hfits
  simp only [List.append_assoc, List.cons_append] at hsplit
  obtain ⟨-, hbehind⟩ := append_inj_of_stop hfirst.digit (isDigit_head_cons hs) hfirst'.digit
    (isDigit_head_cons hs') hsplit
  obtain ⟨-, hend⟩ := append_inj_of_stop hsecond.digit
    (fun x hx => isDigit_of_isDateChar (hrest x hx)) hsecond'.digit (isDigit_head_cons ht')
    (List.cons.inj hbehind).2
  have hno := hrest t' (by rw [hend]; rfl)
  rw [isDateChar, ht', Bool.or_true] at hno
  cases hno

/-- **A date is taken as a whole** where no date goes on. -/
theorem takesText_datePattern {date : List Char} (h : IsDateText date)
    (hrest : ∀ x ∈ rest.head?, isDateChar x = false) :
    (datePattern : Pattern γ).TakesText date rest := by
  have hdigit : ∀ x ∈ rest.head?, isDigit x = false := fun x hx =>
    isDigit_of_isDateChar (hrest x hx)
  rw [datePattern_eq]
  cases h with
  | yearFirst hyear hs hmonth ht hday =>
    exact takesText_either_left (takesText_threeParts hyear hs hmonth ht hday hdigit)
  | yearLast hfirst hs hsecond ht hyear =>
    refine takesText_either_right ?_
      (takesText_either_left (takesText_threeParts hfirst hs hsecond ht hyear hdigit))
    rw [List.append_assoc, List.cons_append]
    exact leaves_threeParts_short hfirst hs (by decide) _
  | noYear hmonth hs hday =>
    refine takesText_either_right ?_ (takesText_either_right
      (leaves_threeParts_end hmonth hs hday hrest _ _ _ _ _ _)
      (takesText_twoParts hmonth hs hday hdigit))
    rw [List.append_assoc, List.cons_append]
    exact leaves_threeParts_short hmonth hs (by decide) _

end

end Daybook.Journal
