import Daybook.Proofs.Amount.Grouped
import Mathlib.Data.List.Find

/-!
# Numbers under an explicit decimal mark

Under an explicit decimal mark the other marks of a number separate groups.  A number is refused if the
decimal mark occurs twice, and in general if there are two other marks.  Where the marks stand does not
matter: `1,000.50` is a number under the decimal comma, with the point as its separator.  And there is
one pair of other marks that is not refused, an apostrophe and a single point behind it under the
decimal comma: the apostrophe is taken for the separator, and the point is left as a decimal point.

* `OneSeparator`, `StrayPoint`, `TakenUnder`: the marks with which a number is taken.
* `isSome_plainNumber?_given_iff`: these are the numbers that are taken.
* `exists_decimal_of_plainNumber?`: what is taken can be read.
* `readQuantity_explicit`: the quantities of amounts under an explicit decimal mark.
-/

namespace Daybook.Amount

open Text Number

variable {m : Char} {number sign : List Char}

/-- The marks of a number, in the order in which they stand there. -/
def marksIn (number : List Char) : List Char :=
  number.filter isMark

/-- Whether all marks but the decimal mark are one. -/
def OneSeparator (m : Char) (marks : List Char) : Prop :=
  ∀ x ∈ marks, ∀ y ∈ marks, x ≠ m → y ≠ m → x = y

/-- Whether a single point stands behind an apostrophe, and there is no comma though this is the decimal
mark. -/
structure StrayPoint (m : Char) (marks : List Char) : Prop where
  mark : m = ','
  comma : ',' ∉ marks
  point : marks.count '.' = 1
  first : marks.head? = some '\''

/-- Whether a number with these marks is taken under an explicit decimal mark. -/
def TakenUnder (m : Char) (marks : List Char) : Prop :=
  marks.count m ≤ 1 ∧ (OneSeparator m marks ∨ StrayPoint m marks)

section Decidable

variable {marks : List Char}

instance : Decidable (OneSeparator m marks) :=
  decidable_of_iff ((marks.all fun x => marks.all fun y => x = m ∨ y = m ∨ x = y) = true) (by
    simp only [OneSeparator, List.all_eq_true, decide_eq_true_eq, or_iff_not_imp_left, Ne])

instance : Decidable (StrayPoint m marks) :=
  decidable_of_iff (m = ',' ∧ ',' ∉ marks ∧ marks.count '.' = 1 ∧ marks.head? = some '\'')
    ⟨fun ⟨hmark, hcomma, hpoint, hfirst⟩ => ⟨hmark, hcomma, hpoint, hfirst⟩,
      fun h => ⟨h.mark, h.comma, h.point, h.first⟩⟩

instance : Decidable (TakenUnder m marks) :=
  inferInstanceAs (Decidable (_ ∧ _))

end Decidable

/-- A sign is no mark. -/
theorem marksIn_append (hsign : IsSignText sign) : marksIn (sign ++ number) = marksIn number := by
  rcases hsign with rfl | ⟨c, hc, rfl⟩
  · rfl
  · rcases isSign_iff.mp hc with rfl | rfl <;> rfl

theorem mem_marksIn {x : Char} : x ∈ marksIn number ↔ x ∈ number ∧ isMark x = true :=
  List.mem_filter

theorem count_marksIn {x : Char} (hx : isMark x = true) :
    (marksIn number).count x = number.count x :=
  List.count_filter hx

/-! ## What is taken -/

theorem eq_of_countP_le_one {p : Char → Bool} (h : number.countP p ≤ 1) {x y : Char}
    (hx : x ∈ number) (hpx : p x = true) (hy : y ∈ number) (hpy : p y = true) : x = y := by
  have hmemx := List.mem_filter.mpr ⟨hx, hpx⟩
  have hmemy := List.mem_filter.mpr ⟨hy, hpy⟩
  rw [List.countP_eq_length_filter] at h
  cases hfilter : number.filter p with
  | nil =>
    rw [hfilter] at hmemx
    cases hmemx
  | cons z zs =>
    rw [hfilter] at h hmemx hmemy
    obtain rfl : zs = [] := List.eq_nil_of_length_eq_zero (by rw [List.length_cons] at h; omega)
    exact (List.mem_singleton.mp hmemx).trans (List.mem_singleton.mp hmemy).symm

section Given

/-- The separator that is found, if there is one, is a mark of the number but not the decimal mark. -/
theorem of_mem_group {g : Char} (h : (Marks.given m number).group = some g) :
    g ∈ marksIn number ∧ g ≠ m := by
  have hg := List.find?_some h
  rw [Bool.and_eq_true, bne_iff_ne] at hg
  exact ⟨mem_marksIn.mpr ⟨List.mem_of_find?_eq_some h, hg.1⟩, hg.2⟩

/-- If none is found, there is no mark but the decimal mark. -/
theorem eq_of_group_eq_none (h : (Marks.given m number).group = none) {x : Char}
    (hx : x ∈ marksIn number) : x = m := by
  obtain ⟨hmem, hmark⟩ := mem_marksIn.mp hx
  by_contra hne
  exact List.find?_eq_none.mp h x hmem (by simp [hmark, hne])

/-- Without a comma the first mark is the separator under the decimal comma. -/
theorem group_of_no_comma (h : ',' ∉ marksIn number) :
    (Marks.given ',' number).group = (marksIn number).head? := by
  have hcomma : ',' ∉ number := fun hmem => h (mem_marksIn.mpr ⟨hmem, rfl⟩)
  rw [marksIn, List.head?_filter]
  refine List.find?_congr fun x hx => ?_
  have hne : x ≠ ',' := fun heq => hcomma (heq ▸ hx)
  simp [hne]

theorem eq_of_decimal {x : Char} (h : some x = (Marks.given m number).decimal) : x = m := by
  rw [Marks.given] at h
  dsimp only at h
  split at h
  · exact Option.some.inj h
  · cases h

theorem decimal_of_mem (h : m ∈ number) : (Marks.given m number).decimal = some m :=
  if_pos (List.contains_iff_mem.mpr h)

/-- A mark in a number is a point, a comma or an apostrophe. -/
theorem mark_cases_of_mem (hnumber : ∀ x ∈ number, isNumberChar x = true) {x : Char}
    (hx : x ∈ marksIn number) : x = '.' ∨ x = ',' ∨ x = '\'' := by
  obtain ⟨hmem, hmark⟩ := mem_marksIn.mp hx
  rcases isNumberChar_iff.mp (hnumber x hmem) with hdigit | h | h | h
  · rw [isDigit_of_isMark hmark] at hdigit
    cases hdigit
  · exact .inl h
  · exact .inr (.inl h)
  · exact .inr (.inr h)

variable (hm : m = '.' ∨ m = ',') (hnumber : ∀ x ∈ number, isNumberChar x = true)
include hm

include hnumber in
/-- A point that is neither the decimal mark nor the separator is a stray point. -/
theorem strayPoint_of_point {g : Char} (hgroup : (Marks.given m number).group = some g)
    (hpoint : '.' ∈ marksIn number) (hg : g ≠ '.') (hmark : m ≠ '.')
    (hcount : number.countP (fun x => (some x = (Marks.given m number).decimal ∨ x = '.') ∧
      some x ≠ (Marks.given m number).group) ≤ 1) : StrayPoint m (marksIn number) := by
  obtain rfl : m = ',' := hm.resolve_left hmark
  obtain ⟨hmem, hne⟩ := of_mem_group hgroup
  have hapostrophe : g = '\'' := ((mark_cases_of_mem hnumber hmem).resolve_left hg).resolve_left hne
  rw [hgroup, hapostrophe] at hcount
  have hpointNumber : '.' ∈ number := (mem_marksIn.mp hpoint).1
  have hcomma : ',' ∉ marksIn number := fun hcomma => by
    have hcommaNumber : ',' ∈ number := (mem_marksIn.mp hcomma).1
    have heq := eq_of_countP_le_one hcount hcommaNumber (by simp [decimal_of_mem hcommaNumber])
      hpointNumber (by simp)
    cases heq
  refine ⟨rfl, hcomma, le_antisymm (le_trans ?_ hcount) (List.count_pos_iff.mpr hpoint), ?_⟩
  · rw [count_marksIn rfl, List.count_eq_countP]
    refine List.countP_mono_left fun x _ hx => ?_
    rw [beq_iff_eq.mp hx]
    simp
  · rw [← hapostrophe, ← hgroup, group_of_no_comma hcomma]

include hnumber in
/-- A number that is taken has one separator at most, or a stray point. -/
theorem takenUnder_of_isSome (h : (plainNumber? (some m) number).isSome) :
    TakenUnder m (marksIn number) := by
  obtain ⟨hdecimal, hmarks, hcount⟩ := isSome_plainNumber?_iff.mp h
  rw [marksOf] at hdecimal hmarks hcount
  constructor
  · by_cases hmem : m ∈ number
    · rw [count_marksIn (isMark_of_decimal hm)]
      exact hdecimal m (decimal_of_mem hmem)
    · have hnone : m ∉ marksIn number := fun hmark => hmem (mem_marksIn.mp hmark).1
      exact (List.count_eq_zero.mpr hnone).le.trans (Nat.zero_le 1)
  cases hgroup : (Marks.given m number).group with
  | none => exact .inl fun x hx _ _ hne _ => absurd (eq_of_group_eq_none hgroup hx) hne
  | some g =>
    by_cases hstray : '.' ∈ marksIn number ∧ g ≠ '.' ∧ m ≠ '.'
    · obtain ⟨hpoint, hg, hmark⟩ := hstray
      exact .inr (strayPoint_of_point hm hnumber hgroup hpoint hg hmark hcount)
    · have hsame : ∀ x ∈ marksIn number, x ≠ m → x = g := fun x hx hne => by
        obtain ⟨hmem, hmark⟩ := mem_marksIn.mp hx
        rcases hmarks x hmem hmark with h | h | rfl
        · exact absurd (eq_of_decimal h) hne
        · exact Option.some.inj (h.trans hgroup)
        · by_contra hg
          exact hstray ⟨hx, Ne.symm hg, hne.symm⟩
      exact .inl fun x hx y hy hxne hyne => (hsame x hx hxne).trans (hsame y hy hyne).symm

/-- A number with one separator is taken. -/
theorem isSome_of_oneSeparator (hcount : (marksIn number).count m ≤ 1)
    (hseparator : OneSeparator m (marksIn number)) : (plainNumber? (some m) number).isSome := by
  rw [count_marksIn (isMark_of_decimal hm)] at hcount
  -- the separator that is found is the only one
  have hother : ∀ x ∈ marksIn number, x ≠ m → some x = (Marks.given m number).group := by
    intro x hx hne
    cases hgroup : (Marks.given m number).group with
    | none => exact absurd (eq_of_group_eq_none hgroup hx) hne
    | some g =>
      obtain ⟨hmem, hgne⟩ := of_mem_group hgroup
      rw [hseparator x hx g hmem hne hgne]
  refine isSome_plainNumber?_iff.mpr
    ⟨fun d hd => eq_of_decimal hd.symm ▸ hcount, fun x hx hmark => ?_, ?_⟩
  · by_cases hne : x = m
    · exact .inl (hne ▸ (decimal_of_mem (hne ▸ hx)).symm)
    · exact .inr (.inl (hother x (mem_marksIn.mpr ⟨hx, hmark⟩) hne))
  · refine le_trans (List.countP_mono_left fun x hx hp => ?_) hcount
    obtain ⟨hpoint, hgroup⟩ := of_decide_eq_true hp
    rw [beq_iff_eq]
    rcases hpoint with hdecimal | rfl
    · exact eq_of_decimal hdecimal
    · by_contra hne
      exact hgroup (hother '.' (mem_marksIn.mpr ⟨hx, rfl⟩) hne)

omit hm in
include hnumber in
/-- A number with a stray point is taken. -/
theorem isSome_of_strayPoint (h : StrayPoint m (marksIn number)) :
    (plainNumber? (some m) number).isSome := by
  obtain ⟨rfl, hcomma, hpoint, hfirst⟩ := h
  have hgroup := (group_of_no_comma hcomma).trans hfirst
  have hnone : ',' ∉ number := fun hmem => hcomma (mem_marksIn.mpr ⟨hmem, rfl⟩)
  rw [count_marksIn rfl] at hpoint
  refine isSome_plainNumber?_iff.mpr ⟨fun d hd => ?_, fun x hx hmark => ?_, ?_⟩
  · rw [eq_of_decimal hd.symm, List.count_eq_zero.mpr hnone]
    exact Nat.zero_le 1
  · rcases mark_cases_of_mem hnumber (mem_marksIn.mpr ⟨hx, hmark⟩) with h | rfl | rfl
    · exact .inr (.inr h)
    · exact absurd hx hnone
    · exact .inr (.inl hgroup.symm)
  · refine le_trans (List.countP_mono_left fun x hx hp => ?_) hpoint.le
    rcases (of_decide_eq_true hp).1 with h | h
    · exact absurd (eq_of_decimal h ▸ hx) hnone
    · exact beq_iff_eq.mpr h

include hnumber in
/-- **The numbers that are taken** under an explicit decimal mark. -/
theorem isSome_plainNumber?_given_iff : (plainNumber? (some m) number).isSome ↔
    TakenUnder m (marksIn number) := by
  refine ⟨takenUnder_of_isSome hm hnumber, ?_⟩
  rintro ⟨hcount, hseparator | hstray⟩
  · exact isSome_of_oneSeparator hm hcount hseparator
  · exact isSome_of_strayPoint hnumber hstray

end Given

/-! ## What is read -/

/-- Digits and one point at most are a number with a point. -/
theorem exists_withMark {cs : List Char} (h : ∀ c ∈ cs, isDigit c = true ∨ c = '.')
    (hcount : cs.count '.' ≤ 1) : ∃ whole fraction, cs = Decimal.withMark '.' whole fraction ∧
      (∀ c ∈ whole ++ fraction.getD [], isDigit c = true) ∧
      cs.countP isDigit ≤ (whole ++ fraction.getD []).length ∧
      (whole ++ fraction.getD []).length ≤ cs.length := by
  by_cases hpoint : '.' ∈ cs
  · obtain ⟨whole, fraction, rfl⟩ := List.append_of_mem hpoint
    rw [List.count_append, List.count_cons_self] at hcount
    have hdigits : ∀ c ∈ whole ++ fraction, isDigit c = true := fun c hc => by
      rcases List.mem_append.mp hc with hc | hc
      · refine (h c (List.mem_append_left _ hc)).resolve_right ?_
        rintro rfl
        have hpos := List.count_pos_iff.mpr hc
        omega
      · refine (h c (List.mem_append_right _ (List.mem_cons_of_mem _ hc))).resolve_right ?_
        rintro rfl
        have hpos := List.count_pos_iff.mpr hc
        omega
    refine ⟨whole, some fraction, rfl, hdigits, ?_, ?_⟩
    · rw [List.countP_append, List.countP_cons_of_neg (by decide), ← List.countP_append]
      exact List.countP_le_length
    · simp
  · have hdigits : ∀ c ∈ cs, isDigit c = true := fun c hc =>
      (h c hc).resolve_right fun heq => hpoint (heq ▸ hc)
    refine ⟨cs, none, rfl, ?_, ?_, ?_⟩ <;> rw [Option.getD_none, List.append_nil]
    · exact hdigits
    · exact List.countP_le_length

theorem IsNumber.exists_digit (h : IsNumber number) : ∃ d ∈ number, isDigit d = true := by
  cases h with
  | ofDigit hd hmore => exact ⟨_, List.mem_cons_self, hd⟩
  | ofMark hm hsome hdigits =>
    obtain ⟨d, ds, rfl⟩ := List.exists_cons_of_ne_nil hsome
    exact ⟨d, List.mem_cons_of_mem _ List.mem_cons_self, hdigits d List.mem_cons_self⟩

section Read

variable (hm : m = '.' ∨ m = ',') {plain : List Char} (h : plainNumber? (some m) number = some plain)
include h

/-- A number that is taken is left with digits and one point at most. -/
theorem chars_of_plainNumber? (hnumber : ∀ x ∈ number, isNumberChar x = true) :
    (∀ c ∈ plain, isDigit c = true ∨ c = '.') ∧ plain.count '.' ≤ 1 ∧
      plain.length ≤ number.length := by
  have hmem := (plainNumber?_spec h).2
  unfold plainNumber? at h
  dsimp only at h
  split at h
  · cases h
  split at h
  · cases h
  rename_i htaken
  cases h
  rw [Bool.or_eq_true, not_or, decide_eq_true_eq, Nat.not_lt] at htaken
  refine ⟨fun c hc => ?_, htaken.2, ?_⟩
  · by_contra hother
    rw [not_or] at hother
    refine htaken.1 (List.any_eq_true.mpr ⟨c, hc, ?_⟩)
    rcases isNumberChar_iff.mp (hnumber c ((hmem c hc).resolve_left hother.2)) with
      hdigit | rfl | rfl | rfl
    · exact absurd hdigit hother.1
    · exact absurd rfl hother.2
    · rfl
    · rfl
  · rw [List.length_map]
    exact List.length_filter_le _ _

include hm in
/-- The digits of a number that is taken stay. -/
theorem mem_of_plainNumber? {d : Char} (hd : d ∈ number) (hdigit : isDigit d = true) :
    d ∈ plain := by
  have hmark : ∀ {x : Char}, isMark x = true → d ≠ x := by
    rintro x hx rfl
    rw [isDigit_of_isMark hx] at hdigit
    cases hdigit
  unfold plainNumber? at h
  dsimp only at h
  split at h
  · cases h
  split at h
  · cases h
  cases h
  have hdecimal : ¬some d = (Marks.given m number).decimal := fun hd =>
    hmark (isMark_of_decimal hm) (eq_of_decimal hd)
  have hgroup : ¬some d = (Marks.given m number).group := fun hd =>
    hmark (mem_marksIn.mp (of_mem_group hd.symm).1).2 rfl
  refine List.mem_map.mpr ⟨d, List.mem_filter.mpr ⟨hd, ?_⟩, if_neg hdecimal⟩
  simpa [marksOf] using hgroup

include hm in
/-- **What is taken can be read**, unless it is very long. -/
theorem exists_decimal_of_plainNumber? (hnumber : IsNumber number)
    (hmost : number.length ≤ 10 ^ 18) : ∃ d, Decimal.ofString? (String.ofList plain) = some d := by
  obtain ⟨hchars, hpoints, hlength⟩ := chars_of_plainNumber? h hnumber.isNumberChar
  obtain ⟨whole, fraction, rfl, hdigits, hsome, hle⟩ := exists_withMark hchars hpoints
  refine ⟨_, Decimal.ofString?_withMark hdigits ?_ (hle.trans (hlength.trans hmost))⟩
  obtain ⟨d, hd, hdigit⟩ := hnumber.exists_digit
  have hpos := List.countP_pos_iff.mpr ⟨d, mem_of_plainNumber? hm h hd hdigit, hdigit⟩
  exact List.ne_nil_of_length_pos (Nat.lt_of_lt_of_le hpos hsome)

end Read

/-! ## Quantities -/

/-- **The quantity of an amount under an explicit decimal mark.**  It is refused if the decimal mark
occurs twice, and if there are two other marks, but for the stray point.  Nothing else is refused, so
the other mark can stand on either side of the decimal mark. -/
theorem readQuantity_explicit {text : String} {a : Amount} (ha : ofText? text = some a)
    (hm : m = '.' ∨ m = ',') :
    (∀ v, readQuantity (some (String.singleton m)) (some a.quantity) = .ok v →
        TakenUnder m (marksIn a.quantity.toList)) ∧
      (a.quantity.length ≤ 10 ^ 18 →
        (readQuantity (some (String.singleton m)) (some a.quantity) = .error (.invalid a.quantity) ↔
          ¬TakenUnder m (marksIn a.quantity.toList))) := by
  obtain ⟨sign, number, hquantity, hsign, hnumber, -⟩ := exists_pieces_of_ofChars? ha
  have hlength : a.quantity.length = (sign ++ number).length := by
    rw [hquantity, String.length_ofList]
  rw [readQuantity_singleton hm, hlength, hquantity, String.toList_ofList,
    marksIn_append hsign, ← isSome_plainNumber?_given_iff hm hnumber.isNumberChar,
    readNumber_eq _ hsign hnumber]
  cases hplain : plainNumber? (some m) number with
  | none => exact ⟨nofun, fun _ => iff_of_true rfl Bool.false_ne_true⟩
  | some plain =>
    refine ⟨fun _ _ => rfl, fun hmost => iff_of_false (fun herror => ?_) fun hno => hno rfl⟩
    have hshort : number.length ≤ 10 ^ 18 := le_trans (by simp) hmost
    obtain ⟨d, hd⟩ := exists_decimal_of_plainNumber? hm hplain hnumber hshort
    rw [Option.bind_some, hd] at herror
    dsimp only at herror
    split at herror
    · split at herror <;> cases herror
    · cases herror

/-- A number with two points is refused under the decimal point. -/
theorem readQuantity_explicit_of_two_points :
    ∃ a, ofText? "1.2.3" = some a ∧
      readQuantity (some ".") (some a.quantity) = .error (.invalid a.quantity) := by
  have hsplit : ofText? "1.2.3" = some ⟨"1.2.3", none, false, false, 0, 5, none⟩ := by
    decide +kernel
  exact ⟨_, hsplit, ((readQuantity_explicit hsplit (.inl rfl)).2 (by decide)).mpr (by decide)⟩

/-- A number with its marks the other way round is read, and so is one with an apostrophe and a point,
under the decimal comma. -/
theorem readQuantity_explicit_of_marks_the_other_way :
    (∃ a, ofText? "1,000.50" = some a ∧ a.quantity = "1,000.50" ∧
      readQuantity (some ",") (some a.quantity) = .ok ⟨false, 100050, -5⟩) ∧
    ∃ a, ofText? "1'2.3" = some a ∧ a.quantity = "1'2.3" ∧
      readQuantity (some ",") (some a.quantity) = .ok ⟨false, 123, -1⟩ := by
  refine ⟨⟨_, rfl, rfl, ?_⟩, _, rfl, rfl, ?_⟩ <;> decide +kernel

end Daybook.Amount
