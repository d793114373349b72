import Daybook.Amount.Format
import Daybook.Proofs.Number.Decimal
import Daybook.Proofs.Pattern

/-!
# Quantities that are too large

A quantity is read exactly, but a negative one is negated in limited precision, which fails for
numbers at the end of the range.  The quantities of amounts have no written exponent, so only
their digits can get them there.

* `quantity_of_ofChars?`: what the quantity of an amount can hold.
* `countP_of_readQuantity_overflow`: a quantity that is too large is negative and has a million
  digits.
* `readQuantity_nines`: a million nines are enough.
* `CommodityFormat.decimalMark_of_ofSample?`: the decimal mark that a sample shows.
-/

namespace Daybook.Amount

open Text Number

/-! ## What a quantity holds -/

/-- The characters of a quantity. -/
def isQuantityChar (c : Char) : Bool :=
  isSign c || isDigit c || c == '.' || c == ',' || c == '\''

theorem isQuantityChar_of_fits {cs : List Char} {fs : List (Part × List Char)}
    (h : quantityPattern.Fits cs fs) {x : Char} (hx : x ∈ cs) : isQuantityChar x = true := by
  obtain ⟨sign, _, body, _, hsign, hbody, rfl, -⟩ := h
  rw [isQuantityChar]
  simp only [Bool.or_eq_true]
  rcases List.mem_append.mp hx with hx | hx
  · rcases Pattern.fits_opt.mp hsign with ⟨y, hy, rfl, -⟩ | ⟨rfl, -⟩
    · cases List.mem_singleton.mp hx
      tauto
    · cases hx
  rcases hbody with ⟨_, _, more, _, ⟨y, hy, rfl, -⟩, hmore, rfl, -⟩ |
    ⟨_, _, more, _, ⟨y, hy, rfl, -⟩, hmore, rfl, -⟩
  · rcases List.mem_append.mp hx with hx | hx
    · cases List.mem_singleton.mp hx
      tauto
    · have hclass := (Pattern.fits_many.mp hmore).1 x hx
      simp only [Bool.or_eq_true] at hclass
      tauto
  · rcases List.mem_append.mp hx with hx | hx
    · cases List.mem_singleton.mp hx
      rw [Bool.or_eq_true] at hy
      tauto
    · have hdigit := (Pattern.fits_many.mp hmore).1 x hx
      tauto

/-- The only group for a quantity is the one with the shape of a quantity. -/
theorem quantity_of_mem_groups {q : Pattern Part}
    (h : (Part.quantity, q) ∈ amountPattern.groups) : q = quantityPattern := by
  have hmem : (Part.quantity, q) ∈ amountPattern.groups.filter (·.1 = .quantity) :=
    List.mem_filter.mpr ⟨h, by simp⟩
  have hgroups : amountPattern.groups.filter (·.1 = .quantity) =
      [(.quantity, quantityPattern)] := rfl
  rw [hgroups] at hmem
  cases List.mem_singleton.mp hmem
  rfl

/-- The quantity of an amount holds digits, signs and marks only. -/
theorem quantity_of_ofChars? {cs : List Char} {a : Amount} (h : ofChars? cs = some a) {x : Char}
    (hx : x ∈ a.quantity.toList) : isQuantityChar x = true := by
  unfold ofChars? at h
  split at h
  · cases h
  rename_i m hm
  obtain ⟨-, taken, hfits, -⟩ := Pattern.fits_of_match? hm
  have hdigits : ∀ y ∈ m.textD .quantity, isQuantityChar y = true := by
    intro y hy
    rw [Match.textD] at hy
    cases htext : m.text? .quantity with
    | none =>
      rw [htext] at hy
      cases hy
    | some ds =>
      rw [htext] at hy
      obtain ⟨q, inner, hgroup, hq⟩ := hfits.exists_group (Match.mem_fields_of_text? htext)
      cases quantity_of_mem_groups hgroup
      exact isQuantityChar_of_fits hq hy
  unfold ofMatch? at h
  dsimp only at h
  split at h
  · cases h
  split at h
  · cases h
  cases h
  rw [String.toList_ofList] at hx
  split at hx
  · rcases List.mem_cons.mp hx with rfl | hx
    · rfl
    · exact hdigits x hx
  · exact hdigits x hx

/-! ## What is read of a quantity -/

/-- Taking group separators out and writing the decimal mark as a point adds no digit. -/
theorem plainNumber?_spec {mark : Option Char} {body number : List Char}
    (h : plainNumber? mark body = some number) :
    number.countP isDigit ≤ body.countP isDigit ∧ ∀ x ∈ number, x = '.' ∨ x ∈ body := by
  unfold plainNumber? at h
  dsimp only at h
  split at h
  · cases h
  split at h
  · cases h
  cases h
  constructor
  · rw [List.countP_map]
    refine Nat.le_trans (List.countP_mono_left fun c _ hc => ?_)
      (List.Sublist.countP_le List.filter_sublist)
    rw [Function.comp_apply] at hc
    split at hc
    · exact absurd hc (by decide)
    · exact hc
  · intro x hx
    obtain ⟨c, hc, rfl⟩ := List.mem_map.mp hx
    split
    · exact .inl rfl
    · exact .inr (List.mem_of_mem_filter hc)

/-- A negative number overflows only if it has a million digits. -/
theorem countP_of_negate?_eq_none {number : List Char} {d : Decimal}
    (h : Decimal.ofString? (String.ofList number) = some d)
    (hno : ∀ x ∈ number, x ≠ 'e' ∧ x ≠ 'E') (hnegate : d.negate? .standard = none) :
    1000000 ≤ number.countP isDigit := by
  have hbounds := Decimal.ofString?_bounds h (by rwa [String.toList_ofList])
  rw [String.toList_ofList] at hbounds
  obtain ⟨hexponent, hpos, hcoefficient⟩ := hbounds
  by_contra hfew
  rw [Nat.not_le] at hfew
  have hadjusted : d.adjusted ≤ _ :=
    Decimal.adjusted_le hpos hcoefficient d.negative d.exponent
  have hlargest : Precision.standard.largest = 999999 := rfl
  have hsome := Decimal.isSome_negate? (d := d) (by rw [hlargest]; omega)
  rw [hnegate] at hsome
  cases hsome

theorem countP_of_readNumber_overflow {mark : Option Char} {text : String}
    (h : readNumber mark text = .error .overflow)
    (hno : ∀ x ∈ text.toList, x ≠ 'e' ∧ x ≠ 'E') :
    (trimChars text.toList).head? = some '-' ∧ 1000000 ≤ text.toList.countP isDigit := by
  have hsublist := trimChars_sublist text.toList
  unfold readNumber at h
  split at h
  · cases h
  rename_i c rest htrim
  rw [htrim] at hsublist ⊢
  dsimp only at h
  split at h
  · cases h
  rename_i number hnumber
  split at h
  · cases h
  rename_i d hd
  split at h
  · rename_i hminus
    split at h
    · cases h
    rename_i hnegate
    obtain ⟨hcount, hmem⟩ := plainNumber?_spec hnumber
    have hbody : (if isSign c then rest else c :: rest).Sublist text.toList := by
      split
      · exact (List.sublist_cons_self c rest).trans hsublist
      · exact hsublist
    have hmany := countP_of_negate?_eq_none hd (fun x hx => by
      rcases hmem x hx with rfl | hx
      · decide
      · exact hno x (hbody.subset hx)) hnegate
    exact ⟨by rw [hminus, List.head?_cons], hmany.trans (hcount.trans hbody.countP_le)⟩
  · cases h

/-- **A quantity that is too large is negative and has a million digits.** -/
theorem countP_of_readQuantity_overflow {mark : Option String} {text : String}
    (h : readQuantity mark (some text) = .error .overflow)
    (hno : ∀ x ∈ text.toList, x ≠ 'e' ∧ x ≠ 'E') :
    (trimChars text.toList).head? = some '-' ∧ 1000000 ≤ text.toList.countP isDigit := by
  unfold readQuantity at h
  split at h
  · exact countP_of_readNumber_overflow h hno
  · exact countP_of_readNumber_overflow h hno
  · exact countP_of_readNumber_overflow h hno
  · cases h

/-- No character of a quantity starts an exponent. -/
theorem isQuantityChar_ne_exponent {x : Char} (h : isQuantityChar x = true) :
    x ≠ 'e' ∧ x ≠ 'E' := by
  constructor <;> rintro rfl <;> exact absurd h (by decide)

/-- A number without marks stands as it is. -/
theorem plainNumber?_of_no_mark {body : List Char} (h : ∀ x ∈ body, isMark x = false) :
    plainNumber? none body = some body := by
  have hcount : ∀ m, isMark m = true → body.count m = 0 := fun m hm =>
    List.count_eq_zero.mpr fun hmem => absurd (h m hmem) (by rw [hm]; decide)
  have hpoint := hcount '.' (by decide)
  have hcomma := hcount ',' (by decide)
  have hapostrophe : '\'' ∉ body := fun hmem => absurd (h _ hmem) (by decide)
  have hmarks : Marks.infer body = ⟨none, none⟩ := by
    simp [Marks.infer, hpoint, hcomma, hapostrophe]
  have hnone : ∀ x ∈ body, isMark x = true → x = '.' := fun x hx hmark =>
    absurd (h x hx) (by rw [hmark]; decide)
  simpa [plainNumber?, marksOf, hmarks, hpoint] using hnone

/-- **A million nines are enough**: the negative of so many nines cannot be read. -/
theorem readQuantity_nines {n : Nat} (hn : 1000000 ≤ n) (hmost : n ≤ 10 ^ 18) :
    readQuantity none (some (String.ofList ('-' :: List.replicate n '9'))) = .error .overflow := by
  have htrim : trimChars ('-' :: List.replicate n '9') = '-' :: List.replicate n '9' := by
    refine trimChars_eq_self fun x hx => ?_
    rcases List.mem_cons.mp hx with rfl | hx
    · decide
    · rw [List.eq_of_mem_replicate hx]
      decide
  have hplain : plainNumber? none (List.replicate n '9') = some (List.replicate n '9') :=
    plainNumber?_of_no_mark fun x hx => by
      rw [List.eq_of_mem_replicate hx]
      decide
  have hpow : 10 ^ 1 ≤ 10 ^ n := Nat.pow_le_pow_right (by decide) (by omega)
  have hnegate : (⟨false, 10 ^ n - 1, 0⟩ : Decimal).negate? .standard = none := by
    rw [Decimal.negate?]
    exact Decimal.round?_nines hn _
  have hsign : isSign '-' = true := by decide
  simp only [readQuantity, Option.getD_some, readNumber, String.toList_ofList, htrim, hsign,
    if_true, hplain, Decimal.ofString?_nines (by omega) hmost, hnegate]

/-! ## Decimal marks -/

/-- Whether a decimal mark is one that quantities can have. -/
def IsDecimalMark (mark : String) : Prop :=
  mark = "." ∨ mark = ","

theorem isDecimalMark_of_infer {body : List Char} {m : Char}
    (h : (Marks.infer body).decimal = some m) : IsDecimalMark (String.singleton m) := by
  have hmark : m = '.' ∨ m = ',' := by
    unfold Marks.infer at h
    dsimp only at h
    split at h
    · split at h <;> cases h
      · exact .inl rfl
      · exact .inr rfl
    split at h
    · cases h
    split at h
    · cases h
    split at h
    · cases h
      exact .inl rfl
    split at h
    · cases h
      exact .inr rfl
    · cases h
  rcases hmark with rfl | rfl
  · exact .inl (by decide)
  · exact .inr (by decide)

/-- **The decimal mark that a sample shows** is a point or a comma, if the journal has no other. -/
theorem CommodityFormat.decimalMark_of_ofSample? {mark : Option String} {sample : String}
    {f : CommodityFormat} (h : CommodityFormat.ofSample? mark sample = some f)
    (hmark : ∀ m ∈ mark, IsDecimalMark m) : IsDecimalMark f.decimalMark := by
  unfold CommodityFormat.ofSample? at h
  split at h
  · cases h
  rename_i amount _
  split at h
  · cases h
  dsimp only at h
  cases h
  generalize amount.quantity.toList.dropWhile isSign = body
  have hshown : ∀ m ∈ (shownMarks mark body).1, IsDecimalMark m := by
    intro m hm
    unfold shownMarks at hm
    split at hm
    · obtain ⟨c, hc, rfl⟩ := Option.map_eq_some_iff.mp hm
      exact isDecimalMark_of_infer hc
    · dsimp only at hm
      split at hm
      · cases hm
        exact hmark m rfl
      · cases hm
  dsimp only
  rw [List.headD_eq_head?_getD]
  cases hfirst : (List.filterMap (fun m => m.filter fun text => !text.isEmpty)
      [(shownMarks mark body).1, mark]).head? with
  | none => exact .inl rfl
  | some first =>
    obtain ⟨candidate, hcandidate, hfilter⟩ := List.mem_filterMap.mp (List.mem_of_mem_head? hfirst)
    have hsome : candidate = some first := (Option.filter_eq_some_iff.mp hfilter).1
    rw [Option.getD_some]
    rcases List.mem_pair.mp hcandidate with rfl | rfl
    · exact hshown first hsome
    · exact hmark first hsome

end Daybook.Amount
