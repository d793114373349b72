import Daybook.Proofs.Amount.Sample
import Daybook.Proofs.Number.Value

/-!
# Numbers in groups

A number is written with its digits in groups, a separator between them, and perhaps a decimal mark and
a fraction.  Under its own decimal mark it is read as the number that its digits stand for, whatever the
groups are.  It is read the same without an explicit mark, unless all its marks are a single point or
comma that separates two groups: this is taken for a decimal mark.

* `GroupedNumber`: a number as it is written; `GroupedNumber.value`.
* `GroupedNumber.count_chars`: how often a mark stands in it.
* `GroupedNumber.marksOf_mark`, `GroupedNumber.infer_chars`: the marks that are found in it.
* `GroupedNumber.readQuantity_chars`: what is read of it.
-/

namespace Daybook.Amount

open Text Number

/-! ## Written numbers -/

/-- A number whose digits stand in groups. -/
structure GroupedNumber where
  /-- The first group. -/
  first : List Char
  /-- The other groups. -/
  more : List (List Char)
  /-- What stands behind the decimal mark, if there is one. -/
  fraction : Option (List Char)
  /-- What stands between the groups. -/
  separator : Char
  mark : Char
  isGroup : ∀ group ∈ first :: more, group ≠ [] ∧ ∀ c ∈ group, isDigit c = true
  isFraction : ∀ c ∈ fraction.getD [], isDigit c = true
  separator_cases : separator = '.' ∨ separator = ',' ∨ separator = '\''
  mark_cases : mark = '.' ∨ mark = ','
  separator_ne : separator ≠ mark

namespace GroupedNumber

variable (n : GroupedNumber)

/-- The digits before the decimal mark. -/
def whole : List Char :=
  n.first ++ n.more.flatten

def digits : List Char :=
  n.whole ++ n.fraction.getD []

/-- The number as it is written. -/
def chars : List Char :=
  Decimal.withMark n.mark (n.first ++ n.more.flatMap (n.separator :: ·)) n.fraction

/-- The number that is written. -/
def value : ℚ :=
  valueOfDigits n.digits / 10 ^ (n.fraction.getD []).length

/-- The number as a decimal. -/
def decimal : Decimal :=
  ⟨false, valueOfDigits n.digits, -(n.fraction.getD []).length⟩

/-- The marks of the number that stand in it. -/
def marks : Marks :=
  ⟨n.fraction.map fun _ => n.mark, n.more.head?.map fun _ => n.separator⟩

/-- Whether the characters show which mark is the decimal mark.  An apostrophe is none, and a single
group has no separator.  In other cases two groups without a fraction look like a number with one. -/
def ShowsMarks : Prop :=
  n.separator = '\'' ∨ n.more = [] ∨ n.fraction.isSome ∨ 2 ≤ n.more.length

end GroupedNumber

/-! ## Inferred marks, by counts -/

section Infer

variable {number : List Char} {m : Char}

theorem Marks.infer_both (hm : m = '.' ∨ m = ',') (hmark : number.count m ≠ 0)
    (hother : number.count (otherMark m) ≠ 0) (hlast : lastOfBoth number = some m) :
    infer number = ⟨some m, some (otherMark m)⟩ := by
  rcases hm with rfl | rfl
  · exact (if_pos ⟨hmark, hother⟩).trans (if_pos hlast)
  · refine (if_pos ⟨hother, hmark⟩).trans (if_neg ?_)
    rw [hlast]
    decide

theorem Marks.infer_several (hm : m = '.' ∨ m = ',') (hmark : 1 < number.count m)
    (hother : number.count (otherMark m) = 0) : infer number = ⟨none, some m⟩ := by
  rcases hm with rfl | rfl
  · have hcommas : number.count ',' = 0 := hother
    simp [infer, hcommas, hmark]
  · have hpoints : number.count '.' = 0 := hother
    simp [infer, hpoints, hmark]

theorem Marks.infer_lone (hm : m = '.' ∨ m = ',') (hmark : number.count m = 1)
    (hother : number.count (otherMark m) = 0) : infer number = ⟨some m, apostrophe? number⟩ := by
  rcases hm with rfl | rfl
  · have hcommas : number.count ',' = 0 := hother
    simp [infer, apostrophe?, hcommas, hmark]
  · have hpoints : number.count '.' = 0 := hother
    simp [infer, apostrophe?, hpoints, hmark]

theorem Marks.infer_plain (hm : m = '.' ∨ m = ',') (hmark : number.count m = 0)
    (hother : number.count (otherMark m) = 0) : infer number = ⟨none, apostrophe? number⟩ := by
  rcases hm with rfl | rfl
  · have hcommas : number.count ',' = 0 := hother
    simp [infer, apostrophe?, hcommas, hmark]
  · have hpoints : number.count '.' = 0 := hother
    simp [infer, apostrophe?, hpoints, hmark]

end Infer

/-! ## Counting marks -/

section Separated

variable {s c : Char} {groups : List (List Char)}

theorem count_separated (h : ∀ group ∈ groups, c ∉ group) :
    (groups.flatMap (s :: ·)).count c = if c = s then groups.length else 0 := by
  induction groups with
  | nil => exact (ite_self 0).symm
  | cons group groups ih =>
    have hgroup := List.count_eq_zero.mpr (h group List.mem_cons_self)
    rw [List.flatMap_cons, List.count_append, ih fun g hg => h g (List.mem_cons_of_mem _ hg)]
    split
    · rename_i hs
      rw [hs, List.count_cons_self, ← hs, hgroup, List.length_cons]
      omega
    · rename_i hs
      rw [List.count_cons_of_ne (Ne.symm hs), hgroup]

theorem filter_separated (h : ∀ group ∈ groups, s ∉ group) :
    (groups.flatMap (s :: ·)).filter (· != s) = groups.flatten := by
  induction groups with
  | nil => rfl
  | cons group groups ih =>
    have hgroup : group.filter (· != s) = group := List.filter_eq_self.mpr fun x hx => by
      rw [bne_iff_ne]
      rintro rfl
      exact h group List.mem_cons_self hx
    rw [List.flatMap_cons, List.filter_append, ih fun g hg => h g (List.mem_cons_of_mem _ hg),
      List.filter_cons_of_neg (by simp), hgroup, List.flatten_cons]

end Separated

theorem isDigit_of_isMark {c : Char} (h : isMark c = true) : isDigit c = false := by
  have hcases : ((c = ',' ∨ c = '.') ∨ c = '\'') ∨ c = ' ' := by
    simpa [isMark] using h
  rcases hcases with ((rfl | rfl) | rfl) | rfl <;> decide

theorem isMark_of_isDigit {c : Char} (h : isDigit c = true) : isMark c = false := by
  by_contra hmark
  rw [isDigit_of_isMark (by simpa using hmark)] at h
  cases h

/-- A decimal mark is a mark. -/
theorem isMark_of_decimal {m : Char} (h : m = '.' ∨ m = ',') : isMark m = true := by
  rcases h with rfl | rfl <;> rfl

namespace GroupedNumber

variable (n : GroupedNumber) {c : Char}

theorem isMark_mark : isMark n.mark = true :=
  isMark_of_decimal n.mark_cases

theorem isMark_separator : isMark n.separator = true := by
  rcases n.separator_cases with h | h | h <;> rw [h] <;> decide

theorem not_mem_first (hc : isDigit c = false) : c ∉ n.first := fun hmem => by
  rw [(n.isGroup n.first List.mem_cons_self).2 c hmem] at hc
  cases hc

theorem not_mem_more (hc : isDigit c = false) : ∀ group ∈ n.more, c ∉ group :=
  fun group hgroup hmem => by
    rw [(n.isGroup group (List.mem_cons_of_mem _ hgroup)).2 c hmem] at hc
    cases hc

theorem not_mem_fraction (hc : isDigit c = false) : c ∉ n.fraction.getD [] := fun hmem => by
  rw [n.isFraction c hmem] at hc
  cases hc

theorem isDigit_of_mem_digits : ∀ c ∈ n.digits, isDigit c = true := by
  intro c hc
  by_contra hno
  have hnot : isDigit c = false := by simpa using hno
  rcases List.mem_append.mp hc with hc | hc
  · rcases List.mem_append.mp hc with hc | hc
    · exact n.not_mem_first hnot hc
    · obtain ⟨group, hgroup, hc⟩ := List.mem_flatten.mp hc
      exact n.not_mem_more hnot group hgroup hc
  · exact n.not_mem_fraction hnot hc

/-- **How often a mark stands in a number**: the separator between every two groups, and the decimal
mark once or never. -/
theorem count_chars (hc : isDigit c = false) : n.chars.count c =
    (if c = n.separator then n.more.length else 0) +
      (if c = n.mark ∧ n.fraction.isSome then 1 else 0) := by
  have hfirst := List.count_eq_zero.mpr (n.not_mem_first hc)
  have hmore := count_separated (s := n.separator) (n.not_mem_more hc)
  have hfraction := List.count_eq_zero.mpr (n.not_mem_fraction hc)
  rw [chars]
  cases hfrac : n.fraction with
  | none => simp [Decimal.withMark, hfirst, hmore]
  | some fraction =>
    rw [hfrac, Option.getD_some] at hfraction
    by_cases hm : c = n.mark
    · subst hm
      simp [Decimal.withMark, hfirst, hmore, hfraction]
    · simp [Decimal.withMark, hfirst, hmore, hfraction, hm, Ne.symm hm]

/-! ## The marks that are found -/

theorem mem_chars_iff (hc : isDigit c = false) : c ∈ n.chars ↔
    c = n.separator ∧ n.more ≠ [] ∨ c = n.mark ∧ n.fraction.isSome := by
  rw [← List.count_pos_iff, n.count_chars hc, ← List.length_pos_iff]
  split <;> split <;> simp_all

/-- **The marks under the decimal mark of a number** are its own. -/
theorem marksOf_mark : marksOf (some n.mark) n.chars = n.marks := by
  refine given_eq ?_ (fun x hx hmark hne => ?_) fun g hg => ?_
  · have hmem := n.mem_chars_iff (isDigit_of_isMark n.isMark_mark)
    rw [marks]
    cases hfrac : n.fraction with
    | some fraction => exact (if_pos (hmem.mpr (.inr ⟨rfl, by rw [hfrac]; rfl⟩))).symm
    | none =>
      refine (if_neg fun h => ?_).symm
      rcases hmem.mp h with ⟨h, -⟩ | ⟨-, h⟩
      · exact n.separator_ne h.symm
      · rw [hfrac] at h
        cases h
  · rcases (n.mem_chars_iff (isDigit_of_isMark hmark)).mp hx with ⟨rfl, hmore⟩ | ⟨h, -⟩
    · obtain ⟨group, groups, hcons⟩ := List.exists_cons_of_ne_nil hmore
      rw [marks, hcons]
      rfl
    · exact absurd h hne
  · obtain ⟨group, hgroup, rfl⟩ := Option.map_eq_some_iff.mp hg
    refine ⟨?_, n.isMark_separator, n.separator_ne⟩
    refine (n.mem_chars_iff (isDigit_of_isMark n.isMark_separator)).mpr (.inl ⟨rfl, ?_⟩)
    exact List.ne_nil_of_mem (List.mem_of_mem_head? hgroup)

/-- The last one of point and comma is the decimal mark, if there is a fraction. -/
theorem lastOfBoth_chars (h : n.fraction.isSome) : Marks.lastOfBoth n.chars = some n.mark := by
  obtain ⟨fraction, hfrac⟩ := Option.isSome_iff_exists.mp h
  have hnone : (fraction.reverse.find? fun c => c == '.' || c == ',') = none := by
    refine List.find?_eq_none.mpr fun x hx => ?_
    have hdigit := n.isFraction x (by rw [hfrac]; exact List.mem_reverse.mp hx)
    rw [Bool.or_eq_true, beq_iff_eq, beq_iff_eq]
    rintro (rfl | rfl) <;> exact absurd hdigit (by decide)
  have hmark : (n.mark == '.' || n.mark == ',') = true := by
    rcases n.mark_cases with hm | hm <;> rw [hm] <;> rfl
  rw [Marks.lastOfBoth, chars, hfrac, Decimal.withMark, List.reverse_append, List.reverse_cons,
    List.append_assoc, List.find?_append, hnone, Option.none_or, List.singleton_append]
  exact List.find?_cons_of_pos hmark

/-- The separator is an apostrophe, or what the decimal mark is not. -/
theorem separator_eq : n.separator = '\'' ∨ n.separator = otherMark n.mark := by
  have hne := n.separator_ne
  rcases n.separator_cases with hs | hs | hs
  · rcases n.mark_cases with hm | hm
    · exact absurd (hs.trans hm.symm) hne
    · exact .inr (by rw [hs, hm]; rfl)
  · rcases n.mark_cases with hm | hm
    · exact .inr (by rw [hs, hm]; rfl)
    · exact absurd (hs.trans hm.symm) hne
  · exact .inl hs

theorem count_mark : n.chars.count n.mark = if n.fraction.isSome then 1 else 0 := by
  rw [n.count_chars (isDigit_of_isMark n.isMark_mark), if_neg n.separator_ne.symm, Nat.zero_add]
  simp only [true_and]

theorem count_otherMark : n.chars.count (otherMark n.mark) =
    if otherMark n.mark = n.separator then n.more.length else 0 := by
  have hdigit : isDigit (otherMark n.mark) = false := by
    rcases n.mark_cases with hm | hm <;> rw [hm] <;> decide
  have hne : ¬(otherMark n.mark = n.mark ∧ n.fraction.isSome) := fun h => otherMark_ne n.mark h.1
  rw [n.count_chars hdigit, if_neg hne, Nat.add_zero]

/-- A number without a separator, or with an apostrophe as its separator, has no other mark than these
and its decimal mark. -/
theorem marks_of_apostrophe (h : n.separator = '\'' ∨ n.more = []) :
    n.chars.count (otherMark n.mark) = 0 ∧ apostrophe? n.chars = n.marks.group := by
  have hmem := n.mem_chars_iff (c := '\'') (by decide)
  have hmark : '\'' ≠ n.mark ∧ otherMark n.mark ≠ '\'' := by
    rcases n.mark_cases with hm | hm <;> rw [hm] <;> decide
  simp only [hmark.1, false_and, or_false] at hmem
  rw [n.count_otherMark, apostrophe?, marks]
  simp only [List.contains_iff_mem, hmem]
  rcases hmore : n.more with _ | ⟨group, groups⟩
  · simp
  · have hs := h.resolve_right (by rw [hmore]; exact List.cons_ne_nil group groups)
    simp [hs, hmark.2]

theorem infer_chars_of_apostrophe (h : n.separator = '\'' ∨ n.more = []) :
    Marks.infer n.chars = n.marks := by
  obtain ⟨hother, hgroup⟩ := n.marks_of_apostrophe h
  have hmark := n.count_mark
  cases hfrac : n.fraction with
  | none =>
    rw [hfrac] at hmark
    rw [Marks.infer_plain n.mark_cases hmark hother, hgroup, marks, hfrac]
    rfl
  | some fraction =>
    rw [hfrac] at hmark
    rw [Marks.infer_lone n.mark_cases hmark hother, hgroup, marks, hfrac]
    rfl

section Separated

variable (hs : n.separator = otherMark n.mark) (hmore : n.more ≠ [])
include hs

theorem count_separator : n.chars.count (otherMark n.mark) = n.more.length := by
  rw [n.count_otherMark, if_pos hs.symm]

include hmore in
theorem group_marks : n.marks.group = some (otherMark n.mark) := by
  obtain ⟨group, groups, hcons⟩ := List.exists_cons_of_ne_nil hmore
  rw [marks, hcons, hs]
  rfl

include hmore in
/-- Point and comma both stand in the number, the decimal mark behind the other. -/
theorem infer_chars_of_fraction (h : n.fraction.isSome) : Marks.infer n.chars = n.marks := by
  have hmark : n.chars.count n.mark ≠ 0 := by
    rw [n.count_mark, if_pos h]
    exact one_ne_zero
  have hother : n.chars.count (otherMark n.mark) ≠ 0 := by
    rw [n.count_separator hs, Ne, List.length_eq_zero_iff]
    exact hmore
  have hdecimal : n.marks.decimal = some n.mark := by
    obtain ⟨fraction, hfrac⟩ := Option.isSome_iff_exists.mp h
    rw [marks, hfrac]
    rfl
  rw [Marks.infer_both n.mark_cases hmark hother (n.lastOfBoth_chars h), ← hdecimal,
    ← n.group_marks hs hmore]

/-- A separator that occurs twice is no decimal mark. -/
theorem infer_chars_of_groups (h : n.fraction = none) (htwo : 2 ≤ n.more.length) :
    Marks.infer n.chars = n.marks := by
  have hback : otherMark (otherMark n.mark) = n.mark := by
    rcases n.mark_cases with hm | hm <;> rw [hm] <;> rfl
  have hcases : otherMark n.mark = '.' ∨ otherMark n.mark = ',' := by
    rcases n.mark_cases with hm | hm <;> rw [hm] <;> decide
  have hmany : 1 < n.chars.count (otherMark n.mark) := by
    rw [n.count_separator hs]
    exact htwo
  have hnone : n.chars.count n.mark = 0 := by
    rw [n.count_mark, h]
    rfl
  have hdecimal : n.marks.decimal = none := by
    rw [marks, h]
    rfl
  rw [Marks.infer_several hcases hmany (by rw [hback]; exact hnone), ← hdecimal,
    ← n.group_marks hs (List.ne_nil_of_length_pos (by omega))]

end Separated

/-- **The marks are found without an explicit decimal mark**, where they show. -/
theorem infer_chars (h : n.ShowsMarks) : Marks.infer n.chars = n.marks := by
  by_cases hlone : n.separator = '\'' ∨ n.more = []
  · exact n.infer_chars_of_apostrophe hlone
  rw [not_or] at hlone
  have hs := n.separator_eq.resolve_left hlone.1
  cases hfrac : n.fraction with
  | some fraction => exact n.infer_chars_of_fraction hs hlone.2 (by rw [hfrac]; rfl)
  | none =>
    refine n.infer_chars_of_groups hs hfrac ?_
    rcases h with h | h | h | h
    · exact absurd h hlone.1
    · exact absurd h hlone.2
    · rw [hfrac] at h
      cases h
    · exact h

/-! ## Reading -/

/-- Without its separators a number is its digits with the decimal mark among them. -/
theorem filter_chars : n.chars.filter (fun c => some c != n.marks.group) =
    Decimal.withMark n.mark n.whole n.fraction := by
  rw [chars, whole, marks]
  cases hmore : n.more with
  | nil =>
    rw [List.flatMap_nil, List.flatten_nil]
    exact List.filter_eq_self.mpr fun x _ => rfl
  | cons group groups =>
    have hpred : (fun c => some c != some n.separator) = (fun c => c != n.separator) := by
      funext c
      exact Bool.eq_iff_iff.mpr (by simp)
    have hdigit := isDigit_of_isMark n.isMark_separator
    have hself : ∀ {cs : List Char}, n.separator ∉ cs →
        cs.filter (fun c => c != n.separator) = cs := fun h =>
      List.filter_eq_self.mpr fun x hx => by
        rw [bne_iff_ne]
        rintro rfl
        exact h hx
    have hjoined : (n.first ++ (group :: groups).flatMap (n.separator :: ·)).filter
        (fun c => c != n.separator) = n.first ++ (group :: groups).flatten := by
      rw [List.filter_append, hself (n.not_mem_first hdigit),
        filter_separated (hmore ▸ n.not_mem_more hdigit)]
    dsimp only [List.head?_cons, Option.map_some]
    rw [hpred]
    cases hfrac : n.fraction with
    | none => exact hjoined
    | some fraction =>
      have hfraction := n.not_mem_fraction hdigit
      rw [hfrac, Option.getD_some] at hfraction
      rw [Decimal.withMark, List.filter_append, hjoined,
        List.filter_cons_of_pos (by simpa using n.separator_ne.symm), hself hfraction]
      rfl

/-- The decimal mark is written as a point. -/
theorem map_withMark : (Decimal.withMark n.mark n.whole n.fraction).map
    (fun c => if some c = n.marks.decimal then '.' else c) =
      Decimal.withMark '.' n.whole n.fraction := by
  have hself : ∀ {cs : List Char}, (∀ c ∈ cs, isDigit c = true) →
      cs.map (fun c => if some c = n.marks.decimal then '.' else c) = cs := fun {cs} h => by
    conv_rhs => rw [← List.map_id cs]
    refine List.map_congr_left fun c hc => if_neg fun hmark => ?_
    obtain ⟨fraction, -, rfl⟩ := Option.map_eq_some_iff.mp hmark.symm
    exact absurd (isMark_of_isDigit (h _ hc)) (by rw [n.isMark_mark]; decide)
  have hwhole := hself fun c hc => n.isDigit_of_mem_digits c (List.mem_append_left _ hc)
  cases hfrac : n.fraction with
  | none => exact hwhole
  | some fraction =>
    have hfraction := n.isFraction
    rw [hfrac, Option.getD_some] at hfraction
    have hdecimal : n.marks.decimal = some n.mark := by
      rw [marks, hfrac]
      rfl
    rw [Decimal.withMark, List.map_append, List.map_cons, hwhole, hself hfraction,
      if_pos hdecimal.symm]
    rfl

end GroupedNumber

/-- Digits with a point among them have no mark but this one. -/
theorem marks_withMark {whole : List Char} {fraction : Option (List Char)}
    (h : ∀ c ∈ whole ++ fraction.getD [], isDigit c = true) :
    (Decimal.withMark '.' whole fraction).any (fun c => isMark c && c != '.') = false ∧
      (Decimal.withMark '.' whole fraction).count '.' ≤ 1 := by
  have hdigits : ∀ {cs : List Char}, (∀ c ∈ cs, isDigit c = true) →
      cs.any (fun c => isMark c && c != '.') = false ∧ cs.count '.' = 0 := fun {cs} hcs => by
    have hmark : ∀ c ∈ cs, isMark c = false := fun c hc => isMark_of_isDigit (hcs c hc)
    refine ⟨List.any_eq_false.mpr fun c hc => by simp [hmark c hc], List.count_eq_zero.mpr ?_⟩
    intro hmem
    cases hmark '.' hmem
  obtain ⟨hwhole, hpoints⟩ := hdigits fun c hc => h c (List.mem_append_left _ hc)
  cases fraction with
  | none => exact ⟨hwhole, hpoints.le.trans (Nat.zero_le 1)⟩
  | some fraction =>
    obtain ⟨hfraction, hmore⟩ := hdigits fun c hc => h c (List.mem_append_right _ hc)
    rw [Option.getD_some] at hfraction hmore
    rw [Decimal.withMark, List.any_append, List.any_cons, List.count_append, List.count_cons_self,
      hwhole, hfraction, hpoints, hmore]
    exact ⟨rfl, le_rfl⟩

namespace GroupedNumber

variable (n : GroupedNumber)

/-- **A number under its own marks** is its digits with a point among them. -/
theorem plainNumber?_chars {mark : Option Char} (h : marksOf mark n.chars = n.marks) :
    plainNumber? mark n.chars = some (Decimal.withMark '.' n.whole n.fraction) := by
  have hcount : n.marks.decimal.any (fun m => 1 < n.chars.count m) = false := by
    have hmark := n.count_mark
    rw [marks]
    cases hfrac : n.fraction with
    | none => rfl
    | some fraction =>
      rw [hfrac] at hmark
      simp [hmark]
  obtain ⟨hother, hpoint⟩ := marks_withMark n.isDigit_of_mem_digits
  unfold plainNumber?
  rw [h]
  dsimp only
  rw [hcount, if_neg Bool.false_ne_true, n.filter_chars, n.map_withMark, hother, Bool.false_or,
    if_neg (by simpa using hpoint)]

theorem isNumber_chars : IsNumber n.chars := by
  have hnumber : ∀ c ∈ n.chars, isNumberChar c = true := fun c hc => by
    by_cases hdigit : isDigit c = true
    · exact isNumberChar_of_isDigit hdigit
    rcases (n.mem_chars_iff (by simpa using hdigit)).mp hc with ⟨rfl, -⟩ | ⟨rfl, -⟩
    · rcases n.separator_cases with hs | hs | hs <;> rw [hs] <;> decide
    · rcases n.mark_cases with hm | hm <;> rw [hm] <;> decide
  obtain ⟨hsome, hdigits⟩ := n.isGroup n.first List.mem_cons_self
  obtain ⟨d, ds, hfirst⟩ := List.exists_cons_of_ne_nil hsome
  obtain ⟨rest, hchars⟩ : ∃ rest, n.chars = d :: rest := by
    rw [chars, hfirst]
    cases n.fraction <;> exact ⟨_, rfl⟩
  rw [hchars] at hnumber ⊢
  refine .ofDigit (hdigits d (hfirst ▸ List.mem_cons_self)) fun x hx => ?_
  exact hnumber x (List.mem_cons_of_mem d hx)

theorem value_decimal : n.decimal.value = n.value := by
  rw [Decimal.value, Decimal.sign, decimal, value, if_neg Bool.false_ne_true, one_mul, zpow_neg,
    zpow_natCast, div_eq_mul_inv]

theorem length_fraction_lt : (n.fraction.getD []).length < n.digits.length := by
  have hpos := List.length_pos_of_ne_nil (n.isGroup n.first List.mem_cons_self).1
  rw [digits, whole, List.length_append, List.length_append]
  omega

/-- The digits of a number are read as they stand, and a minus negates what is read. -/
theorem readNumber_chars {mark : Option Char} (h : marksOf mark n.chars = n.marks)
    (hmost : n.digits.length ≤ 10 ^ 18) {sign : List Char} (hsign : IsSignText sign) :
    readNumber mark (String.ofList (sign ++ n.chars)) =
      if sign = ['-'] then
        match n.decimal.negate? .standard with
        | some e => .ok e
        | none => .error .overflow
      else .ok n.decimal := by
  have hsome : n.digits ≠ [] := List.ne_nil_of_length_pos (Nat.zero_lt_of_lt n.length_fraction_lt)
  have hread : Decimal.ofString? (String.ofList (Decimal.withMark '.' n.whole n.fraction)) =
      some n.decimal := Decimal.ofString?_withMark n.isDigit_of_mem_digits hsome hmost
  have hresult := readNumber_eq mark hsign n.isNumber_chars
  rw [n.plainNumber?_chars h, Option.bind_some, hread] at hresult
  exact hresult

/-- What a quantity with a sign must be read as: the number that is written, or its negative, which is
rounded and can be too large then. -/
def IsReading (sign : List Char) (result : Except QuantityError Decimal) : Prop :=
  if sign = ['-'] then
    ∃ r, Rounded Precision.standard.digits (-n.value) r ∧
      if (10 : ℚ) ^ (Precision.standard.largest + 1) ≤ |r| then result = .error .overflow
      else ∃ v, result = .ok v ∧ v.value = r
  else ∃ v, result = .ok v ∧ v.value = n.value

theorem isReading_readNumber {mark : Option Char} (h : marksOf mark n.chars = n.marks)
    (hmost : n.digits.length ≤ 1000000) {sign : List Char} (hsign : IsSignText sign) :
    n.IsReading sign (readNumber mark (String.ofList (sign ++ n.chars))) := by
  rw [n.readNumber_chars h (hmost.trans (by decide)) hsign, IsReading]
  split
  · -- the fraction has fewer digits than the limit, so that no digit is cut off for it
    have hsmallest : Precision.standard.smallest ≤ n.decimal.adjusted := by
      have hplaces := n.length_fraction_lt
      have hcount := digitCount_pos (valueOfDigits n.digits)
      have hlimit : Precision.standard.smallest = -999999 := rfl
      rw [hlimit, Decimal.adjusted, decimal]
      dsimp only
      omega
    obtain ⟨r, hrounded, hr⟩ := Decimal.negate?_spec (p := .standard) (by decide)
      fun _ => hsmallest
    rw [n.value_decimal] at hrounded
    refine ⟨r, hrounded, ?_⟩
    split at hr
    · rename_i hlarge
      rw [if_pos hlarge, hr]
    · rename_i hfits
      obtain ⟨e, he, hvalue⟩ := hr
      rw [if_neg hfits, he]
      exact ⟨e, rfl, hvalue⟩
  · exact ⟨n.decimal, rfl, n.value_decimal⟩

/-- A negative number is too large only if a million digits stand before its decimal mark. -/
theorem length_whole_of_negate?_eq_none (h : n.decimal.negate? .standard = none) :
    1000000 ≤ n.whole.length := by
  by_contra hfew
  have hlargest : Precision.standard.largest = 999999 := rfl
  have hpos : 1 ≤ n.digits.length := Nat.lt_of_le_of_lt (Nat.zero_le _) n.length_fraction_lt
  have hlength : n.digits.length = n.whole.length + (n.fraction.getD []).length :=
    List.length_append
  have hadjusted : n.decimal.adjusted ≤ _ :=
    Decimal.adjusted_le hpos (valueOfDigits_lt n.digits) false (-(n.fraction.getD []).length)
  have hsome := Decimal.isSome_negate? (lt_of_le_of_lt hadjusted (by rw [hlargest]; omega))
  rw [h] at hsome
  cases hsome

/-- **A number is read as it is written** under its own decimal mark, and it is read the same without an
explicit mark where its characters show which mark it is.  With a plus or without a sign the number
that is read is exact.  The negative is rounded, and only with a million digits before the mark it can
be too large. -/
theorem readQuantity_chars {sign : List Char} (hsign : IsSignText sign)
    (hmost : n.digits.length ≤ 1000000) :
    let text := String.ofList (sign ++ n.chars)
    let result := readQuantity (some (String.singleton n.mark)) (some text)
    n.IsReading sign result ∧
      (n.ShowsMarks → readQuantity none (some text) = result) ∧
      (result = .error .overflow → sign = ['-'] ∧ n.whole.length = 1000000) := by
  dsimp only
  rw [readQuantity_singleton n.mark_cases]
  refine ⟨n.isReading_readNumber n.marksOf_mark hmost hsign, fun hshows => ?_, fun hlarge => ?_⟩
  · have hinferred : marksOf none n.chars = n.marks := n.infer_chars hshows
    have hlimit : n.digits.length ≤ 10 ^ 18 := hmost.trans (by decide)
    rw [n.readNumber_chars n.marksOf_mark hlimit hsign, ← n.readNumber_chars hinferred hlimit hsign]
    rfl
  · rw [n.readNumber_chars n.marksOf_mark (hmost.trans (by decide)) hsign] at hlarge
    split at hlarge
    · rename_i hminus
      refine ⟨hminus, le_antisymm (le_trans ?_ hmost) (n.length_whole_of_negate?_eq_none ?_)⟩
      · rw [digits, List.length_append]
        exact Nat.le_add_right _ _
      · cases hnegate : n.decimal.negate? .standard with
        | none => rfl
        | some e =>
          rw [hnegate] at hlarge
          cases hlarge
    · cases hlarge

/-- A number with a point between its groups and two decimal places. -/
def pointed : GroupedNumber where
  first := ['1']
  more := [['2', '3', '4']]
  fraction := some ['5', '0']
  separator := '.'
  mark := ','
  isGroup group hgroup := by
    rcases List.mem_pair.mp hgroup with rfl | rfl <;>
      exact ⟨List.cons_ne_nil _ _, List.all_eq_true.mp (by decide)⟩
  isFraction := List.all_eq_true.mp (by decide)
  separator_cases := .inl rfl
  mark_cases := .inr rfl
  separator_ne := by decide

/-- Its negative, with the comma as an explicit decimal mark and without one. -/
theorem readQuantity_chars_of_point_and_comma :
    pointed.value = 1234.5 ∧ pointed.IsReading ['-'] (readQuantity (some ",") (some "-1.234,50")) ∧
      readQuantity none (some "-1.234,50") = readQuantity (some ",") (some "-1.234,50") := by
  have hdigits : valueOfDigits pointed.digits = 123450 := by decide +kernel
  have hplaces : (pointed.fraction.getD []).length = 2 := rfl
  have hsign : IsSignText ['-'] := .inr ⟨'-', rfl, rfl⟩
  obtain ⟨hreading, hsame, -⟩ := pointed.readQuantity_chars hsign (by decide)
  refine ⟨?_, hreading, hsame (.inr (.inr (.inl rfl)))⟩
  rw [value, hdigits, hplaces]
  norm_num

/-- A number that is nothing but nines. -/
def nines (k : ℕ) (hk : 0 < k) : GroupedNumber where
  first := List.replicate k '9'
  more := []
  fraction := none
  separator := ','
  mark := '.'
  isGroup group hgroup := by
    rw [List.mem_singleton.mp hgroup]
    exact ⟨by rw [Ne, List.replicate_eq_nil_iff]; omega,
      fun c hc => List.eq_of_mem_replicate hc ▸ by decide⟩
  isFraction := nofun
  separator_cases := .inr (.inl rfl)
  mark_cases := .inl rfl
  separator_ne := by decide

/-- **The negative of a million nines is not read at all**: it is rounded to a number beyond the largest
one. -/
theorem readQuantity_minus_nines : ∃ n : GroupedNumber, n.ShowsMarks ∧ n.digits.length = 1000000 ∧
    readQuantity none (some (String.ofList ('-' :: n.chars))) = .error .overflow := by
  have hchars : ∀ k hk, (nines k hk).chars = List.replicate k '9' := fun k hk =>
    List.append_nil _
  have hdigits : ∀ k hk, (nines k hk).digits.length = k := fun k hk => by
    rw [digits, whole, List.length_append, List.length_append]
    exact List.length_replicate
  refine ⟨nines 1000000 (by decide), .inr (.inl rfl), hdigits _ _, ?_⟩
  rw [hchars]
  exact readQuantity_nines le_rfl (by decide)

end GroupedNumber

end Daybook.Amount
