import Daybook.Number.Integer
import Daybook.Proofs.Number.Decimal

/-!
# Padded numbers

Numbers that are filled up with zeros to the same width are ordered as texts in the way they are
ordered as numbers.

* `IsPadded`, `isPadded_padded`: what a padded number looks like.
* `IsPadded.lt_iff`: the order of padded numbers.
* `append_lt_append_iff`: the order of texts with parts of the same length in front.
-/

namespace Daybook.Number

open Text

/-- Whether a text is a number in a fixed count of ASCII digits. -/
structure IsPadded (width n : Nat) (cs : List Char) : Prop where
  length_eq : cs.length = width
  digit : ∀ c ∈ cs, Char.isDigit c = true
  value : valueOfDigits cs = n

/-- The value of an ASCII digit, and its place among the characters. -/
theorem isDigit_of_ascii {c : Char} (h : Char.isDigit c = true) :
    isDigit c = true ∧ c.toNat = '0'.toNat + valueOfDigit c := by
  simp only [Char.isDigit, Bool.and_eq_true, decide_eq_true_eq] at h
  have hleast : 48 ≤ c.toNat := h.1
  have hmost : c.toNat ≤ 57 := h.2
  have hascii : '0' ≤ c ∧ c ≤ '9' := h
  have hvalue : digitValue? c = some (c.toNat - '0'.toNat) := by
    rw [digitValue?, if_pos (by omega), if_pos hascii]
  have hzero : '0'.toNat = 48 := rfl
  refine ⟨Option.isSome_iff_exists.mpr ⟨_, hvalue⟩, ?_⟩
  rw [valueOfDigit, hvalue, Option.getD_some]
  omega

theorem valueOfDigits_cons (c : Char) (cs : List Char) :
    valueOfDigits (c :: cs) = valueOfDigit c * 10 ^ cs.length + valueOfDigits cs := by
  rw [valueOfDigits, valueOfDigits, List.map_cons, List.reverse_cons, Nat.ofDigits_append,
    Nat.ofDigits_singleton, List.length_reverse, List.length_map]
  ring

theorem valueOfDigits_eq_ofDigitChars {cs : List Char} (h : ∀ c ∈ cs, Char.isDigit c = true) :
    valueOfDigits cs = Nat.ofDigitChars 10 cs 0 := by
  rw [← ofDigits_map_valueOfDigit, ofDigits_eq_foldl, Nat.ofDigitChars_eq_foldl, List.foldl_map]
  refine List.foldl_ext _ _ 0 fun n c hc => ?_
  rw [(isDigit_of_ascii (h c hc)).2]
  omega

/-- **What a padded number looks like.** -/
theorem isPadded_padded {width n : Nat} (hwidth : 0 < width) (h : n < 10 ^ width) :
    IsPadded width n (padded width n).toList := by
  have hlength : (Nat.toDigits 10 n).length ≤ width :=
    (Nat.length_toDigits_le_iff (by decide) hwidth).mpr h
  have hdigit : ∀ c ∈ (padded width n).toList, Char.isDigit c = true := by
    intro c hc
    rw [padded, String.toList_ofList, List.mem_append] at hc
    rcases hc with hc | hc
    · rw [(List.mem_replicate.mp hc).2]
      rfl
    · exact Nat.isDigit_of_mem_toDigits (by decide) (by decide) hc
  refine ⟨?_, hdigit, ?_⟩
  · rw [padded, String.toList_ofList, List.length_append, List.length_replicate]
    omega
  · rw [valueOfDigits_eq_ofDigitChars hdigit, padded, String.toList_ofList, Nat.ofDigitChars_append,
      Nat.ofDigitChars_replicate_zero, Nat.mul_zero, Nat.ofDigitChars_ten_toDigits]

theorem IsPadded.isDigit {width n : Nat} {cs : List Char} (h : IsPadded width n cs) :
    ∀ c ∈ cs, isDigit c = true :=
  fun c hc => (isDigit_of_ascii (h.digit c hc)).1

/-- ASCII digits are ordered by their values. -/
theorem lt_iff_valueOfDigit_lt {c d : Char} (hc : Char.isDigit c = true)
    (hd : Char.isDigit d = true) : c < d ↔ valueOfDigit c < valueOfDigit d := by
  have hplaces : c < d ↔ c.toNat < d.toNat := Iff.rfl
  rw [hplaces, (isDigit_of_ascii hc).2, (isDigit_of_ascii hd).2]
  omega

theorem eq_iff_valueOfDigit_eq {c d : Char} (hc : Char.isDigit c = true)
    (hd : Char.isDigit d = true) : c = d ↔ valueOfDigit c = valueOfDigit d := by
  rw [← Char.toNat_inj, (isDigit_of_ascii hc).2, (isDigit_of_ascii hd).2]
  omega

/-- Rows of ASCII digits of one length are ordered by their values. -/
theorem lt_iff_valueOfDigits_lt {xs ys : List Char} (hxs : ∀ c ∈ xs, Char.isDigit c = true)
    (hys : ∀ c ∈ ys, Char.isDigit c = true) (hlength : xs.length = ys.length) :
    xs < ys ↔ valueOfDigits xs < valueOfDigits ys := by
  induction xs generalizing ys with
  | nil =>
    cases List.length_eq_zero_iff.mp hlength.symm
    simp
  | cons c cs ih =>
    cases ys with
    | nil => cases hlength
    | cons d ds =>
      have hsame : cs.length = ds.length := Nat.succ.inj hlength
      rw [List.forall_mem_cons] at hxs hys
      have hcs := valueOfDigits_lt cs
      have hds := valueOfDigits_lt ds
      rw [List.cons_lt_cons_iff, lt_iff_valueOfDigit_lt hxs.1 hys.1,
        eq_iff_valueOfDigit_eq hxs.1 hys.1, ih hxs.2 hys.2 hsame, valueOfDigits_cons,
        valueOfDigits_cons, hsame]
      rw [hsame] at hcs
      -- the digits behind weigh less than one unit of the first one
      constructor
      · rintro (hlt | ⟨heq, hlt⟩)
        · nlinarith
        · rw [heq]
          exact Nat.add_lt_add_left hlt _
      · intro hlt
        rcases Nat.lt_trichotomy (valueOfDigit c) (valueOfDigit d) with hfirst | hfirst | hfirst
        · exact .inl hfirst
        · rw [hfirst] at hlt
          exact .inr ⟨hfirst, Nat.lt_of_add_lt_add_left hlt⟩
        · nlinarith

/-- **Padded numbers are ordered like the numbers.** -/
theorem IsPadded.lt_iff {width m n : Nat} {xs ys : List Char} (hxs : IsPadded width m xs)
    (hys : IsPadded width n ys) : xs < ys ↔ m < n := by
  rw [lt_iff_valueOfDigits_lt hxs.digit hys.digit (hxs.length_eq.trans hys.length_eq.symm),
    hxs.value, hys.value]

/-- A number is padded in one way only. -/
theorem IsPadded.eq_iff {width m n : Nat} {xs ys : List Char} (hxs : IsPadded width m xs)
    (hys : IsPadded width n ys) : xs = ys ↔ m = n := by
  constructor
  · rintro rfl
    exact hxs.value.symm.trans hys.value
  · rintro rfl
    refine List.le_antisymm (List.not_lt.mp fun h => ?_) (List.not_lt.mp fun h => ?_)
    · exact absurd ((hys.lt_iff hxs).mp h) (Nat.lt_irrefl m)
    · exact absurd ((hxs.lt_iff hys).mp h) (Nat.lt_irrefl m)

/-- Of texts that start with parts of one length, the parts are compared first. -/
theorem append_lt_append_iff {xs ys : List Char} (h : xs.length = ys.length) (zs ws : List Char) :
    xs ++ zs < ys ++ ws ↔ xs < ys ∨ xs = ys ∧ zs < ws := by
  induction xs generalizing ys with
  | nil =>
    cases List.length_eq_zero_iff.mp h.symm
    simp
  | cons c cs ih =>
    cases ys with
    | nil => cases h
    | cons d ds =>
      rw [List.cons_append, List.cons_append, List.cons_lt_cons_iff, List.cons_lt_cons_iff,
        ih (Nat.succ.inj h), List.cons.injEq]
      tauto

end Daybook.Number
