import Daybook.Number.Decimal
import Daybook.Proofs.Text.Trim
import Mathlib.Data.Nat.Digits.Defs
import Mathlib.Tactic.Linarith
import Mathlib.Tactic.Ring

/-!
# Digits and rounding

Digits are put together in halves and counted by halving, so that very long numbers are read in
reasonable time.  Here it is shown that this gives the usual value and the usual number of digits,
and that rounding to limited precision moves the exponent of the first digit up by one at most, so
it only fails for numbers at the very end of the range.

* `ofDigits_eq_foldl`, `ofDigits_lt`: the number that digits stand for.
* `digitCount_le_iff`: the number of digits.
* `Decimal.isSome_round?`: a decimal with some room left can be rounded.
* `Decimal.ofString?_bounds`: the exponent and the coefficient of a text without a written exponent.
* `valueOfDigits`, `Decimal.ofString?_withMark`: what is read of digits, with a point or without.
* `Decimal.ofString?_nines`, `Decimal.round?_nines`: a million nines can be read but not rounded.
-/

namespace Daybook.Number

open Text

/-! ## The number that digits stand for -/

theorem foldl_digits_add (ds : List Nat) (n : Nat) :
    ds.foldl (fun n d => 10 * n + d) n =
      n * 10 ^ ds.length + ds.foldl (fun n d => 10 * n + d) 0 := by
  induction ds generalizing n with
  | nil => simp
  | cons d ds ih =>
    rw [List.foldl_cons, List.foldl_cons, ih (10 * n + d), ih (10 * 0 + d), List.length_cons,
      Nat.pow_succ]
    ring

theorem ofHalvedDigits_succ (levels : Nat) (ds : List Nat) :
    ofHalvedDigits (levels + 1) ds =
      ofHalvedDigits levels (ds.take (ds.length / 2)) * 10 ^ (ds.drop (ds.length / 2)).length +
        ofHalvedDigits levels (ds.drop (ds.length / 2)) := rfl

theorem ofHalvedDigits_eq_foldl (levels : Nat) (ds : List Nat) :
    ofHalvedDigits levels ds = ds.foldl (fun n d => 10 * n + d) 0 := by
  induction levels generalizing ds with
  | zero => rfl
  | succ levels ih =>
    rw [ofHalvedDigits_succ, ih, ih, ← foldl_digits_add, ← List.foldl_append, List.take_append_drop]

/-- Putting digits together in halves or one by one is the same. -/
theorem ofDigits_eq_foldl (ds : List Nat) : ofDigits ds = ds.foldl (fun n d => 10 * n + d) 0 :=
  ofHalvedDigits_eq_foldl _ ds

/-- Some digits stand for a number below the power of ten of their count. -/
theorem ofDigits_lt {ds : List Nat} (h : ∀ d ∈ ds, d < 10) : ofDigits ds < 10 ^ ds.length := by
  rw [ofDigits_eq_foldl]
  induction ds with
  | nil => decide
  | cons d ds ih =>
    have hd : d < 10 := h d List.mem_cons_self
    have hds := ih fun e he => h e (List.mem_cons_of_mem _ he)
    rw [List.foldl_cons, foldl_digits_add, Nat.mul_zero, Nat.zero_add, List.length_cons,
      Nat.pow_succ]
    nlinarith

/-! ## The number of digits -/

theorem digitCountBelow_succ (levels n : Nat) :
    digitCountBelow (levels + 1) n =
      if n < 10 ^ 2 ^ levels then digitCountBelow levels n
      else 2 ^ levels + digitCountBelow levels (n / 10 ^ 2 ^ levels) := rfl

theorem digitCountBelow_pos (levels n : Nat) : 1 ≤ digitCountBelow levels n := by
  induction levels generalizing n with
  | zero => exact Nat.le_refl 1
  | succ levels ih =>
    rw [digitCountBelow_succ]
    split
    · exact ih n
    · exact Nat.le_add_left_of_le (ih _)

theorem digitCountBelow_le_iff {levels n k : Nat} (hn : n < 10 ^ 2 ^ levels) (hk : 1 ≤ k) :
    digitCountBelow levels n ≤ k ↔ n < 10 ^ k := by
  induction levels generalizing n k with
  | zero =>
    have hpow : 10 ^ 1 ≤ 10 ^ k := Nat.pow_le_pow_right (by decide) hk
    exact ⟨fun _ => Nat.lt_of_lt_of_le hn hpow, fun _ => hk⟩
  | succ levels ih =>
    rw [digitCountBelow_succ]
    split
    · rename_i hsmall
      exact ih hsmall hk
    · rename_i hlarge
      rw [Nat.not_lt] at hlarge
      have hpos : 0 < 10 ^ 2 ^ levels := Nat.pow_pos (by decide)
      have hquot : n / 10 ^ 2 ^ levels < 10 ^ 2 ^ levels := by
        rw [Nat.div_lt_iff_lt_mul hpos, ← Nat.pow_add, ← Nat.two_mul, ← Nat.pow_succ']
        exact hn
      have hcount := digitCountBelow_pos levels (n / 10 ^ 2 ^ levels)
      rcases Nat.lt_or_ge (2 ^ levels) k with hlt | hge
      · obtain ⟨j, rfl⟩ := Nat.exists_eq_add_of_le (Nat.le_of_lt hlt)
        rw [Nat.add_le_add_iff_left, ih hquot (by omega), Nat.div_lt_iff_lt_mul hpos,
          ← Nat.pow_add, Nat.add_comm j]
      · have hpow : 10 ^ k ≤ 10 ^ 2 ^ levels := Nat.pow_le_pow_right (by decide) hge
        constructor <;> intro h <;> omega

/-- A number has at most `k` digits if and only if it is below `10 ^ k`. -/
theorem digitCount_le_iff {n k : Nat} (hk : 1 ≤ k) : digitCount n ≤ k ↔ n < 10 ^ k := by
  refine digitCountBelow_le_iff ?_ hk
  have hlog : n.log2 < 2 ^ (n.log2.log2 + 1) := Nat.lt_log2_self
  calc n < 2 ^ (n.log2 + 1) := Nat.lt_log2_self
    _ ≤ 2 ^ 2 ^ (n.log2.log2 + 1) := Nat.pow_le_pow_right (by decide) hlog
    _ ≤ 10 ^ 2 ^ (n.log2.log2 + 1) := Nat.pow_le_pow_left (by decide) _

theorem digitCount_pos (n : Nat) : 1 ≤ digitCount n :=
  digitCountBelow_pos _ n

/-- The largest number with `n` digits. -/
theorem digitCount_nines {n : Nat} (hn : 1 ≤ n) : digitCount (10 ^ n - 1) = n := by
  have hpow : 0 < 10 ^ n := Nat.pow_pos (by decide)
  refine Nat.le_antisymm ((digitCount_le_iff hn).mpr (by omega)) ?_
  by_contra hfew
  have hstep : 10 ^ n = 10 * 10 ^ (n - 1) := by
    rw [← Nat.pow_succ', Nat.succ_eq_add_one, Nat.sub_add_cancel hn]
  have hpow' : 0 < 10 ^ (n - 1) := Nat.pow_pos (by decide)
  have hcount := digitCount_pos (10 ^ n - 1)
  have hlt := (digitCount_le_iff (n := 10 ^ n - 1) (k := n - 1) (by omega)).mp (by omega)
  omega

theorem lt_pow_digitCount (n : Nat) : n < 10 ^ digitCount n :=
  (digitCount_le_iff (digitCount_pos n)).mp (Nat.le_refl _)

/-! ## Rounding -/

theorem divHalfEven_le {n m k : Nat} (hm : 0 < m) (h : n < k * m) : divHalfEven n m ≤ k := by
  have hq : n / m < k := (Nat.div_lt_iff_lt_mul hm).mpr h
  unfold divHalfEven
  dsimp only
  split <;> omega

namespace Decimal

/-- What is left of the coefficient when all but the leading digits are cut off. -/
theorem divHalfEven_coefficient_le {d : Decimal} {shift : Nat} (digits : Nat)
    (h : digitCount d.coefficient ≤ digits + shift) :
    divHalfEven d.coefficient (Nat.pow 10 shift) ≤ 10 ^ digits := by
  refine divHalfEven_le (Nat.pow_pos (by decide)) ?_
  calc d.coefficient < 10 ^ digitCount d.coefficient := lt_pow_digitCount _
    _ ≤ 10 ^ (digits + shift) := Nat.pow_le_pow_right (by decide) h
    _ = 10 ^ digits * 10 ^ shift := Nat.pow_add ..

theorem adjusted_le {c k : Nat} (hk : 1 ≤ k) (hc : c < 10 ^ k) (negative : Bool) (e : Int) :
    (⟨negative, c, e⟩ : Decimal).adjusted ≤ e + k - 1 := by
  have hcount := (digitCount_le_iff hk).mpr hc
  rw [adjusted]
  dsimp only
  omega

/-- **A decimal with some room left can be rounded**: the exponent of its first digit is below the
largest one. -/
theorem isSome_round? {d : Decimal} (h : d.adjusted < Precision.standard.largest) :
    (round? .standard d).isSome := by
  have hlargest : Precision.standard.largest = 999999 := rfl
  have htiny : Precision.standard.tiny = -1000026 := rfl
  have hdigits : Precision.standard.digits = 28 := rfl
  unfold round?
  split
  · rfl
  dsimp only
  rw [htiny, hdigits, hlargest]
  have hadjusted : d.adjusted = d.exponent + digitCount d.coefficient - 1 := rfl
  generalize htarget : max (-1000026 : Int) (d.adjusted - (((28 : Nat) : Int) - 1)) = target
  rw [if_neg]
  · rfl
  rintro ⟨-, hlarge⟩
  split at hlarge
  · -- Cutting digits off leaves 28 of them, or the next power of ten.
    rename_i hbelow
    generalize hshift : (target - d.exponent).toNat = shift at hlarge
    have hrounded : (if digitCount d.coefficient < shift then 0
        else divHalfEven d.coefficient (Nat.pow 10 shift)) ≤ 10 ^ 28 := by
      split
      · exact Nat.zero_le _
      · exact divHalfEven_coefficient_le 28 (by omega)
    generalize (if digitCount d.coefficient < shift then 0
      else divHalfEven d.coefficient (Nat.pow 10 shift)) = c at hlarge hrounded
    split at hlarge
    · rename_i hc
      have hle := adjusted_le (c := c / 10) (k := 28) (by decide)
        (by rw [hc]; exact Nat.div_lt_self (by decide) (by decide)) d.negative (target + 1)
      omega
    · rename_i hc
      have hle := adjusted_le (k := 28) (by decide) (Nat.lt_of_le_of_ne hrounded hc) d.negative
        target
      omega
  · omega

/-- And it can be negated. -/
theorem isSome_negate? {d : Decimal} (h : d.adjusted < Precision.standard.largest) :
    (negate? .standard d).isSome :=
  isSome_round? h

/-- Rounding nines gives the next power of ten, so the exponent of the first digit goes up. -/
theorem divHalfEven_nines {n : Nat} (hn : 29 ≤ n) :
    divHalfEven (10 ^ n - 1) (10 ^ (n - 28)) = 10 ^ 28 := by
  generalize hm : 10 ^ (n - 28) = m
  have hlarge : 10 ^ 1 ≤ m := hm ▸ Nat.pow_le_pow_right (by decide) (by omega)
  have hsplit : 10 ^ n - 1 = (10 ^ 28 - 1) * m + (m - 1) := by
    have hpow : 10 ^ n = 10 ^ 28 * m := by
      rw [← hm, ← Nat.pow_add]
      congr 1
      omega
    rw [hpow, Nat.sub_mul]
    omega
  have hquot : (10 ^ n - 1) / m = 10 ^ 28 - 1 := by
    rw [hsplit, Nat.mul_comm, Nat.mul_add_div (by omega), Nat.div_eq_of_lt (by omega), Nat.add_zero]
  have hrem : (10 ^ n - 1) % m = m - 1 := by
    rw [hsplit, Nat.mul_add_mod', Nat.mod_eq_of_lt (by omega)]
  rw [divHalfEven, hquot, hrem, if_pos (by omega), Nat.sub_add_cancel (by decide)]

/-- **Many nines cannot be rounded**: a million of them are one step below the end of the range, and
rounding takes that step. -/
theorem round?_nines {n : Nat} (hn : 1000000 ≤ n) (negative : Bool) :
    round? .standard ⟨negative, 10 ^ n - 1, 0⟩ = none := by
  have hpow : 10 ^ 1 ≤ 10 ^ n := Nat.pow_le_pow_right (by decide) (by omega)
  have hcount := digitCount_nines (n := n) (by omega)
  have hadjusted : (⟨negative, 10 ^ n - 1, 0⟩ : Decimal).adjusted = n - 1 := by
    rw [adjusted, hcount]
    dsimp only
    omega
  have htarget : max Precision.standard.tiny
      ((n : Int) - 1 - (Precision.standard.digits - 1)) = n - 28 := by
    have htiny : Precision.standard.tiny = -1000026 := rfl
    have hdigits : Precision.standard.digits = 28 := rfl
    rw [htiny, hdigits]
    omega
  have hnonzero : ¬10 ^ n - 1 = 0 := by omega
  have hbelow : (0 : Int) < n - 28 := by omega
  have hshift : ((n : Int) - 28 - 0).toNat = n - 28 := by omega
  have hdigits : ¬n < n - 28 := by omega
  have hup : divHalfEven (10 ^ n - 1) (Nat.pow 10 (n - 28)) =
      Nat.pow 10 Precision.standard.digits := divHalfEven_nines (by omega)
  simp only [round?, if_neg hnonzero, hadjusted, htarget, if_pos hbelow, hshift, hcount,
    if_neg hdigits, hup, if_true]
  -- What is left is one followed by twenty-seven noughts.
  have hleft : Nat.pow 10 Precision.standard.digits / 10 = 10 ^ 27 := by decide
  have hbeyond : Precision.standard.largest <
      (⟨negative, 10 ^ 27, (n : Int) - 28 + 1⟩ : Decimal).adjusted := by
    have hcount : digitCount (10 ^ 27) = 28 := by decide +kernel
    have hlargest : Precision.standard.largest = 999999 := rfl
    rw [adjusted, hcount, hlargest]
    dsimp only
    omega
  rw [hleft, if_pos ⟨by decide, hbeyond⟩]

/-! ## Reading -/

end Decimal

theorem lt_ten_of_digitValue? {c : Char} {v : Nat} (h : digitValue? c = some v) : v < 10 := by
  unfold digitValue? at h
  split at h
  · split at h
    · rename_i hrange
      cases h
      have hle : c.toNat ≤ '9'.toNat := hrange.2
      have h9 : '9'.toNat = 57 := rfl
      have h0 : '0'.toNat = 48 := rfl
      omega
    · cases h
  · split at h
    · cases h
    · split at h
      · cases h
        exact Nat.mod_lt _ (by decide)
      · cases h

/-- The value of a decimal digit. -/
def valueOfDigit (c : Char) : Nat :=
  (digitValue? c).getD 0

theorem valueOfDigit_lt (c : Char) : valueOfDigit c < 10 := by
  rw [valueOfDigit]
  cases h : digitValue? c with
  | some v => exact lt_ten_of_digitValue? h
  | none => exact Nat.zero_lt_succ 9

/-- The number that digits of any script stand for, the first being the highest. -/
def valueOfDigits (cs : List Char) : Nat :=
  Nat.ofDigits 10 (cs.map valueOfDigit).reverse

theorem ofDigits_map_valueOfDigit (cs : List Char) :
    ofDigits (cs.map valueOfDigit) = valueOfDigits cs := by
  rw [ofDigits_eq_foldl, valueOfDigits, Nat.ofDigits_eq_foldr, List.foldr_reverse]
  congr 1
  funext n d
  rw [Nat.cast_id, Nat.add_comm]

theorem valueOfDigits_lt (cs : List Char) : valueOfDigits cs < 10 ^ cs.length := by
  have hlt : ofDigits (cs.map valueOfDigit) < _ := ofDigits_lt fun d hd => by
    obtain ⟨c, -, rfl⟩ := List.mem_map.mp hd
    exact valueOfDigit_lt c
  rwa [ofDigits_map_valueOfDigit, List.length_map] at hlt

namespace Decimal

/-- An ASCII digit in a text with plain digits stands for a digit. -/
theorem countP_plainDigits_le (cs : List Char) :
    (plainDigits cs).countP Char.isDigit ≤ cs.countP isDigit := by
  rw [plainDigits, List.countP_map]
  refine Nat.le_trans (List.countP_mono_left fun c _ hc => ?_)
    (List.Sublist.countP_le List.filter_sublist)
  rw [Function.comp_apply] at hc
  rw [isDigit]
  cases hvalue : digitValue? c with
  | some v => rfl
  | none =>
    rw [hvalue] at hc
    simp only [Char.isDigit, Bool.and_eq_true, decide_eq_true_eq] at hc
    have hle : c.toNat ≤ 57 := hc.2
    have hascii : '0' ≤ c ∧ c ≤ '9' := hc
    rw [digitValue?, if_pos (by omega), if_pos hascii] at hvalue
    cases hvalue

/-- A letter e in a text with plain digits stands for itself. -/
theorem mem_of_mem_plainDigits {x : Char} (hx : x = 'e' ∨ x = 'E') {cs : List Char}
    (h : x ∈ plainDigits cs) : x ∈ cs := by
  have hdigits : ∀ v < 10, Char.ofNat ('0'.toNat + v) ≠ 'e' ∧ Char.ofNat ('0'.toNat + v) ≠ 'E' := by
    decide
  obtain ⟨c, hc, heq⟩ := List.mem_map.mp h
  cases hvalue : digitValue? c with
  | some v =>
    rw [hvalue] at heq
    obtain ⟨hsmall, hlarge⟩ := hdigits v (lt_ten_of_digitValue? hvalue)
    rcases hx with rfl | rfl
    · exact absurd heq hsmall
    · exact absurd heq hlarge
  | none =>
    rw [hvalue] at heq
    exact heq ▸ List.mem_of_mem_filter hc

theorem takeSign_suffix (cs : List Char) : (takeSign cs).2 <:+ cs := by
  unfold takeSign
  split
  · exact List.suffix_cons _ _
  · exact List.suffix_cons _ _
  · exact List.suffix_rfl

theorem readExponent?_eq_zero {cs : List Char} {e : Int} (h : readExponent? cs = some e)
    (hno : ∀ x ∈ cs, x ≠ 'e' ∧ x ≠ 'E') : e = 0 := by
  cases cs with
  | nil =>
    cases h
    rfl
  | cons x rest =>
    have hx := hno x List.mem_cons_self
    rw [readExponent?, if_neg (by simp [hx])] at h
    cases h

/-- The value of ASCII digits. -/
theorem ofDigits_ascii_lt {ds : List Char} (h : ∀ c ∈ ds, Char.isDigit c = true) :
    ofDigits (ds.map fun c => c.toNat - '0'.toNat) < 10 ^ ds.length := by
  have hlength : (ds.map fun c => c.toNat - '0'.toNat).length = ds.length := List.length_map _
  rw [← hlength]
  refine ofDigits_lt fun d hd => ?_
  obtain ⟨c, hc, rfl⟩ := List.mem_map.mp hd
  have hdigit := h c hc
  simp only [Char.isDigit, Bool.and_eq_true, decide_eq_true_eq] at hdigit
  have hle : c.toNat ≤ 57 := hdigit.2
  have h0 : '0'.toNat = 48 := rfl
  omega

/-- What is read of a text: the digits in front of the point and behind it, and what follows. -/
structure Parts (cs whole fraction rest : List Char) : Prop where
  digits : ∀ c ∈ whole ++ fraction, Char.isDigit c = true
  sublist : (whole ++ fraction).Sublist cs
  rest : ∀ c ∈ rest, c ∈ cs

theorem parts_of_point {cs more : List Char} (h : cs.dropWhile Char.isDigit = '.' :: more) :
    Parts cs (cs.takeWhile Char.isDigit) (more.takeWhile Char.isDigit)
      (more.dropWhile Char.isDigit) := by
  have hsplit : cs.takeWhile Char.isDigit ++ '.' :: more = cs := by
    rw [← h, List.takeWhile_append_dropWhile]
  refine ⟨?_, ?_, fun c hc => ?_⟩
  · intro c hc
    rcases List.mem_append.mp hc with hc | hc <;> exact List.mem_takeWhile_imp hc
  · conv_rhs => rw [← hsplit]
    exact (List.Sublist.refl _).append ((List.takeWhile_sublist _).cons _)
  · rw [← hsplit]
    exact List.mem_append_right _
      (List.mem_cons_of_mem _ ((List.dropWhile_suffix _).subset hc))

theorem parts_of_whole (cs : List Char) :
    Parts cs (cs.takeWhile Char.isDigit) [] (cs.dropWhile Char.isDigit) := by
  refine ⟨?_, ?_, fun c hc => (List.dropWhile_suffix _).subset hc⟩
  · intro c hc
    rw [List.append_nil] at hc
    exact List.mem_takeWhile_imp hc
  · rw [List.append_nil]
    exact List.takeWhile_sublist _

/-- The decimal with the given digits in front of the point and behind it, whose exponent is read
off the rest of a text. -/
def ofParts? (negative : Bool) (whole fraction rest : List Char) : Option Decimal :=
  if (whole ++ fraction).isEmpty then none
  else
    match readExponent? rest with
    | none => none
    | some e =>
      let d : Decimal := ⟨negative, ofDigits ((whole ++ fraction).map fun c =>
        c.toNat - '0'.toNat), e - fraction.length⟩
      if inRange d then some d else none

/-- **A text without a written exponent** has no positive exponent and a coefficient with no more
digits than the text. -/
theorem ofString?_bounds {s : String} {d : Decimal} (h : ofString? s = some d)
    (hno : ∀ x ∈ s.toList, x ≠ 'e' ∧ x ≠ 'E') :
    d.exponent ≤ 0 ∧ 1 ≤ s.toList.countP isDigit ∧
      d.coefficient < 10 ^ s.toList.countP isDigit := by
  -- No character that is read can start an exponent.
  have hplain : ∀ x ∈ plainDigits (trimChars s.toList), x ≠ 'e' ∧ x ≠ 'E' := fun x hx =>
    ⟨fun heq => (hno x ((trimChars_sublist _).subset
        (mem_of_mem_plainDigits (.inl heq) hx))).1 heq,
      fun heq => (hno x ((trimChars_sublist _).subset
        (mem_of_mem_plainDigits (.inr heq) hx))).2 heq⟩
  have hcount : (plainDigits (trimChars s.toList)).countP Char.isDigit ≤
      s.toList.countP isDigit :=
    Nat.le_trans (countP_plainDigits_le _) ((trimChars_sublist _).countP_le)
  have hsuffix := takeSign_suffix (plainDigits (trimChars s.toList))
  unfold ofString? at h
  generalize takeSign (plainDigits (trimChars s.toList)) = signed at h hsuffix
  obtain ⟨negative, cs⟩ := signed
  dsimp only at h hsuffix
  obtain ⟨whole, fraction, rest, hparts, hread⟩ : ∃ whole fraction rest,
      Parts cs whole fraction rest ∧ ofParts? negative whole fraction rest = some d := by
    split at h
    · rename_i more hpoint
      exact ⟨_, _, _, parts_of_point hpoint, h⟩
    · exact ⟨_, _, _, parts_of_whole cs, h⟩
  rw [ofParts?] at hread
  split at hread
  · cases hread
  rename_i hsome
  split at hread
  · cases hread
  rename_i e he
  dsimp only at hread
  split at hread
  · cases hread
    have hzero := readExponent?_eq_zero he fun x hx => hplain x (hsuffix.subset (hparts.rest x hx))
    have hlength : (whole ++ fraction).length ≤ s.toList.countP isDigit := by
      rw [← List.countP_eq_length.mpr hparts.digits]
      exact Nat.le_trans ((hparts.sublist.trans hsuffix.sublist).countP_le) hcount
    have hpos : 0 < (whole ++ fraction).length := by
      rw [List.length_pos_iff]
      simpa using hsome
    refine ⟨by dsimp only; omega, by omega, ?_⟩
    exact Nat.lt_of_lt_of_le (ofDigits_ascii_lt hparts.digits)
      (Nat.pow_le_pow_right (by decide) hlength)
  · cases hread

theorem takeSign_eq_self {cs : List Char} (h : ∀ x ∈ cs.head?, x ≠ '+' ∧ x ≠ '-') :
    takeSign cs = (false, cs) := by
  unfold takeSign
  split
  · exact absurd rfl (h '+' rfl).1
  · exact absurd rfl (h '-' rfl).2
  · rfl

/-- The ASCII digit of the same value. -/
def asciiDigit (c : Char) : Char :=
  Char.ofNat ('0'.toNat + valueOfDigit c)

theorem isDigit_asciiDigit (c : Char) : Char.isDigit (asciiDigit c) = true := by
  have hall : ∀ v < 10, Char.isDigit (Char.ofNat ('0'.toNat + v)) = true := by decide
  exact hall _ (valueOfDigit_lt c)

theorem toNat_asciiDigit (c : Char) : (asciiDigit c).toNat - '0'.toNat = valueOfDigit c := by
  have hall : ∀ v < 10, (Char.ofNat ('0'.toNat + v)).toNat - '0'.toNat = v := by decide
  exact hall _ (valueOfDigit_lt c)

theorem plainDigits_of_digits {cs : List Char} (h : ∀ c ∈ cs, isDigit c = true) :
    plainDigits cs = cs.map asciiDigit := by
  have hscore : cs.filter (· != '_') = cs := List.filter_eq_self.mpr fun c hc => by
    rw [bne_iff_ne]
    rintro rfl
    exact absurd (h _ hc) (by decide)
  rw [plainDigits, hscore]
  refine List.map_congr_left fun c hc => ?_
  obtain ⟨v, hv⟩ := Option.isSome_iff_exists.mp (h c hc)
  rw [hv, asciiDigit, valueOfDigit, hv, Option.getD_some]

theorem plainDigits_append (cs ds : List Char) :
    plainDigits (cs ++ ds) = plainDigits cs ++ plainDigits ds := by
  rw [plainDigits, List.filter_append, List.map_append, plainDigits, plainDigits]

/-- Digits, and perhaps a decimal mark and more digits behind them. -/
def withMark (mark : Char) (whole : List Char) : Option (List Char) → List Char
  | none => whole
  | some fraction => whole ++ mark :: fraction

theorem plainDigits_withMark {whole : List Char} {fraction : Option (List Char)}
    (h : ∀ c ∈ whole ++ fraction.getD [], isDigit c = true) :
    plainDigits (withMark '.' whole fraction) =
      withMark '.' (whole.map asciiDigit) (fraction.map (List.map asciiDigit)) := by
  have hwhole := plainDigits_of_digits fun c hc => h c (List.mem_append_left _ hc)
  cases fraction with
  | none => exact hwhole
  | some fraction =>
    have hfraction : plainDigits fraction = fraction.map asciiDigit :=
      plainDigits_of_digits fun c hc => h c (List.mem_append_right _ hc)
    have hpoint : plainDigits ('.' :: fraction) = '.' :: plainDigits fraction :=
      plainDigits_append ['.'] fraction
    rw [withMark, plainDigits_append, hpoint, hwhole, hfraction]
    rfl

theorem ofDigits_ascii (cs : List Char) :
    ofDigits ((cs.map asciiDigit).map fun c => c.toNat - '0'.toNat) = valueOfDigits cs := by
  rw [List.map_map, ← ofDigits_map_valueOfDigit]
  congr 1
  exact List.map_congr_left fun c _ => toNat_asciiDigit c

/-- Digits of a length that is read are in range. -/
theorem inRange_digits {cs : List Char} {places : Nat} (hsome : cs ≠ [])
    (hmost : cs.length ≤ 10 ^ 18) (hplaces : places ≤ cs.length) :
    (⟨false, valueOfDigits cs, -places⟩ : Decimal).inRange = true := by
  have hmin : readMin = -1999999999999999997 := rfl
  have hmax : readMax = 999999999999999999 := rfl
  have hcount := (digitCount_le_iff (List.length_pos_iff.mpr hsome)).mpr (valueOfDigits_lt cs)
  rw [inRange, Bool.and_eq_true, hmin, hmax, decide_eq_true_eq]
  refine ⟨by dsimp only; omega, ?_⟩
  split
  · rw [decide_eq_true_eq]
    dsimp only
    omega
  · rw [decide_eq_true_eq, adjusted]
    dsimp only
    omega

theorem trimChars_withMark {whole : List Char} {fraction : Option (List Char)}
    (h : ∀ c ∈ whole ++ fraction.getD [], isDigit c = true) :
    trimChars (withMark '.' whole fraction) = withMark '.' whole fraction := by
  refine trimChars_eq_self fun x hx => ?_
  cases fraction with
  | none => exact isBlank_of_isDigit (h x (List.mem_append_left _ hx))
  | some fraction =>
    rcases List.mem_append.mp hx with hx | hx
    · exact isBlank_of_isDigit (h x (List.mem_append_left _ hx))
    rcases List.mem_cons.mp hx with rfl | hx
    · decide
    · exact isBlank_of_isDigit (h x (List.mem_append_right _ hx))

/-- Digits have no sign, with a point in front or without. -/
theorem takeSign_withMark (whole : List Char) (fraction : Option (List Char)) :
    takeSign (withMark '.' (whole.map asciiDigit) fraction) =
      (false, withMark '.' (whole.map asciiDigit) fraction) := by
  refine takeSign_eq_self fun x hx => ?_
  have hfirst : Char.isDigit x = true ∨ x = '.' ∨ whole = [] ∧ fraction = none := by
    cases whole with
    | cons c whole =>
      refine .inl ?_
      cases fraction <;> cases hx <;> exact isDigit_asciiDigit c
    | nil =>
      cases fraction with
      | none => exact .inr (.inr ⟨rfl, rfl⟩)
      | some fraction =>
        cases hx
        exact .inr (.inl rfl)
  rcases hfirst with hdigit | rfl | ⟨rfl, rfl⟩
  · constructor <;> rintro rfl <;> revert hdigit <;> decide
  · decide
  · cases hx

theorem ofParts?_digits {whole fraction : List Char} (hsome : whole ++ fraction ≠ [])
    (hmost : (whole ++ fraction).length ≤ 10 ^ 18) :
    ofParts? false (whole.map asciiDigit) (fraction.map asciiDigit) [] =
      some ⟨false, valueOfDigits (whole ++ fraction), -fraction.length⟩ := by
  have hplaces : fraction.length ≤ (whole ++ fraction).length := by
    rw [List.length_append]
    omega
  have hempty : ((whole ++ fraction).map asciiDigit).isEmpty = false :=
    List.isEmpty_eq_false_iff.mpr (mt List.map_eq_nil_iff.mp hsome)
  rw [ofParts?, ← List.map_append, hempty, if_neg Bool.false_ne_true, readExponent?]
  dsimp only
  rw [ofDigits_ascii, List.length_map, Int.zero_sub, if_pos (inRange_digits hsome hmost hplaces)]

/-- **Digits are read as they stand**, those of any script, with a point among them or without. -/
theorem ofString?_withMark {whole : List Char} {fraction : Option (List Char)}
    (hdigits : ∀ c ∈ whole ++ fraction.getD [], isDigit c = true)
    (hsome : whole ++ fraction.getD [] ≠ [])
    (hmost : (whole ++ fraction.getD []).length ≤ 10 ^ 18) :
    ofString? (String.ofList (withMark '.' whole fraction)) =
      some ⟨false, valueOfDigits (whole ++ fraction.getD []), -(fraction.getD []).length⟩ := by
  have hascii : ∀ cs : List Char, ∀ c ∈ cs.map asciiDigit, Char.isDigit c = true := fun cs =>
    List.forall_mem_map.mpr fun c _ => isDigit_asciiDigit c
  rw [ofString?, String.toList_ofList, trimChars_withMark hdigits, plainDigits_withMark hdigits,
    takeSign_withMark, ← ofParts?_digits hsome hmost]
  cases fraction with
  | none =>
    have htake := List.takeWhile_eq_self_iff.mpr (hascii whole)
    have hdrop := List.dropWhile_eq_nil_iff.mpr (hascii whole)
    simp only [Option.map_none, withMark, htake, hdrop]
    rfl
  | some fraction =>
    have hpoint : ∀ x ∈ ('.' :: fraction.map asciiDigit).head?, Char.isDigit x = false := by
      rintro _ ⟨⟩
      rfl
    have htake := takeWhile_append_of_stop (hascii whole) hpoint
    have hdrop := dropWhile_append_of_stop (hascii whole) hpoint
    have htake' := List.takeWhile_eq_self_iff.mpr (hascii fraction)
    have hdrop' := List.dropWhile_eq_nil_iff.mpr (hascii fraction)
    simp only [Option.map_some, withMark, htake, hdrop, htake', hdrop']
    rfl

theorem foldl_nines (n : Nat) :
    (List.replicate n 9).foldl (fun n d => 10 * n + d) 0 = 10 ^ n - 1 := by
  induction n with
  | zero => rfl
  | succ n ih =>
    have hpow : 0 < 10 ^ n := Nat.pow_pos (by decide)
    rw [List.replicate_succ', List.foldl_append, ih, List.foldl_cons, List.foldl_nil, Nat.pow_succ']
    omega

theorem valueOfDigits_nines (n : Nat) : valueOfDigits (List.replicate n '9') = 10 ^ n - 1 := by
  have hnine : valueOfDigit '9' = 9 := by decide
  rw [← ofDigits_map_valueOfDigit, List.map_replicate, hnine, ofDigits_eq_foldl, foldl_nines]

/-- Nines are read as they stand. -/
theorem ofString?_nines {n : Nat} (hn : 1 ≤ n) (hmost : n ≤ 10 ^ 18) :
    ofString? (String.ofList (List.replicate n '9')) = some ⟨false, 10 ^ n - 1, 0⟩ := by
  have hdigits : ∀ c ∈ List.replicate n '9', isDigit c = true := fun c hc =>
    List.eq_of_mem_replicate hc ▸ by decide
  have hsome : List.replicate n '9' ≠ [] := by
    rw [Ne, List.replicate_eq_nil_iff]
    omega
  have hread : ofString? (String.ofList (withMark '.' (List.replicate n '9') none)) = _ :=
    ofString?_withMark (by simpa using hdigits) (by simpa using hsome) (by simpa using hmost)
  rw [Option.getD_none, List.append_nil, valueOfDigits_nines] at hread
  exact hread

end Decimal

end Daybook.Number
