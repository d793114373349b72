import Daybook.Proofs.Number.Decimal
import Mathlib.Data.Int.Log
import Mathlib.Data.Rat.Floor
import Mathlib.Tactic.FieldSimp
import Mathlib.Tactic.Positivity

/-!
# The value of decimals and of rounded decimals

A decimal stands for a rational number.  Rounding to limited precision keeps the first digits of that
number: the result is the nearest multiple of the power of ten of the last digit that is kept, and
between two multiples that are equally near it is the even one.

* `Decimal.value`: the number that a decimal stands for.
* `Rounded`, `Rounded.unique`: numbers rounded to some significant digits; there is one rounded number.
* `Decimal.round?_spec`, `Decimal.negate?_spec`: what rounding and negating make of a decimal, and when
  they fail.
-/

namespace Daybook.Number

/-! ## Rounded numbers -/

/-- The exponent of the last one of some significant digits of a number. -/
def lastPlace (digits : ℕ) (x : ℚ) : ℤ :=
  Int.log 10 |x| - (digits - 1)

/-- Whether `r` is `x` rounded to some significant digits, and a tie to the even number. -/
def Rounded (digits : ℕ) (x r : ℚ) : Prop :=
  ∃ n : ℤ, r = n * 10 ^ lastPlace digits x ∧ |x - r| ≤ 10 ^ lastPlace digits x / 2 ∧
    (|x - r| = 10 ^ lastPlace digits x / 2 → Even n)

/-- Two multiples of a unit that are both nearest to a number, and even if the unit makes a tie, are not
next to each other. -/
theorem ne_succ_of_nearest {x u : ℚ} {n : ℤ} (h : |x - n * u| ≤ u / 2)
    (heven : |x - n * u| = u / 2 → Even n) (h' : |x - (n + 1 : ℤ) * u| ≤ u / 2)
    (heven' : |x - (n + 1 : ℤ) * u| = u / 2 → Even (n + 1)) : False := by
  push_cast at h' heven'
  have hleft := (abs_le.mp h).2
  have hright := (abs_le.mp h').1
  -- the number is half way between the two
  have hmid : x - n * u = u / 2 := by linarith
  have hmid' : x - (n + 1) * u = -(u / 2) := by linarith
  have hu : 0 ≤ u / 2 := (abs_nonneg _).trans h
  have hboth := heven (by rw [hmid, abs_of_nonneg hu])
  have hnext := heven' (by rw [hmid', abs_neg, abs_of_nonneg hu])
  exact (Int.even_add_one.mp hnext) hboth

/-- **There is one rounded number.** -/
theorem Rounded.unique {digits : ℕ} {x r r' : ℚ} (h : Rounded digits x r) (h' : Rounded digits x r') :
    r = r' := by
  obtain ⟨n, rfl, hnear, heven⟩ := h
  obtain ⟨n', rfl, hnear', heven'⟩ := h'
  generalize hu : (10 : ℚ) ^ lastPlace digits x = u at *
  have hpos : 0 < u := hu ▸ zpow_pos (by norm_num) _
  have hclose : |((n - n' : ℤ) : ℚ)| * u ≤ 1 * u := by
    have hsum : |(n * u - n' * u : ℚ)| ≤ u := by
      have htriangle := abs_sub_le (n * u) x (n' * u)
      rw [abs_sub_comm (n * u) x] at htriangle
      linarith
    rw [← abs_of_pos hpos, ← abs_mul, abs_of_pos hpos, one_mul]
    push_cast
    rwa [sub_mul]
  have hint : |n - n'| ≤ 1 := by
    have hle := le_of_mul_le_mul_right hclose hpos
    exact_mod_cast hle
  have hcases : n = n' ∨ n' = n + 1 ∨ n = n' + 1 := by
    rw [abs_le] at hint
    omega
  rcases hcases with rfl | rfl | rfl
  · rfl
  · exact (ne_succ_of_nearest hnear heven hnear' heven').elim
  · exact (ne_succ_of_nearest hnear' heven' hnear heven).elim

/-- **Dividing to the nearest quotient**: twice the rest is the divisor at most, and where it is the
divisor the quotient is even. -/
theorem divHalfEven_near (n : ℕ) {m : ℕ} (hm : 0 < m) :
    2 * n ≤ 2 * (divHalfEven n m * m) + m ∧ 2 * (divHalfEven n m * m) ≤ 2 * n + m ∧
      (2 * n = 2 * (divHalfEven n m * m) + m ∨ 2 * (divHalfEven n m * m) = 2 * n + m →
        divHalfEven n m % 2 = 0) := by
  have hsplit := Nat.div_add_mod' n m
  have hrest := Nat.mod_lt n hm
  have hnext : (n / m + 1) * m = n / m * m + m := by ring
  unfold divHalfEven
  dsimp only
  split
  · rw [hnext]
    refine ⟨by omega, by omega, fun h => ?_⟩
    omega
  · refine ⟨by omega, by omega, fun h => ?_⟩
    omega

/-! ## The value of a decimal -/

namespace Decimal

variable {d : Decimal} {p : Precision}

/-- One, or minus one for a negative decimal. -/
def sign (d : Decimal) : ℚ :=
  if d.negative then -1 else 1

/-- The number that a decimal stands for. -/
def value (d : Decimal) : ℚ :=
  d.sign * (d.coefficient * 10 ^ d.exponent)

theorem abs_sign (d : Decimal) : |d.sign| = 1 := by
  rw [sign]
  split
  · rw [abs_neg, abs_one]
  · exact abs_one

theorem abs_value (d : Decimal) : |d.value| = d.coefficient * 10 ^ d.exponent := by
  have hpos : (0 : ℚ) ≤ d.coefficient * 10 ^ d.exponent :=
    mul_nonneg (Nat.cast_nonneg _) (zpow_nonneg (by norm_num) _)
  rw [value, abs_mul, abs_sign, one_mul, abs_of_nonneg hpos]

/-- The coefficient has as many digits as are counted. -/
theorem pow_digitCount_le {n : ℕ} (h : n ≠ 0) : 10 ^ (digitCount n - 1) ≤ n := by
  by_contra hlt
  have hcount := digitCount_pos n
  by_cases hone : digitCount n = 1
  · rw [hone] at hlt
    omega
  · have hfew := (digitCount_le_iff (n := n) (k := digitCount n - 1) (by omega)).mpr (by omega)
    omega

/-- **The exponent of the first digit** is that of the largest power of ten in a number. -/
theorem zpow_le_abs_value_iff (h : d.coefficient ≠ 0) {k : ℤ} :
    (10 : ℚ) ^ k ≤ |d.value| ↔ k ≤ d.adjusted := by
  have hten : (1 : ℚ) < 10 := by norm_num
  have hcount := digitCount_pos d.coefficient
  have hfirst : (10 : ℚ) ^ ((digitCount d.coefficient : ℤ) - 1) ≤ d.coefficient := by
    have hle := pow_digitCount_le h
    have hcast : ((digitCount d.coefficient : ℤ) - 1) = ((digitCount d.coefficient - 1 : ℕ) : ℤ) := by
      omega
    rw [hcast, zpow_natCast]
    exact_mod_cast hle
  have hlast : (d.coefficient : ℚ) < 10 ^ (digitCount d.coefficient : ℤ) := by
    rw [zpow_natCast]
    exact_mod_cast lt_pow_digitCount d.coefficient
  have hunit : (0 : ℚ) < 10 ^ d.exponent := zpow_pos (by norm_num) _
  rw [abs_value, adjusted]
  constructor
  · intro hk
    have hlt : (10 : ℚ) ^ k < 10 ^ ((digitCount d.coefficient : ℤ) + d.exponent) := by
      rw [zpow_add₀ (by norm_num)]
      exact lt_of_le_of_lt hk (mul_lt_mul_of_pos_right hlast hunit)
    have := (zpow_lt_zpow_iff_right₀ hten).mp hlt
    omega
  · intro hk
    have hle : (10 : ℚ) ^ k ≤ 10 ^ (((digitCount d.coefficient : ℤ) - 1) + d.exponent) :=
      zpow_le_zpow_right₀ hten.le (by omega)
    rw [zpow_add₀ (by norm_num)] at hle
    exact hle.trans (mul_le_mul_of_nonneg_right hfirst hunit.le)

theorem value_ne_zero (h : d.coefficient ≠ 0) : 0 < |d.value| := by
  rw [abs_value]
  have hcoefficient : (0 : ℚ) < d.coefficient := by exact_mod_cast Nat.pos_of_ne_zero h
  exact mul_pos hcoefficient (zpow_pos (by norm_num) _)

theorem log_abs_value (h : d.coefficient ≠ 0) : Int.log 10 |d.value| = d.adjusted := by
  have hpos := value_ne_zero h
  have hiff : ∀ k : ℤ, k ≤ Int.log 10 |d.value| ↔ k ≤ d.adjusted := fun k => by
    rw [← zpow_le_abs_value_iff h, ← Int.zpow_le_iff_le_log (by norm_num) hpos, Nat.cast_ofNat]
  exact le_antisymm ((hiff _).mp le_rfl) ((hiff _).mpr le_rfl)

/-- A decimal is too large for a precision if its value is. -/
theorem too_large_iff : d.coefficient ≠ 0 ∧ p.largest < d.adjusted ↔
    (10 : ℚ) ^ (p.largest + 1) ≤ |d.value| := by
  by_cases h : d.coefficient = 0
  · have hpos : (0 : ℚ) < 10 ^ (p.largest + 1) := zpow_pos (by norm_num) _
    have hzero : |d.value| = 0 := by rw [abs_value, h, Nat.cast_zero, zero_mul]
    rw [hzero]
    exact iff_of_false (fun hlarge => hlarge.1 h) (not_le.mpr hpos)
  · rw [zpow_le_abs_value_iff h, Int.add_one_le_iff]
    exact and_iff_right h

theorem lastPlace_value (h : d.coefficient ≠ 0) (digits : ℕ) :
    lastPlace digits d.value = d.adjusted - (digits - 1) := by
  rw [lastPlace, log_abs_value h]

/-- The sign as an integer. -/
theorem exists_sign (d : Decimal) : ∃ s : ℤ, d.sign = s ∧ (s = 1 ∨ s = -1) := by
  rw [sign]
  split
  · exact ⟨-1, by norm_num, .inr rfl⟩
  · exact ⟨1, by norm_num, .inl rfl⟩

/-- A decimal whose last digit stands at the last place or before it stays as it is. -/
theorem rounded_self (h : d.coefficient ≠ 0) {digits : ℕ}
    (hlast : d.adjusted - (digits - 1) ≤ d.exponent) : Rounded digits d.value d.value := by
  obtain ⟨s, hs, -⟩ := d.exists_sign
  obtain ⟨k, hk⟩ := Int.eq_ofNat_of_zero_le (Int.sub_nonneg.mpr hlast)
  have hunit : (0 : ℚ) < 10 ^ lastPlace digits d.value / 2 := half_pos (zpow_pos (by norm_num) _)
  have hexponent : d.exponent = (k : ℤ) + (d.adjusted - (digits - 1)) := by omega
  refine ⟨s * (d.coefficient * 10 ^ k), ?_, ?_, fun htie => ?_⟩
  · rw [lastPlace_value h, value, hs, hexponent, zpow_add₀ (by norm_num), zpow_natCast]
    push_cast
    ring
  · rw [sub_self, abs_zero]
    exact hunit.le
  · rw [sub_self, abs_zero] at htie
    exact absurd htie hunit.ne

/-- **A decimal that is cut off** at its last place, with the rest divided to the nearest quotient. -/
theorem rounded_cut (h : d.coefficient ≠ 0) {digits shift : ℕ}
    (hshift : d.adjusted - (digits - 1) = d.exponent + shift) :
    Rounded digits d.value
      (d.sign * (divHalfEven d.coefficient (10 ^ shift) * 10 ^ (d.exponent + shift))) := by
  obtain ⟨s, hs, hone⟩ := d.exists_sign
  obtain ⟨hlow, hhigh, htie⟩ := divHalfEven_near d.coefficient (Nat.pow_pos (n := shift) (by decide : 0 < 10))
  generalize hq : divHalfEven d.coefficient (10 ^ shift) = q at hlow hhigh htie ⊢
  have hsplit : (10 : ℚ) ^ (d.exponent + shift) = 10 ^ shift * 10 ^ d.exponent := by
    rw [zpow_add₀ (by norm_num), zpow_natCast, mul_comm]
  have hunit : (0 : ℚ) < 10 ^ d.exponent := zpow_pos (by norm_num) _
  have hdiff : |d.value - d.sign * (q * 10 ^ (d.exponent + shift))| =
      |(d.coefficient : ℚ) - q * 10 ^ shift| * 10 ^ d.exponent := by
    rw [value, ← mul_sub, abs_mul, abs_sign, one_mul, hsplit, ← mul_assoc, ← sub_mul, abs_mul,
      abs_of_pos hunit]
  have hlowQ : 2 * (d.coefficient : ℚ) ≤ 2 * (q * 10 ^ shift) + 10 ^ shift := by exact_mod_cast hlow
  have hhighQ : 2 * ((q : ℚ) * 10 ^ shift) ≤ 2 * d.coefficient + 10 ^ shift := by
    exact_mod_cast hhigh
  refine ⟨s * q, ?_, ?_, fun heq => ?_⟩
  · rw [lastPlace_value h, hshift, hs]
    push_cast
    ring
  · rw [lastPlace_value h, hshift, hdiff, hsplit, mul_div_right_comm]
    refine mul_le_mul_of_nonneg_right (abs_le.mpr ⟨?_, ?_⟩) hunit.le <;> linarith
  · rw [lastPlace_value h, hshift, hdiff, hsplit, mul_div_right_comm] at heq
    have hhalf := mul_right_cancel₀ hunit.ne' heq
    have heven : q % 2 = 0 := by
      refine htie ?_
      rcases abs_eq (by positivity) |>.mp hhalf with hup | hdown
      · refine .inl ?_
        have hQ : 2 * (d.coefficient : ℚ) = 2 * (q * 10 ^ shift) + 10 ^ shift := by linarith
        exact_mod_cast hQ
      · refine .inr ?_
        have hQ : 2 * ((q : ℚ) * 10 ^ shift) = 2 * d.coefficient + 10 ^ shift := by linarith
        exact_mod_cast hQ
    have hq : Even (q : ℤ) := by exact_mod_cast Nat.even_iff.mpr heven
    exact hq.mul_left s

/-- One digit too many can be taken off a power of ten. -/
theorem value_shorter {digits n : ℕ} (hdigits : 1 ≤ digits) (hn : n = 10 ^ digits) (negative : Bool)
    (e : ℤ) : (⟨negative, n / 10, e + 1⟩ : Decimal).value = (⟨negative, n, e⟩ : Decimal).value := by
  obtain ⟨k, rfl⟩ := Nat.exists_eq_add_of_le' hdigits
  have hquot : n / 10 = 10 ^ k := by
    rw [hn, Nat.pow_succ, Nat.mul_div_cancel _ (by decide)]
  rw [value, value, sign, sign]
  dsimp only
  rw [hquot, hn, zpow_add_one₀ (by norm_num)]
  push_cast
  ring

/-- A decimal that was rounded is kept unless it is too large. -/
theorem exists_rounded {x : ℚ} (rounded : Decimal) (h : Rounded p.digits x rounded.value) :
    ∃ r, Rounded p.digits x r ∧
      if (10 : ℚ) ^ (p.largest + 1) ≤ |r| then
        (if rounded.coefficient ≠ 0 ∧ p.largest < rounded.adjusted then none
          else some rounded) = none
      else ∃ e, (if rounded.coefficient ≠ 0 ∧ p.largest < rounded.adjusted then none
          else some rounded) = some e ∧ e.value = r := by
  refine ⟨rounded.value, h, ?_⟩
  split
  · rename_i hlarge
    exact if_pos (too_large_iff.mpr hlarge)
  · rename_i hfits
    exact ⟨rounded, if_neg fun hlarge => hfits (too_large_iff.mp hlarge), rfl⟩

theorem rounded_zero (digits : ℕ) : Rounded digits 0 0 := by
  have hunit : (0 : ℚ) < 10 ^ lastPlace digits 0 / 2 := half_pos (zpow_pos (by norm_num) _)
  refine ⟨0, by rw [Int.cast_zero, zero_mul], ?_, fun _ => Even.zero⟩
  rw [sub_zero, abs_zero]
  exact hunit.le

/-- **Rounding a decimal** gives its value to the digits of the precision, and fails where this is too
large. -/
theorem round?_spec (hdigits : 1 ≤ p.digits) (h : d.coefficient ≠ 0 → p.smallest ≤ d.adjusted) :
    ∃ r, Rounded p.digits d.value r ∧
      if (10 : ℚ) ^ (p.largest + 1) ≤ |r| then d.round? p = none
      else ∃ e, d.round? p = some e ∧ e.value = r := by
  unfold round?
  by_cases hzero : d.coefficient = 0
  · have hvalue : d.value = 0 := by rw [value, hzero, Nat.cast_zero, zero_mul, mul_zero]
    have hpos : (0 : ℚ) < 10 ^ (p.largest + 1) := zpow_pos (by norm_num) _
    rw [if_pos hzero, hvalue]
    refine ⟨0, rounded_zero _, ?_⟩
    rw [abs_zero, if_neg (not_le.mpr hpos)]
    refine ⟨_, rfl, ?_⟩
    rw [value, hzero, Nat.cast_zero, zero_mul, mul_zero]
  rw [if_neg hzero]
  -- the last place that is kept is not below the smallest one
  have htarget : max p.tiny (d.adjusted - ((p.digits : ℤ) - 1)) = d.adjusted - (p.digits - 1) := by
    have hsmallest := h hzero
    refine max_eq_right ?_
    rw [Precision.tiny]
    omega
  dsimp only
  rw [htarget]
  refine exists_rounded _ ?_
  split
  · rename_i hbelow
    have hadjusted : d.adjusted = d.exponent + digitCount d.coefficient - 1 := rfl
    obtain ⟨shift, hshift⟩ := Int.eq_ofNat_of_zero_le (Int.sub_nonneg.mpr hbelow.le)
    have hplace : d.adjusted - ((p.digits : ℤ) - 1) = d.exponent + shift := by omega
    have hkept : ¬digitCount d.coefficient < shift := by omega
    have hcut := rounded_cut hzero hplace
    rw [hplace, add_sub_cancel_left, Int.toNat_natCast, if_neg hkept]
    split
    · rename_i hfull
      rw [value_shorter hdigits hfull]
      exact hcut
    · exact hcut
  · rename_i hkept
    exact rounded_self hzero (not_lt.mp hkept)

/-- **Negating a decimal** rounds its negative. -/
theorem negate?_spec (hdigits : 1 ≤ p.digits) (h : d.coefficient ≠ 0 → p.smallest ≤ d.adjusted) :
    ∃ r, Rounded p.digits (-d.value) r ∧
      if (10 : ℚ) ^ (p.largest + 1) ≤ |r| then d.negate? p = none
      else ∃ e, d.negate? p = some e ∧ e.value = r := by
  have hvalue : (⟨if d.coefficient = 0 then false else !d.negative, d.coefficient, d.exponent⟩ :
      Decimal).value = -d.value := by
    rw [value, value, sign, sign]
    dsimp only
    by_cases hzero : d.coefficient = 0
    · rw [hzero, Nat.cast_zero, zero_mul, mul_zero, mul_zero, neg_zero]
    · rw [if_neg hzero]
      cases d.negative <;> simp
  have hspec := round?_spec (d := ⟨if d.coefficient = 0 then false else !d.negative, d.coefficient,
    d.exponent⟩) hdigits h
  rw [hvalue] at hspec
  exact hspec

end Decimal

end Daybook.Number
