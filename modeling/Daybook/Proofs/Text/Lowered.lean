import Daybook.Proofs.Text.Casing

/-!
# Lower case of lower case

What lower case makes of a character is left alone by lower case.  Beyond ASCII this is a property of
the table, whose rows stand for up to a thousand characters; each of them is looked up once.

* `IsLowered`: whether lower case leaves a character alone wherever it stands.
* `isLowered_of_mem_lowerAfter`: every character of a text in lower case is such a character.
* `lowerAfter_eq_self`, `lower_eq_self`: texts of such characters stay as they are.
-/

namespace Daybook.Text

/-- Whether lower case leaves a character alone wherever it stands. -/
def IsLowered (c : Char) : Prop :=
  c ≠ 'Σ' ∧ lowerChar c = [c]

instance (c : Char) : Decidable (IsLowered c) :=
  inferInstanceAs (Decidable (_ ∧ _))

/-- What the characters of a row become. -/
theorem isLowered_lowerRows : ∀ row < lowerRows.rows,
    ∀ i < (lowerRows.cell row 1 - lowerRows.cell row 0) / lowerRows.cell row 2 + 1,
      IsLowered (Char.ofNat (lowerRows.cell row 3 + lowerRows.cell row 2 * i)) := by
  decide +kernel

theorem isLowered_toLower : ∀ n < 128, IsLowered (Char.ofNat n).toLower := by
  decide +kernel

/-- What a character beyond ASCII becomes. -/
theorem isLowered_shiftBy {c : Char} (hascii : ¬c.toNat < 128) (hsigma : c ≠ 'Σ')
    (hdotted : c ≠ 'İ') : IsLowered (Char.ofNat (shiftBy lowerRows c.toNat)) := by
  have hself (h : shiftBy lowerRows c.toNat = c.toNat) :
      IsLowered (Char.ofNat (shiftBy lowerRows c.toNat)) := by
    rw [h, Char.ofNat_toNat]
    refine ⟨hsigma, ?_⟩
    rw [lowerChar, if_neg hascii, if_neg hdotted, h, Char.ofNat_toNat]
  cases hrow : lowerRows.rowOf? c.toNat with
  | none => exact hself (by simp only [shiftBy, hrow])
  | some row =>
    by_cases hrange : c.toNat ≤ lowerRows.cell row 1 ∧
        (c.toNat - lowerRows.cell row 0) % lowerRows.cell row 2 = 0
    · have hrows := (PackedTable.cell_le_of_rowOf? hrow).1
      have hindex : (c.toNat - lowerRows.cell row 0) / lowerRows.cell row 2 <
          (lowerRows.cell row 1 - lowerRows.cell row 0) / lowerRows.cell row 2 + 1 :=
        Nat.lt_succ_of_le (Nat.div_le_div_right (Nat.sub_le_sub_right hrange.1 _))
      have hcode : lowerRows.cell row 2 *
          ((c.toNat - lowerRows.cell row 0) / lowerRows.cell row 2) =
            c.toNat - lowerRows.cell row 0 :=
        Nat.mul_div_cancel' (Nat.dvd_of_mod_eq_zero hrange.2)
      have himage := isLowered_lowerRows row hrows _ hindex
      rw [hcode] at himage
      simpa only [shiftBy, hrow, if_pos hrange] using himage
    · exact hself (by simp only [shiftBy, hrow, if_neg hrange])

/-- **What lower case makes of a character** is left alone by lower case. -/
theorem isLowered_of_mem_lowerImage {before after : List Char} {c d : Char}
    (h : d ∈ lowerImage before c after) : IsLowered d := by
  unfold lowerImage at h
  by_cases hsigma : c = 'Σ'
  · rw [if_pos hsigma] at h
    split at h
    · rw [List.mem_singleton.mp h]
      decide +kernel
    · rw [List.mem_singleton.mp h]
      decide +kernel
  rw [if_neg hsigma, lowerChar] at h
  by_cases hascii : c.toNat < 128
  · rw [if_pos hascii] at h
    have hlower := isLowered_toLower c.toNat hascii
    rw [Char.ofNat_toNat] at hlower
    rw [List.mem_singleton.mp h]
    exact hlower
  rw [if_neg hascii] at h
  by_cases hdotted : c = 'İ'
  · rw [if_pos hdotted] at h
    rcases List.mem_cons.mp h with rfl | h
    · decide +kernel
    · rw [List.mem_singleton.mp h]
      decide +kernel
  · rw [if_neg hdotted] at h
    rw [List.mem_singleton.mp h]
    exact isLowered_shiftBy hascii hsigma hdotted

theorem isLowered_of_mem_lowerAfter {before cs : List Char} {d : Char}
    (h : d ∈ lowerAfter before cs) : IsLowered d := by
  induction cs generalizing before with
  | nil => cases h
  | cons c cs ih =>
    rw [lowerAfter_cons] at h
    rcases List.mem_append.mp h with h | h
    · exact isLowered_of_mem_lowerImage h
    · exact ih h

theorem lowerAfter_eq_self {cs : List Char} (h : ∀ c ∈ cs, IsLowered c) (before : List Char) :
    lowerAfter before cs = cs := by
  induction cs generalizing before with
  | nil => rfl
  | cons c cs ih =>
    obtain ⟨hsigma, hlower⟩ := h c List.mem_cons_self
    rw [lowerAfter_cons, ih (fun d hd => h d (List.mem_cons_of_mem c hd)), lowerImage,
      if_neg hsigma, hlower]
    rfl

/-- A text of such characters is its own lower case. -/
theorem lower_eq_self {s : String} (h : ∀ c ∈ s.toList, IsLowered c) : lower s = s := by
  rw [lower, lowerAfter_eq_self h, String.ofList_toList]

/-- Lower case has only such characters. -/
theorem isLowered_of_mem_lower {s : String} {c : Char} (h : c ∈ (lower s).toList) :
    IsLowered c := by
  rw [lower, String.toList_ofList] at h
  exact isLowered_of_mem_lowerAfter h

theorem lower_eq_empty_iff {s : String} : lower s = "" ↔ s = "" := by
  rw [← String.toList_inj, ← String.toList_inj, lower, String.toList_ofList, String.toList_empty,
    ← List.length_eq_zero_iff, ← List.length_eq_zero_iff, length_lowerAfter]
  refine ⟨fun h => (Nat.add_eq_zero_iff.mp h).1, fun h => ?_⟩
  rw [List.length_eq_zero_iff.mp h]
  rfl

end Daybook.Text
