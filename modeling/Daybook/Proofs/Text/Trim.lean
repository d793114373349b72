import Daybook.Text.Digit
import Daybook.Text.Trim
import Mathlib.Data.List.DropRight

/-!
# What trimming leaves

* `takeWhile_append_of_stop`, `dropWhile_append_of_stop`, `append_inj_of_stop`: where a run of one class
  of characters ends.
* `trimChars_eq_nil_iff`, `trimChars_eq_self`: when nothing is left, and when everything is.
* `trimChars_sublist`, `mem_trimChars`: what is left comes from the text, and only blanks are lost.
* `trimChars_append_of_blank_left`, `trimChars_append_of_blank_right`: blanks at the ends make no
  difference.
* `leadingBlanks_le`, `drop_leadingBlanks`: what is in front of the rest.
* `isBlank_of_isDigit`: digits are not blank.
-/

namespace Daybook.Text

/-! ## Runs of one class -/

section Runs

variable {p : Char → Bool} {body rest : List Char}

/-- What holds of all characters of a text is decided for one character after the other. -/
theorem forall_mem_of_all {P : Char → Prop} [DecidablePred P] {cs : List Char}
    (h : cs.all (fun x => decide (P x)) = true) : ∀ x ∈ cs, P x :=
  fun x hx => of_decide_eq_true (List.all_eq_true.mp h x hx)

theorem dropWhile_append_of_stop (hbody : ∀ x ∈ body, p x = true)
    (hrest : ∀ x ∈ rest.head?, p x = false) : (body ++ rest).dropWhile p = rest := by
  rw [List.dropWhile_append_of_pos hbody]
  cases rest with
  | nil => rfl
  | cons x xs => exact List.dropWhile_cons_of_neg (by simp [hrest x rfl])

theorem takeWhile_append_of_stop (hbody : ∀ x ∈ body, p x = true)
    (hrest : ∀ x ∈ rest.head?, p x = false) : (body ++ rest).takeWhile p = body := by
  rw [List.takeWhile_append_of_pos hbody]
  cases rest with
  | nil => simp
  | cons x xs => simp [List.takeWhile_cons_of_neg, hrest x rfl]

/-- What is left behind a run does not go on with it. -/
theorem head_dropWhile (p : Char → Bool) (cs : List Char) :
    ∀ x ∈ (cs.dropWhile p).head?, p x = false := by
  intro x hx
  have hhead := List.head?_dropWhile_not p cs
  rw [hx] at hhead
  exact hhead

/-- Where a run of one class ends is unique. -/
theorem append_inj_of_stop {body' rest' : List Char} (hbody : ∀ x ∈ body, p x = true)
    (hrest : ∀ x ∈ rest.head?, p x = false) (hbody' : ∀ x ∈ body', p x = true)
    (hrest' : ∀ x ∈ rest'.head?, p x = false) (h : body ++ rest = body' ++ rest') :
    body = body' ∧ rest = rest' := by
  have htake := congrArg (List.takeWhile p) h
  rw [takeWhile_append_of_stop hbody hrest, takeWhile_append_of_stop hbody' hrest'] at htake
  exact ⟨htake, List.append_cancel_left (htake ▸ h)⟩

end Runs

/-! ## Blanks at the ends -/

theorem dropEndWhile_eq_rdropWhile (p : Char → Bool) (cs : List Char) :
    dropEndWhile p cs = cs.rdropWhile p :=
  rfl

theorem trimChars_sublist (cs : List Char) : (trimChars cs).Sublist cs :=
  (List.rdropWhile_prefix isBlank (trimStart cs)).sublist.trans
    (List.dropWhile_suffix isBlank).sublist

/-- Trimming leaves nothing of a text if and only if all of it is blank. -/
theorem trimChars_eq_nil_iff {cs : List Char} :
    trimChars cs = [] ↔ ∀ x ∈ cs, isBlank x = true := by
  rw [trimChars, trimEnd, dropEndWhile_eq_rdropWhile, List.rdropWhile_eq_nil_iff, trimStart]
  constructor
  · intro h x hx
    rw [← List.takeWhile_append_dropWhile (p := isBlank) (l := cs)] at hx
    rcases List.mem_append.mp hx with hx | hx
    · exact List.mem_takeWhile_imp hx
    · exact h x hx
  · intro h x hx
    exact h x ((List.dropWhile_suffix isBlank).subset hx)

theorem trim_eq_empty_iff {s : String} : trim s = "" ↔ ∀ c ∈ s.toList, isBlank c = true := by
  rw [← trimChars_eq_nil_iff, ← String.toList_inj, trim, String.toList_ofList, String.toList_empty]

/-- A text without blanks stays as it is. -/
theorem trimChars_eq_self {cs : List Char} (h : ∀ x ∈ cs, isBlank x = false) :
    trimChars cs = cs := by
  have hstart : trimStart cs = cs := by
    rw [trimStart, List.dropWhile_eq_self_iff]
    intro hl
    rw [h _ (List.getElem_mem hl)]
    exact Bool.false_ne_true
  rw [trimChars, hstart, trimEnd, dropEndWhile_eq_rdropWhile, List.rdropWhile_eq_self_iff]
  intro hl
  rw [h _ (List.getLast_mem hl)]
  exact Bool.false_ne_true

theorem trimChars_ne_nil {cs : List Char} {x : Char} (hx : x ∈ cs) (hblank : isBlank x = false) :
    trimChars cs ≠ [] := by
  intro h
  rw [trimChars_eq_nil_iff.mp h x hx] at hblank
  cases hblank

/-- Dropping characters of a class keeps all others. -/
theorem mem_dropWhile {p : Char → Bool} {cs : List Char} {x : Char} (hx : x ∈ cs)
    (hp : p x = false) : x ∈ cs.dropWhile p := by
  rw [← List.takeWhile_append_dropWhile (p := p) (l := cs)] at hx
  rcases List.mem_append.mp hx with hx | hx
  · rw [List.mem_takeWhile_imp hx] at hp
    cases hp
  · exact hx

/-- Trimming loses nothing but blanks. -/
theorem mem_trimChars {cs : List Char} {x : Char} (hx : x ∈ cs) (hblank : isBlank x = false) :
    x ∈ trimChars cs := by
  have hstart : x ∈ (trimStart cs).reverse := List.mem_reverse.mpr (mem_dropWhile hx hblank)
  exact List.mem_reverse.mpr (mem_dropWhile hstart hblank)

/-- Blanks in front make no difference to what trimming leaves. -/
theorem trimChars_append_of_blank_left {blanks : List Char} (h : ∀ x ∈ blanks, isBlank x = true)
    (cs : List Char) : trimChars (blanks ++ cs) = trimChars cs := by
  rw [trimChars, trimStart, List.dropWhile_append_of_pos h]
  rfl

/-- Blanks behind make no difference to what trimming leaves. -/
theorem trimChars_append_of_blank_right {blanks : List Char} (h : ∀ x ∈ blanks, isBlank x = true)
    (cs : List Char) : trimChars (cs ++ blanks) = trimChars cs := by
  by_cases hcs : trimStart cs = []
  · have hall : ∀ x ∈ cs, isBlank x = true := List.dropWhile_eq_nil_iff.mp hcs
    have hboth : ∀ x ∈ cs ++ blanks, isBlank x = true := by
      intro x hx
      exact (List.mem_append.mp hx).elim (hall x) (h x)
    rw [trimChars_eq_nil_iff.mpr hall, trimChars_eq_nil_iff.mpr hboth]
  · have hempty : ¬(cs.dropWhile isBlank).isEmpty := fun h => hcs (List.isEmpty_iff.mp h)
    have hstart : trimStart (cs ++ blanks) = trimStart cs ++ blanks := by
      rw [trimStart, trimStart, List.dropWhile_append, if_neg hempty]
    have hreverse : ∀ x ∈ blanks.reverse, isBlank x = true := fun x hx =>
      h x (List.mem_reverse.mp hx)
    rw [trimChars, hstart, trimEnd, dropEndWhile, List.reverse_append,
      List.dropWhile_append_of_pos hreverse]
    rfl

theorem leadingBlanks_le (cs : List Char) : leadingBlanks cs ≤ cs.length :=
  (List.takeWhile_prefix isBlank).length_le

theorem drop_leadingBlanks (cs : List Char) : cs.drop (leadingBlanks cs) = trimStart cs := by
  have hsplit : cs.takeWhile isBlank ++ cs.dropWhile isBlank = cs :=
    List.takeWhile_append_dropWhile
  calc cs.drop (leadingBlanks cs)
      = (cs.takeWhile isBlank ++ cs.dropWhile isBlank).drop (leadingBlanks cs) := by rw [hsplit]
    _ = trimStart cs := List.drop_left

theorem trimChars_trimStart (cs : List Char) : trimChars (trimStart cs) = trimChars cs := by
  rw [trimChars, trimStart, trimStart, List.dropWhile_idempotent]
  rfl

/-- The code points of the blank characters. -/
def blankCodes : List Nat :=
  [9, 10, 11, 12, 13, 28, 29, 30, 31, 32, 0x85, 0xA0, 0x1680, 0x2000, 0x2001, 0x2002, 0x2003,
    0x2004, 0x2005, 0x2006, 0x2007, 0x2008, 0x2009, 0x200A, 0x2028, 0x2029, 0x202F, 0x205F, 0x3000]

theorem toNat_mem_blankCodes {c : Char} (h : isBlank c = true) : c.toNat ∈ blankCodes := by
  simp only [isBlank, blankCodes, List.mem_cons, List.not_mem_nil, or_false] at h ⊢
  split at h
  · simp only [Bool.or_eq_true, Bool.and_eq_true, decide_eq_true_eq] at h
    omega
  · simp only [Bool.or_eq_true, Bool.and_eq_true, decide_eq_true_eq, beq_iff_eq] at h
    omega

/-- No digit is blank. -/
theorem isBlank_of_isDigit {c : Char} (h : isDigit c = true) : isBlank c = false := by
  have hcodes : ∀ n ∈ blankCodes, isDigit (Char.ofNat n) = false := by decide +kernel
  refine Bool.eq_false_iff.mpr fun hblank => ?_
  have hno := hcodes c.toNat (toNat_mem_blankCodes hblank)
  rw [Char.ofNat_toNat, h] at hno
  cases hno

end Daybook.Text
