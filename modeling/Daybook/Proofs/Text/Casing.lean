import Daybook.Text.Casing
import Mathlib.Data.List.Induction

/-!
# What lower case depends on

Lower case is taken character by character, with two exceptions: a dotted capital I becomes two
characters, and what becomes of a capital sigma depends on the nearest characters around it that are not
passed over.  So it can be told when text that is added behind a text leaves the lower case of that text
alone, and when a text can stand for another one of the same length and the same lower case.

Whether a character is cased, and whether it is passed over, does not change when it is put in lower case.
This is a property of three tables, and it is decided for whole ranges of them at once: a binary search
that finds the same row at both ends of a range finds it everywhere between.

* `PackedTable.rowOf?_eq_of_between`: searches in between.
* `facesCased_reverse_lowerBetween`: lower case keeps what a capital sigma looks at.
* `lowerBetween`, `lowerAfter_append`: the lower case of a part of a text.
* `endsInSigma`, `lowerBetween_eq_iff`: when added text changes the lower case in front of it.
* `lowerAfter_append_eq_iff`: when the end of a text can be added to another text.
-/

namespace Daybook.Text

/-! ## Searches in tables -/

namespace PackedTable

variable {t : PackedTable} {key key' lo hi row : Nat}

theorem countUpTo_mem (t : PackedTable) (key : Nat) {lo hi : Nat} (h : lo ≤ hi) :
    lo ≤ t.countUpTo key lo hi ∧ t.countUpTo key lo hi ≤ hi := by
  fun_induction countUpTo t key lo hi with
  | case1 lo hi hlt mid hle ih =>
    have := ih (by omega)
    omega
  | case2 lo hi hlt mid hle ih =>
    have := ih (by omega)
    omega
  | case3 lo hi hlt => omega

/-- One step of a search. -/
theorem countUpTo_step (key : Nat) (h : lo < hi) :
    t.countUpTo key lo hi =
      if t.cell ((lo + hi) / 2) 0 ≤ key then t.countUpTo key ((lo + hi) / 2 + 1) hi
      else t.countUpTo key lo ((lo + hi) / 2) := by
  rw [countUpTo, if_pos h]

/-- A search for a larger key does not end earlier. -/
theorem countUpTo_mono (hkey : key ≤ key') (h : lo ≤ hi) :
    t.countUpTo key lo hi ≤ t.countUpTo key' lo hi := by
  fun_induction countUpTo t key lo hi with
  | case1 lo hi hlt mid hle ih =>
    rw [countUpTo_step key' hlt, if_pos (Nat.le_trans hle hkey)]
    exact ih (by omega)
  | case2 lo hi hlt mid hle ih =>
    rw [countUpTo_step key' hlt]
    split
    · have hleft := countUpTo_mem t key (show lo ≤ mid by omega)
      have hright := countUpTo_mem t key' (show mid + 1 ≤ hi by omega)
      exact Nat.le_trans hleft.2 (Nat.le_trans (Nat.le_succ mid) hright.1)
    · exact ih (by omega)
  | case3 lo hi hlt =>
    have hsame : t.countUpTo key' lo hi = lo := by rw [countUpTo.eq_def t key', if_neg hlt]
    exact Nat.le_of_eq hsame.symm

/-- All rows in front of the end of a search start at or below the key: the last of them does. -/
theorem cell_le_of_countUpTo (hlo : ∀ n, lo = n + 1 → t.cell n 0 ≤ key)
    (h : t.countUpTo key lo hi = row + 1) : t.cell row 0 ≤ key := by
  fun_induction countUpTo t key lo hi with
  | case1 lo hi hlt mid hle ih =>
    refine ih (fun n hn => ?_) h
    obtain rfl : mid = n := Nat.succ.inj hn
    exact hle
  | case2 lo hi hlt mid hle ih => exact ih hlo h
  | case3 lo hi hlt => exact hlo row h

/-- The row that is found starts at or below the key. -/
theorem cell_le_of_rowOf? (h : t.rowOf? key = some row) : row < t.rows ∧ t.cell row 0 ≤ key := by
  unfold rowOf? at h
  split at h
  · cases h
  · rename_i n hcount
    cases h
    have hmem := (countUpTo_mem t key (Nat.zero_le t.rows)).2
    exact ⟨by omega, cell_le_of_countUpTo (fun n hn => absurd hn (by omega)) hcount⟩

/-- **Between two keys with the same row** all keys have that row. -/
theorem rowOf?_eq_of_between (h : t.rowOf? lo = t.rowOf? hi) (hlo : lo ≤ key) (hhi : key ≤ hi) :
    t.rowOf? key = t.rowOf? lo := by
  have hfirst := countUpTo_mono (t := t) hlo (Nat.zero_le t.rows)
  have hlast := countUpTo_mono (t := t) hhi (Nat.zero_le t.rows)
  have hsame : t.countUpTo lo 0 t.rows = t.countUpTo hi 0 t.rows := by
    unfold rowOf? at h
    split at h <;> split at h <;> simp_all
  rw [rowOf?, rowOf?, show t.countUpTo key 0 t.rows = t.countUpTo lo 0 t.rows by omega]

end PackedTable
/-! ## What a capital sigma looks at -/

/-- Whether a character is passed over in the search for a cased neighbour. -/
def isIgnorable (c : Char) : Bool :=
  ignorableRanges.covers c.toNat

/-- Whether a character counts as cased next to a capital sigma. -/
def isCased (c : Char) : Bool :=
  casedRanges.covers c.toNat

theorem facesCased_eq (cs : List Char) :
    facesCased cs = (cs.dropWhile isIgnorable).head?.any isCased := by
  rw [facesCased, show (fun c : Char => ignorableRanges.covers c.toNat) = isIgnorable from rfl]
  cases cs.dropWhile isIgnorable <;> rfl

theorem facesCased_cons (c : Char) (cs : List Char) :
    facesCased (c :: cs) = if isIgnorable c then facesCased cs else isCased c := by
  rw [facesCased_eq, facesCased_eq, List.dropWhile_cons]
  split <;> rfl

/-- Whether one search finds all code points of a range among the cased characters and none of them
among those that are passed over. -/
def CasedBetween (lo hi : Nat) : Prop :=
  (casedRanges.rowOf? lo = casedRanges.rowOf? hi ∧ casedRanges.covers hi = true) ∧
    ignorableRanges.rowOf? lo = ignorableRanges.rowOf? hi ∧ ignorableRanges.covers lo = false

instance (lo hi : Nat) : Decidable (CasedBetween lo hi) :=
  inferInstanceAs (Decidable (_ ∧ _))

theorem CasedBetween.covers {lo hi code : Nat} (h : CasedBetween lo hi) (hlo : lo ≤ code)
    (hhi : code ≤ hi) : casedRanges.covers code = true ∧ ignorableRanges.covers code = false := by
  obtain ⟨⟨hcased, hcovers⟩, hignorable, hnone⟩ := h
  have hrow := PackedTable.rowOf?_eq_of_between hcased hlo hhi
  have hrow' := PackedTable.rowOf?_eq_of_between hignorable hlo hhi
  unfold PackedTable.covers at hcovers hnone ⊢
  rw [hrow', hrow, hcased]
  constructor
  · split at hcovers
    · cases hcovers
    · exact decide_eq_true (Nat.le_trans hhi (of_decide_eq_true hcovers))
  · split at hnone
    · rfl
    · exact decide_eq_false fun hle => of_decide_eq_false hnone (Nat.le_trans hlo hle)

/-- The characters of a row that change, and what they become, are cased and not passed over. -/
theorem casedBetween_lowerRows : ∀ row < lowerRows.rows,
    (CasedBetween (lowerRows.cell row 0) (lowerRows.cell row 1) ∨
      ∀ i < (lowerRows.cell row 1 - lowerRows.cell row 0) / lowerRows.cell row 2 + 1,
        CasedBetween (lowerRows.cell row 0 + lowerRows.cell row 2 * i)
          (lowerRows.cell row 0 + lowerRows.cell row 2 * i)) ∧
    CasedBetween (lowerRows.cell row 3)
      (lowerRows.cell row 3 + (lowerRows.cell row 1 - lowerRows.cell row 0)) ∧
    (lowerRows.cell row 3 + (lowerRows.cell row 1 - lowerRows.cell row 0) < 0xd800 ∨
      0xe000 ≤ lowerRows.cell row 3 ∧
        lowerRows.cell row 3 + (lowerRows.cell row 1 - lowerRows.cell row 0) < 0x110000) := by
  decide +kernel

/-- Whether a capital sigma makes no difference between two characters. -/
def SeenAlike (c d : Char) : Prop :=
  isIgnorable c = isIgnorable d ∧ isCased c = isCased d

instance (c d : Char) : Decidable (SeenAlike c d) :=
  inferInstanceAs (Decidable (_ ∧ _))

theorem CasedBetween.seenAlike {lo hi lo' hi' : Nat} {c d : Char} (h : CasedBetween lo hi)
    (h' : CasedBetween lo' hi') (hc : lo ≤ c.toNat ∧ c.toNat ≤ hi)
    (hd : lo' ≤ d.toNat ∧ d.toNat ≤ hi') : SeenAlike c d := by
  obtain ⟨hcased, hnone⟩ := h.covers hc.1 hc.2
  obtain ⟨hcased', hnone'⟩ := h'.covers hd.1 hd.2
  exact ⟨hnone.trans hnone'.symm, hcased.trans hcased'.symm⟩

/-- What a character beyond ASCII becomes looks like it. -/
theorem seenAlike_shiftBy (c : Char) : SeenAlike (Char.ofNat (shiftBy lowerRows c.toNat)) c := by
  have hself : SeenAlike (Char.ofNat c.toNat) c := by
    rw [Char.ofNat_toNat]
    exact ⟨rfl, rfl⟩
  unfold shiftBy
  split
  · exact hself
  rename_i row hrow
  dsimp only
  split
  swap
  · exact hself
  rename_i hrange
  obtain ⟨hrows, hfirst⟩ := PackedTable.cell_le_of_rowOf? hrow
  obtain ⟨hsource, himage, hvalid⟩ := casedBetween_lowerRows row hrows
  obtain ⟨hlast, hstep⟩ := hrange
  have htoNat : (Char.ofNat (lowerRows.cell row 3 + (c.toNat - lowerRows.cell row 0))).toNat =
      lowerRows.cell row 3 + (c.toNat - lowerRows.cell row 0) := by
    have hchar : (lowerRows.cell row 3 + (c.toNat - lowerRows.cell row 0)).isValidChar := by
      unfold Nat.isValidChar
      omega
    rw [Char.ofNat, dif_pos hchar]
    rfl
  have hwithin : lowerRows.cell row 3 ≤ lowerRows.cell row 3 + (c.toNat - lowerRows.cell row 0) ∧
      lowerRows.cell row 3 + (c.toNat - lowerRows.cell row 0) ≤
        lowerRows.cell row 3 + (lowerRows.cell row 1 - lowerRows.cell row 0) := by
    omega
  rw [← htoNat] at hwithin
  rcases hsource with hsource | hsource
  · exact himage.seenAlike hsource hwithin ⟨hfirst, hlast⟩
  · have hindex : (c.toNat - lowerRows.cell row 0) / lowerRows.cell row 2 <
        (lowerRows.cell row 1 - lowerRows.cell row 0) / lowerRows.cell row 2 + 1 :=
      Nat.lt_succ_of_le (Nat.div_le_div_right (Nat.sub_le_sub_right hlast _))
    have hcode : lowerRows.cell row 0 +
        lowerRows.cell row 2 * ((c.toNat - lowerRows.cell row 0) / lowerRows.cell row 2) =
          c.toNat := by
      have hdiv := Nat.div_add_mod (c.toNat - lowerRows.cell row 0) (lowerRows.cell row 2)
      rw [hstep] at hdiv
      omega
    exact himage.seenAlike (hsource _ hindex) hwithin ⟨Nat.le_of_eq hcode, Nat.le_of_eq hcode.symm⟩

theorem seenAlike_toLower : ∀ n < 128, SeenAlike (Char.ofNat n).toLower (Char.ofNat n) := by
  decide +kernel

/-- **Lower case looks like the character** that it stands for, to a capital sigma. -/
theorem exists_lowerChar_eq {c : Char} (hdotted : c ≠ 'İ') :
    ∃ d, lowerChar c = [d] ∧ SeenAlike d c := by
  unfold lowerChar
  split
  · rename_i hascii
    have h := seenAlike_toLower c.toNat hascii
    rw [Char.ofNat_toNat] at h
    exact ⟨_, rfl, h⟩
  · exact ⟨_, rfl, seenAlike_shiftBy c⟩

/-! ## Lower case and its neighbours -/

/-- The lower case of a character next to others: those before it, the nearest first, and those behind
it. -/
def lowerImage (before : List Char) (c : Char) (after : List Char) : List Char :=
  if c = 'Σ' then if facesCased before && !facesCased after then ['ς'] else ['σ']
  else lowerChar c

/-- The lower case of a part of a text between others. -/
def lowerBetween (before : List Char) : List Char → List Char → List Char
  | [], _ => []
  | c :: cs, after => lowerImage before c (cs ++ after) ++ lowerBetween (c :: before) cs after

section

variable {before before' cs after after' : List Char} {c d : Char}

theorem lowerAfter_cons (before : List Char) (c : Char) (cs : List Char) :
    lowerAfter before (c :: cs) = lowerImage before c cs ++ lowerAfter (c :: before) cs :=
  rfl

/-- **The lower case of a text in two parts.** -/
theorem lowerAfter_append (before cs after : List Char) :
    lowerAfter before (cs ++ after) =
      lowerBetween before cs after ++ lowerAfter (cs.reverse ++ before) after := by
  induction cs generalizing before with
  | nil => rfl
  | cons c cs ih =>
    rw [List.cons_append, lowerAfter_cons, ih, lowerBetween, List.append_assoc, List.reverse_cons,
      List.append_assoc, List.singleton_append]

theorem lowerAfter_eq_lowerBetween (before cs : List Char) :
    lowerAfter before cs = lowerBetween before cs [] := by
  have h := lowerAfter_append before cs []
  rwa [List.append_nil, lowerAfter, List.append_nil] at h

/-- The lower case of a text depends on what stands in front of it only by what a sigma sees of it. -/
theorem lowerAfter_congr (h : facesCased before = facesCased before') (cs : List Char) :
    lowerAfter before cs = lowerAfter before' cs := by
  induction cs generalizing before before' with
  | nil => rfl
  | cons c cs ih =>
    have hnext : facesCased (c :: before) = facesCased (c :: before') := by
      rw [facesCased_cons, facesCased_cons, h]
    rw [lowerAfter_cons, lowerAfter_cons, ih hnext, lowerImage, lowerImage, h]

theorem facesCased_append (h : facesCased after = facesCased after') (cs : List Char) :
    facesCased (cs ++ after) = facesCased (cs ++ after') := by
  induction cs with
  | nil => exact h
  | cons c cs ih => rw [List.cons_append, List.cons_append, facesCased_cons, facesCased_cons, ih]

/-- And on what stands behind it likewise. -/
theorem lowerBetween_congr (h : facesCased after = facesCased after') (before cs : List Char) :
    lowerBetween before cs after = lowerBetween before cs after' := by
  induction cs generalizing before with
  | nil => rfl
  | cons c cs ih =>
    rw [lowerBetween, lowerBetween, ih, lowerImage, lowerImage, facesCased_append h]

/-- The lower case of a part that ends with a certain character. -/
theorem lowerBetween_concat (before cs : List Char) (c : Char) (after : List Char) :
    lowerBetween before (cs ++ [c]) after =
      lowerBetween before cs (c :: after) ++ lowerImage (cs.reverse ++ before) c after := by
  induction cs generalizing before with
  | nil => exact List.append_nil _
  | cons d cs ih =>
    rw [List.cons_append, lowerBetween, lowerBetween, ih, List.append_assoc, List.append_assoc,
      List.reverse_cons, List.append_assoc, List.singleton_append, List.singleton_append]

/-! ### Lengths -/

theorem length_lowerImage (before : List Char) (c : Char) (after : List Char) :
    (lowerImage before c after).length = 1 + [c].count 'İ' := by
  unfold lowerImage lowerChar
  by_cases hsigma : c = 'Σ'
  · subst hsigma
    rw [if_pos rfl]
    split <;> rfl
  rw [if_neg hsigma]
  by_cases hdotted : c = 'İ'
  · subst hdotted
    rfl
  have hnone : [c].count 'İ' = 0 :=
    List.count_eq_zero.mpr fun hmem => hdotted (List.mem_singleton.mp hmem).symm
  rw [hnone, if_neg hdotted]
  split <;> rfl

/-- **The length of lower case.** -/
theorem length_lowerBetween (before cs after : List Char) :
    (lowerBetween before cs after).length = cs.length + cs.count 'İ' := by
  induction cs generalizing before with
  | nil => rfl
  | cons c cs ih =>
    have hcount : ([c] ++ cs).count 'İ' = [c].count 'İ' + cs.count 'İ' := List.count_append
    rw [List.singleton_append] at hcount
    rw [lowerBetween, List.length_append, length_lowerImage, ih, hcount, List.length_cons]
    omega

theorem length_lowerAfter (before cs : List Char) :
    (lowerAfter before cs).length = cs.length + cs.count 'İ' := by
  rw [lowerAfter_eq_lowerBetween, length_lowerBetween]

/-! ### What a capital sigma sees in lower case -/

theorem facesCased_cons_congr (hc : SeenAlike c d) (h : facesCased before = facesCased before') :
    facesCased (c :: before) = facesCased (d :: before') := by
  rw [facesCased_cons, facesCased_cons, hc.1, hc.2, h]

theorem facesCased_lowerImage (h : facesCased before = facesCased before') (seen after : List Char) :
    facesCased ((lowerImage seen c after).reverse ++ before) = facesCased (c :: before') := by
  unfold lowerImage
  by_cases hsigma : c = 'Σ'
  · subst hsigma
    rw [if_pos rfl]
    split
    · exact facesCased_cons_congr (by decide +kernel) h
    · exact facesCased_cons_congr (by decide +kernel) h
  rw [if_neg hsigma]
  by_cases hdotted : c = 'İ'
  · subst hdotted
    calc facesCased ('\u0307' :: 'i' :: before)
        = facesCased ('i' :: before) := by rw [facesCased_cons, if_pos (by decide +kernel)]
      _ = facesCased ('İ' :: before') := facesCased_cons_congr (by decide +kernel) h
  · obtain ⟨d, hd, halike⟩ := exists_lowerChar_eq hdotted
    rw [hd]
    exact facesCased_cons_congr halike h

/-- **A capital sigma sees the same behind a text and behind its lower case.** -/
theorem facesCased_reverse_lowerBetween (h : facesCased before = facesCased before')
    (seen cs after : List Char) :
    facesCased ((lowerBetween seen cs after).reverse ++ before) =
      facesCased (cs.reverse ++ before') := by
  induction cs generalizing seen before before' with
  | nil => exact h
  | cons c cs ih =>
    rw [lowerBetween, List.reverse_append, List.reverse_cons, List.append_assoc, List.append_assoc]
    exact ih (facesCased_lowerImage h seen (cs ++ after)) (c :: seen)

/-! ### Text that is added -/

/-- Whether a text ends in a capital sigma that is written as a final one: behind a cased character, and
with nothing behind it but what is passed over. -/
def endsInSigma (cs : List Char) : Bool :=
  match cs.reverse.dropWhile isIgnorable with
  | [] => false
  | c :: before => c == 'Σ' && facesCased before

theorem endsInSigma_concat (cs : List Char) (c : Char) :
    endsInSigma (cs ++ [c]) =
      if isIgnorable c then endsInSigma cs else c == 'Σ' && facesCased cs.reverse := by
  rw [endsInSigma, endsInSigma, List.reverse_append, List.reverse_singleton, List.singleton_append,
    List.dropWhile_cons]
  by_cases hc : isIgnorable c = true
  · rw [if_pos hc, if_pos hc]
  · rw [if_neg hc, if_neg hc]

/-- **When added text leaves the lower case in front of it alone**: unless it makes a final sigma a
medial one. -/
theorem lowerBetween_eq_iff (cs after : List Char) :
    lowerBetween [] cs after = lowerBetween [] cs [] ↔
      ¬(endsInSigma cs = true ∧ facesCased after = true) := by
  induction cs using List.reverseRecOn with
  | nil => simp [lowerBetween, endsInSigma]
  | append_singleton cs c ih =>
    rw [lowerBetween_concat, lowerBetween_concat, List.append_nil, endsInSigma_concat]
    by_cases hc : isIgnorable c = true
    · have hsigma : c ≠ 'Σ' := by
        rintro rfl
        exact absurd hc (by decide +kernel)
      have hafter : ∀ rest, facesCased (c :: rest) = facesCased rest := fun rest => by
        rw [facesCased_cons, if_pos hc]
      rw [if_pos hc, lowerImage, lowerImage, if_neg hsigma, if_neg hsigma,
        List.append_left_inj, lowerBetween_congr (hafter after), lowerBetween_congr (hafter [])]
      exact ih
    · have hafter : facesCased (c :: after) = facesCased [c] := by
        rw [facesCased_cons, facesCased_cons, if_neg hc, if_neg hc]
      rw [if_neg hc, lowerBetween_congr hafter, List.append_right_inj, lowerImage, lowerImage]
      by_cases hsigma : c = 'Σ'
      · have hnothing : facesCased [] = false := rfl
        rw [if_pos hsigma, if_pos hsigma, hnothing, hsigma]
        cases facesCased cs.reverse <;> cases facesCased after <;> decide
      · simp [hsigma]

/-- **When the end of a text can be added to another text** of the same length as what stands in front of
it, whose lower case that text starts with: what is put together has the lower case of the whole text if
and only if both have the same number of dotted capital I, and no final sigma becomes a medial one. -/
theorem lowerAfter_append_eq_iff {typed front rest : List Char} (hlength : typed.length = front.length)
    (hstarts : lowerAfter [] typed <+: lowerAfter [] (front ++ rest)) :
    lowerAfter [] (typed ++ rest) = lowerAfter [] (front ++ rest) ↔
      typed.count 'İ' = front.count 'İ' ∧
        ¬(endsInSigma typed = true ∧ facesCased rest = true) := by
  have hcounts : lowerAfter [] (typed ++ rest) = lowerAfter [] (front ++ rest) →
      typed.count 'İ' = front.count 'İ' := by
    intro heq
    have h := congrArg List.length heq
    rw [length_lowerAfter, length_lowerAfter, List.length_append, List.length_append,
      List.count_append, List.count_append] at h
    omega
  rw [← and_iff_right_of_imp hcounts, and_congr_right_iff, ← lowerBetween_eq_iff]
  intro hcount
  -- what is typed has the lower case of what it replaces
  have hsame : lowerBetween [] typed [] = lowerBetween [] front rest := by
    rw [lowerAfter_append, lowerAfter_eq_lowerBetween] at hstarts
    have hlengths : (lowerBetween [] typed []).length = (lowerBetween [] front rest).length := by
      rw [length_lowerBetween, length_lowerBetween, hlength, hcount]
    have hprefix := List.prefix_of_prefix_length_le hstarts (List.prefix_append _ _)
      (Nat.le_of_eq hlengths)
    exact hprefix.eq_of_length hlengths
  have hseen : facesCased (typed.reverse ++ []) = facesCased (front.reverse ++ []) := by
    rw [← facesCased_reverse_lowerBetween rfl [] typed [], hsame,
      facesCased_reverse_lowerBetween rfl]
  rw [lowerAfter_append, lowerAfter_append, lowerAfter_congr hseen, List.append_left_inj, hsame]

end

end Daybook.Text
