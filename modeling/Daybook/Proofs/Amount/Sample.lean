import Daybook.Amount.Format
import Daybook.Proofs.Amount.Rendered

/-!
# Samples

The sample of a commodity shows a decimal mark and a group separator.  They are found in the number of
the sample without an explicit mark; the quantities of the commodity are then read with the decimal
mark of the format as an explicit one.  On the number of the sample both agree, with one exception: if
points only separate groups, as in `1.000.000 EUR`, there is no decimal mark to be seen, the format has
the point by default, and the point is its group separator at the same time.

* `Shows`, `shows_infer`: the marks that a number shows, case by case.
* `GroupedByPoints`: the exception; `Shows.group_eq_iff`.
* `Shows.given_eq`, `plainNumber?_shown`: a number under the decimal mark of its own format.
* `readQuantity_ofSample?`: how the format of a sample reads the quantity of the sample.
-/

namespace Daybook.Amount

open Text Number

variable {number sign : List Char}

/-! ## Inferred marks -/

/-- The one of point and comma that a mark is not. -/
def otherMark (m : Char) : Char :=
  if m = '.' then ',' else '.'

/-- The apostrophe, if it stands in a number. -/
def apostrophe? (number : List Char) : Option Char :=
  if number.contains '\'' then some '\'' else none

/-- The marks that a number can show. -/
inductive Shows (number : List Char) : Marks → Prop where
  /-- Point and comma both occur. -/
  | both {m : Char} (hm : m = '.' ∨ m = ',') (hmark : m ∈ number) (hother : otherMark m ∈ number) :
    Shows number ⟨some m, some (otherMark m)⟩
  /-- One of the two occurs, several times. -/
  | several {m : Char} (hm : m = '.' ∨ m = ',') (hmany : 1 < number.count m)
    (hother : otherMark m ∉ number) : Shows number ⟨none, some m⟩
  /-- One of the two occurs, once. -/
  | lone {m : Char} (hm : m = '.' ∨ m = ',') (hone : number.count m = 1)
    (hother : otherMark m ∉ number) : Shows number ⟨some m, apostrophe? number⟩
  /-- Neither of the two occurs. -/
  | plain (hpoint : '.' ∉ number) (hcomma : ',' ∉ number) :
    Shows number ⟨none, apostrophe? number⟩

/-- **What is inferred is what the number shows.** -/
theorem shows_infer (number : List Char) : Shows number (Marks.infer number) := by
  have hmem : ∀ {c : Char}, number.count c ≠ 0 → c ∈ number := fun h =>
    List.count_pos_iff.mp (Nat.pos_of_ne_zero h)
  have hnot : ∀ {c : Char}, number.count c = 0 → c ∉ number := fun h => List.count_eq_zero.mp h
  unfold Marks.infer
  dsimp only
  split
  · rename_i hboth
    split
    · exact .both (.inl rfl) (hmem hboth.1) (hmem hboth.2)
    · exact .both (.inr rfl) (hmem hboth.2) (hmem hboth.1)
  rename_i hboth
  split
  · rename_i hpoints
    exact .several (.inl rfl) hpoints (hnot (c := ',') (by omega))
  split
  · rename_i hcommas
    exact .several (.inr rfl) hcommas (hnot (c := '.') (by omega))
  split
  · rename_i hpoint
    exact .lone (.inl rfl) hpoint (hnot (c := ',') (by omega))
  split
  · rename_i hcomma
    exact .lone (.inr rfl) hcomma (hnot (c := '.') (by omega))
  · exact .plain (hnot (by omega)) (hnot (by omega))

/-- An apostrophe separates groups. -/
theorem eq_of_mem_apostrophe? {g : Char} (h : g ∈ apostrophe? number) : g = '\'' ∧ g ∈ number := by
  unfold apostrophe? at h
  split at h
  · rename_i hmem
    cases h
    exact ⟨rfl, List.contains_iff_mem.mp hmem⟩
  · cases h

theorem otherMark_ne (m : Char) : otherMark m ≠ m := by
  unfold otherMark
  split
  · rename_i hm
    rw [hm]
    decide
  · rename_i hm
    exact Ne.symm hm

/-! ## The exception -/

/-- Whether a number has several points and no comma, so that all its points separate groups. -/
def GroupedByPoints (number : List Char) : Prop :=
  1 < number.count '.' ∧ ',' ∉ number

instance : DecidablePred GroupedByPoints :=
  fun number => inferInstanceAs (Decidable (1 < number.count '.' ∧ ',' ∉ number))

/-- A sign does not matter. -/
theorem groupedByPoints_append (hsign : IsSignText sign) :
    GroupedByPoints (sign ++ number) ↔ GroupedByPoints number := by
  rcases hsign with rfl | ⟨c, hc, rfl⟩
  · rfl
  · rcases isSign_iff.mp hc with rfl | rfl <;> simp [GroupedByPoints]

/-- The decimal mark that a format has by what its sample shows. -/
def Marks.shown (marks : Marks) : Char :=
  marks.decimal.getD '.'

/-- **The group separator is the decimal mark** in the exception only. -/
theorem Shows.group_eq_iff {marks : Marks} (h : Shows number marks) :
    marks.group = some marks.shown ↔ GroupedByPoints number := by
  cases h with
  | @both m hm hmark hother =>
    refine iff_of_false (fun h => otherMark_ne m (Option.some.inj h)) fun h => ?_
    rcases hm with rfl | rfl
    · exact h.2 hother
    · exact h.2 hmark
  | several hm hmany hother =>
    rcases hm with rfl | rfl
    · exact iff_of_true rfl ⟨hmany, hother⟩
    · refine iff_of_false (by simp [Marks.shown]) fun h => ?_
      exact h.2 (List.count_pos_iff.mp (by omega))
  | @lone m hm hone hother =>
    refine iff_of_false (fun h => ?_) fun h => ?_
    · obtain ⟨hquote, -⟩ := eq_of_mem_apostrophe? h
      rcases hm with rfl | rfl <;> cases hquote
    · rcases hm with rfl | rfl
      · have hpoints := h.1
        omega
      · exact h.2 (List.count_pos_iff.mp (by omega))
  | plain hpoint hcomma =>
    refine iff_of_false (fun h => ?_) fun h => ?_
    · obtain ⟨hquote, -⟩ := eq_of_mem_apostrophe? h
      cases hquote
    · exact hpoint (List.count_pos_iff.mp (by have hpoints := h.1; omega))

/-! ## Marks under an explicit decimal mark -/

/-- **When the marks of a number fit**: its decimal mark does not occur twice, its other marks are the
group separator and points, and there is one point at most when the decimal mark is written as one. -/
theorem isSome_plainNumber?_iff {mark : Option Char} : (plainNumber? mark number).isSome ↔
    (∀ m ∈ (marksOf mark number).decimal, number.count m ≤ 1) ∧
      (∀ x ∈ number, isMark x = true → some x = (marksOf mark number).decimal ∨
        some x = (marksOf mark number).group ∨ x = '.') ∧
      number.countP (fun x => (some x = (marksOf mark number).decimal ∨ x = '.') ∧
        some x ≠ (marksOf mark number).group) ≤ 1 := by
  unfold plainNumber?
  dsimp only
  generalize marksOf mark number = marks
  have hcount : ((number.filter fun c => some c != marks.group).map fun c =>
      if some c = marks.decimal then '.' else c).count '.' =
        number.countP fun x => (some x = marks.decimal ∨ x = '.') ∧ some x ≠ marks.group := by
    rw [List.count_eq_countP, List.countP_map, List.countP_filter]
    refine List.countP_congr fun x _ => ?_
    by_cases hx : some x = marks.decimal <;> simp [hx]
  have hother : ((number.filter fun c => some c != marks.group).map fun c =>
      if some c = marks.decimal then '.' else c).any (fun c => isMark c && c != '.') = false ↔
        ∀ x ∈ number, isMark x = true → some x = marks.decimal ∨ some x = marks.group ∨ x = '.' := by
    rw [List.any_eq_false, List.forall_mem_map, List.forall_mem_filter]
    refine forall₂_congr fun x _ => ?_
    by_cases hx : some x = marks.decimal
    · simp [hx]
    · by_cases hgroup : some x = marks.group <;> simp [hx, hgroup]
  have hdecimal : (marks.decimal.any fun m => 1 < number.count m) = false ↔
      ∀ m ∈ marks.decimal, number.count m ≤ 1 := by
    cases marks.decimal <;> simp
  rw [hcount, ← hdecimal, ← hother]
  split
  · rename_i hmany
    simp [hmany]
  · rename_i hfew
    split
    · rename_i hrefused
      rcases Bool.or_eq_true_iff.mp hrefused with hmark | hpoints
      · simp [hmark]
      · exact iff_of_false Bool.false_ne_true fun h => not_lt_of_ge h.2.2 (of_decide_eq_true hpoints)
    · rename_i htaken
      rw [Bool.or_eq_true, not_or, decide_eq_true_eq, Nat.not_lt] at htaken
      exact iff_of_true rfl ⟨by simpa using hfew, by simpa using htaken.1, htaken.2⟩

/-- A number that is read has no mark beside its decimal mark, its group separator and points. -/
theorem mark_of_plainNumber? {mark : Option Char} (h : (plainNumber? mark number).isSome) {x : Char}
    (hx : x ∈ number) (hmark : isMark x = true) :
    some x = (marksOf mark number).decimal ∨ some x = (marksOf mark number).group ∨ x = '.' :=
  (isSome_plainNumber?_iff.mp h).2.1 x hx hmark

/-- The marks of a number under an explicit decimal mark, if all its other marks are one. -/
theorem given_eq {m : Char} {marks : Marks}
    (hdecimal : marks.decimal = if m ∈ number then some m else none)
    (hother : ∀ x ∈ number, isMark x = true → x ≠ m → marks.group = some x)
    (hgroup : ∀ g ∈ marks.group, g ∈ number ∧ isMark g = true ∧ g ≠ m) :
    Marks.given m number = marks := by
  have hfind : (number.find? fun c => isMark c && c != m) = marks.group := by
    cases hfound : number.find? fun c => isMark c && c != m with
    | some x =>
      have hx := List.find?_some hfound
      rw [Bool.and_eq_true, bne_iff_ne] at hx
      exact (hother x (List.mem_of_find?_eq_some hfound) hx.1 hx.2).symm
    | none =>
      cases hmarks : marks.group with
      | none => rfl
      | some g =>
        obtain ⟨hmem, hmark, hne⟩ := hgroup g hmarks
        exact absurd (by simp [hmark, hne]) (List.find?_eq_none.mp hfound g hmem)
  cases marks with
  | mk decimal group =>
    dsimp only at hdecimal hfind
    simp only [Marks.given, hfind, hdecimal, List.contains_iff_mem]

/-- **The marks under the decimal mark of the format** are the ones that were found without it. -/
theorem Shows.given_eq {marks : Marks} (h : Shows number marks)
    (hmarks : ∀ x ∈ number, isMark x = true →
      some x = marks.decimal ∨ some x = marks.group ∨ x = '.')
    (hnot : ¬GroupedByPoints number) : Marks.given marks.shown number = marks := by
  have hmem : ∀ {m : Char}, 0 < number.count m → m ∈ number := fun h => List.count_pos_iff.mp h
  have hgroup : ∀ {m g : Char}, m = '.' ∨ m = ',' → g ∈ apostrophe? number →
      g ∈ number ∧ isMark g = true ∧ g ≠ m := by
    intro m g hm hg
    obtain ⟨rfl, hmem⟩ := eq_of_mem_apostrophe? hg
    exact ⟨hmem, rfl, by rcases hm with rfl | rfl <;> decide⟩
  cases h with
  | @both m hm hmark hother =>
    refine Amount.given_eq (by simp [Marks.shown, hmark]) (fun x hx hxmark hne => ?_) ?_
    · rcases hmarks x hx hxmark with heq | heq | rfl
      · exact absurd (Option.some.inj heq) hne
      · exact heq.symm
      · rcases hm with rfl | rfl
        · exact absurd rfl hne
        · rfl
    · rintro g ⟨⟩
      refine ⟨hother, ?_, otherMark_ne m⟩
      rcases hm with rfl | rfl <;> rfl
  | several hm hmany hother =>
    rcases hm with rfl | rfl
    · exact absurd ⟨hmany, hother⟩ hnot
    · have hpoint : '.' ∉ number := hother
      refine Amount.given_eq (by simp [Marks.shown, hpoint]) (fun x hx hxmark hne => ?_) ?_
      · rcases hmarks x hx hxmark with heq | heq | rfl
        · cases heq
        · exact heq.symm
        · exact absurd hx hpoint
      · rintro g ⟨⟩
        exact ⟨hmem (by omega), rfl, by decide⟩
  | @lone m hm hone hother =>
    refine Amount.given_eq (by simp [Marks.shown, hmem (m := m) (by omega)])
      (fun x hx hxmark hne => ?_) fun g hg => hgroup hm hg
    rcases hmarks x hx hxmark with heq | heq | rfl
    · exact absurd (Option.some.inj heq) hne
    · exact heq.symm
    · rcases hm with rfl | rfl
      · exact absurd rfl hne
      · exact absurd hx hother
  | plain hpoint hcomma =>
    refine Amount.given_eq (by simp [Marks.shown, hpoint]) (fun x hx hxmark hne => ?_)
      fun g hg => hgroup (.inl rfl) hg
    rcases hmarks x hx hxmark with heq | heq | rfl
    · cases heq
    · exact heq.symm
    · exact absurd hx hpoint

/-- **A number under the decimal mark of its own format** is read as before, and not at all in the
exception. -/
theorem plainNumber?_shown (hread : (plainNumber? none number).isSome) :
    plainNumber? (some (Marks.infer number).shown) number =
      if GroupedByPoints number then none else plainNumber? none number := by
  have hshows := shows_infer number
  split
  · rename_i hgrouped
    have hshown : (Marks.infer number).shown = '.' := by
      obtain ⟨hpoints, hcomma⟩ := hgrouped
      have hcommas : number.count ',' = 0 := List.count_eq_zero.mpr hcomma
      simp [Marks.shown, Marks.infer, hpoints, hcommas]
    have hpoint : '.' ∈ number := List.count_pos_iff.mp (by have hpoints := hgrouped.1; omega)
    simp [plainNumber?, marksOf, Marks.given, hshown, hpoint, hgrouped.1]
  · rename_i hnot
    have hsame : marksOf (some (Marks.infer number).shown) number = marksOf none number :=
      hshows.given_eq (fun x hx hmark => mark_of_plainNumber? hread hx hmark) hnot
    unfold plainNumber?
    rw [hsame]

/-! ## Formats -/

section Formats

variable {sample : String} {a : Amount} {f : CommodityFormat} {v : Decimal}

/-- An amount with a symbol is a sample. -/
theorem exists_ofSample? (mark : Option String) (ha : ofText? sample = some a) {symbol : String}
    (hsymbol : a.commodity = some symbol) :
    ∃ f, CommodityFormat.ofSample? mark sample = some f := by
  unfold CommodityFormat.ofSample?
  rw [ha]
  dsimp only
  rw [hsymbol]
  exact ⟨_, rfl⟩

/-- **The format of a sample** has the marks that its number shows. -/
theorem marks_of_ofSample? (ha : ofText? sample = some a)
    (hf : CommodityFormat.ofSample? none sample = some f)
    (hquantity : a.quantity = String.ofList (sign ++ number)) (hsign : IsSignText sign)
    (hnumber : IsNumber number) :
    a.commodity = some f.symbol ∧
      f.decimalMark = String.singleton (Marks.infer number).shown ∧
      f.groupSeparator = (Marks.infer number).group := by
  have hbody : a.quantity.toList.dropWhile isSign = number := by
    rw [hquantity, String.toList_ofList, dropWhile_isSign hsign hnumber]
  unfold CommodityFormat.ofSample? at hf
  rw [ha] at hf
  dsimp only at hf
  split at hf
  · cases hf
  rename_i symbol hsymbol
  cases hf
  refine ⟨hsymbol, ?_, ?_⟩
  · simp only [hbody, shownMarks, Marks.shown]
    cases (Marks.infer number).decimal with
    | none => rfl
    | some m => simp [Option.filter]
  · simp only [hbody, shownMarks]

/-- A point or a comma is a decimal mark under which quantities are read. -/
theorem readQuantity_singleton {m : Char} (hm : m = '.' ∨ m = ',') (quantity : String) :
    readQuantity (some (String.singleton m)) (some quantity) = readNumber (some m) quantity := by
  rcases hm with rfl | rfl <;> rfl

/-- The decimal mark of a number is a point or a comma. -/
theorem Shows.readQuantity_eq {marks : Marks} (h : Shows number marks) (quantity : String) :
    readQuantity (some (String.singleton marks.shown)) (some quantity) =
      readNumber (some marks.shown) quantity := by
  have hcases : marks.shown = '.' ∨ marks.shown = ',' := by
    cases h with
    | both hm _ _ => exact hm
    | several _ _ _ => exact .inl rfl
    | lone hm _ _ => exact hm
    | plain _ _ => exact .inl rfl
  exact readQuantity_singleton hcases quantity

/-- **How the format of a sample reads the quantity of the sample**: as it is read without a format,
and not at all if the points of the quantity only separate groups. -/
theorem readQuantity_ofSample? (ha : ofText? sample = some a)
    (hf : CommodityFormat.ofSample? none sample = some f)
    (hv : readQuantity none (some a.quantity) = .ok v) :
    (f.groupSeparator.map String.singleton = some f.decimalMark ↔
        GroupedByPoints a.quantity.toList) ∧
      readQuantity (some f.decimalMark) (some a.quantity) =
        if GroupedByPoints a.quantity.toList then .error (.invalid a.quantity) else .ok v := by
  obtain ⟨sign, number, hquantity, hsign, hnumber, -⟩ := exists_pieces_of_ofChars? ha
  obtain ⟨-, hmark, hgroup⟩ := marks_of_ofSample? ha hf hquantity hsign hnumber
  have hshows := shows_infer number
  have hgrouped : GroupedByPoints a.quantity.toList ↔ GroupedByPoints number := by
    rw [hquantity, String.toList_ofList, groupedByPoints_append hsign]
  have hinferred : readNumber none (String.ofList (sign ++ number)) = .ok v := hquantity ▸ hv
  have hread : (plainNumber? none number).isSome := by
    rw [readNumber_eq none hsign hnumber] at hinferred
    cases hplain : plainNumber? none number with
    | some plain => rfl
    | none =>
      rw [hplain] at hinferred
      cases hinferred
  constructor
  · rw [hgrouped, ← hshows.group_eq_iff, hgroup, hmark]
    cases (Marks.infer number).group with
    | none => simp
    | some g => simp
  · rw [hmark, hshows.readQuantity_eq, hquantity, readNumber_eq _ hsign hnumber,
      plainNumber?_shown hread, String.toList_ofList]
    by_cases hnumbers : GroupedByPoints number
    · rw [if_pos hnumbers, if_pos ((groupedByPoints_append hsign).mpr hnumbers)]
      rfl
    · rw [if_neg hnumbers, if_neg (mt (groupedByPoints_append hsign).mp hnumbers),
        ← readNumber_eq none hsign hnumber, hinferred]

end Formats

end Daybook.Amount
