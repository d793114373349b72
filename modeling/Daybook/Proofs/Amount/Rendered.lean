import Daybook.Proofs.Amount.Split

/-!
# Amounts that are written

An amount is written with its symbol where the format of the commodity has it, in quotes if it needs
them.  Whatever the format is, the quantity and the symbol can be taken from it again; only a plus in
front of the quantity is lost.

* `withoutPlus`: a quantity without a plus; `readQuantity_withoutPlus`.
* `isSymbolText_quoteSymbol`: a symbol that can be read back is a symbol as it is written.
* `mem_renderAmount`: the characters of a written amount.
* `isWrittenBefore`, `isWrittenSpaced`: where a format, or the default, has the symbol;
  `toList_renderAmount`.
* `ofChars?_renderAmount`, `ofText?_renderAmount`: the amount that was written, taken apart.
-/

namespace Daybook.Amount

open Text Number

/-! ## Quantities -/

/-- A quantity without a plus in front. -/
def withoutPlus (quantity : String) : String :=
  match quantity.toList with
  | '+' :: digits => String.ofList digits
  | _ => quantity

section Quantities

variable {sign number : List Char}

/-- The number is what stands behind the sign. -/
theorem dropWhile_isSign (hsign : IsSignText sign) (hnumber : IsNumber number) :
    (sign ++ number).dropWhile isSign = number := by
  have hstop : number.dropWhile isSign = number := by
    obtain ⟨x, xs, rfl, -⟩ := hnumber.exists_cons
    exact List.dropWhile_cons_of_neg (by rw [hnumber.isSign_head x rfl]; decide)
  rcases hsign with rfl | ⟨c, hc, rfl⟩
  · exact hstop
  · rw [List.singleton_append, List.dropWhile_cons_of_pos hc, hstop]

/-- The sign that is kept is a minus. -/
theorem withoutPlus_eq (hsign : IsSignText sign) (hnumber : IsNumber number) :
    withoutPlus (String.ofList (sign ++ number)) = String.ofList (keptSign sign ++ number) := by
  rw [withoutPlus, String.toList_ofList]
  rcases hsign with rfl | ⟨c, hc, rfl⟩
  · obtain ⟨x, xs, rfl, -⟩ := hnumber.exists_cons
    have hx : x ≠ '+' := by
      rintro rfl
      exact absurd (hnumber.isSign_head '+' rfl) (by decide)
    simp [keptSign, hx]
  · rcases isSign_iff.mp hc with rfl | rfl <;> rfl

/-- A number is read under its sign. -/
theorem readNumber_eq (mark : Option Char) (hsign : IsSignText sign) (hnumber : IsNumber number) :
    readNumber mark (String.ofList (sign ++ number)) =
      match (plainNumber? mark number).bind fun plain => Decimal.ofString? (String.ofList plain) with
      | none => .error (.invalid (String.ofList (sign ++ number)))
      | some d =>
        if sign = ['-'] then
          match d.negate? .standard with
          | some e => .ok e
          | none => .error .overflow
        else .ok d := by
  have hends : NoBlankEnds (sign ++ number) :=
    hnumber.noBlankEnds.sign_append hsign hnumber.ne_nil
  rw [readNumber, String.toList_ofList, hends.trimChars_eq]
  obtain ⟨x, xs, rfl, -⟩ := hnumber.exists_cons
  have hx : isSign x = false := hnumber.isSign_head x rfl
  have hminus : x ≠ '-' := by
    rintro rfl
    cases hx
  rcases hsign with rfl | ⟨c, hc, rfl⟩
  · cases hplain : plainNumber? mark (x :: xs) with
    | none => simp [hx, hplain]
    | some plain =>
      cases hd : Decimal.ofString? (String.ofList plain) <;> simp [hx, hplain, hminus, hd]
  · cases hplain : plainNumber? mark (x :: xs) with
    | none => simp [hc, hplain]
    | some plain =>
      cases hd : Decimal.ofString? (String.ofList plain) with
      | none => simp [hc, hplain, hd]
      | some d =>
        rcases isSign_iff.mp hc with rfl | rfl
        · cases hneg : d.negate? .standard <;> simp [hc, hplain, hd, hneg]
        · simp [hc, hplain, hd]

/-- **A quantity is read without its plus as well.** -/
theorem readQuantity_withoutPlus {mark : Option String} {quantity : String} {v : Decimal}
    (hquantity : quantity = String.ofList (sign ++ number)) (hsign : IsSignText sign)
    (hnumber : IsNumber number) (h : readQuantity mark (some quantity) = .ok v) :
    readQuantity mark (some (withoutPlus quantity)) = .ok v := by
  have hread : ∀ {m : Option Char}, readNumber m quantity = .ok v →
      readNumber m (withoutPlus quantity) = .ok v := by
    intro m hm
    rw [hquantity] at hm ⊢
    rw [withoutPlus_eq hsign hnumber]
    rcases hsign with rfl | ⟨c, hc, rfl⟩
    · exact hm
    · rcases isSign_iff.mp hc with rfl | rfl
      · exact hm
      · rw [readNumber_eq m (.inr ⟨_, hc, rfl⟩) hnumber] at hm
        rw [show keptSign ['+'] = [] from rfl, readNumber_eq m (.inl rfl) hnumber]
        split at hm
        · cases hm
        · rw [if_neg (by decide)] at hm ⊢
          exact hm
  unfold readQuantity at h ⊢
  split at h
  · exact hread h
  · exact hread h
  · exact hread h
  · cases h

end Quantities

/-! ## Symbols -/

section Symbols

variable {symbol : String} {cs : List Char}

/-- What is a symbol is written as one. -/
theorem symbolOf?_eq_some {text : String} (h : symbolOf? text = some symbol) :
    IsSymbolText (trimChars text.toList) ∧
      symbol = String.ofList (unquoteChars (trimChars text.toList)) := by
  unfold symbolOf? at h
  dsimp only at h
  split at h
  · cases h
  split at h
  · rename_i haccepts
    obtain ⟨_, hmem⟩ := List.exists_mem_of_ne_nil _ (Pattern.isSome_match?_iff.mp haccepts)
    obtain ⟨mid, hmid, hend⟩ := List.mem_flatMap.mp hmem
    obtain ⟨taken, fs, hfits, hsplit⟩ := Pattern.exists_fits_of_mem_leaves hmid
    refine ⟨?_, (Option.some.inj h).symm⟩
    -- what is left behind the symbol is blank, and nothing blank is at the end
    have hmid : mid = [] := by
      rcases (Pattern.mem_leaves_atEnd hend).2 with rfl | rfl
      · rfl
      · have hno := (noBlankEnds_trimChars text.toList).last '\n' (by rw [hsplit]; simp)
        cases hno
    rw [hsplit, hmid, List.append_nil]
    exact (fits_commodityPattern.mp hfits).1
  · cases h

/-- **A symbol that can be read back is written without blanks around it.** -/
theorem isSymbolText_quoteSymbol (h : symbolOf? (quoteSymbol symbol) = some symbol) :
    IsSymbolText (quoteSymbol symbol).toList ∧
      unquoteChars (quoteSymbol symbol).toList = symbol.toList := by
  obtain ⟨htext, hsymbol⟩ := symbolOf?_eq_some h
  have htrim : trimChars (quoteSymbol symbol).toList = (quoteSymbol symbol).toList := by
    rw [quoteSymbol]
    split
    · rename_i hplain
      rw [quoteSymbol, if_pos hplain] at hsymbol
      -- trimming cannot take away anything, or less would be left than the symbol has
      have hless := (unquoteChars_sublist (trimChars symbol.toList)).length_le
      rw [← String.toList_ofList (l := unquoteChars (trimChars symbol.toList)), ← hsymbol] at hless
      exact (trimChars_sublist symbol.toList).eq_of_length_le hless
    · have hquote : NoBlankEnds ['"'] := ⟨by rintro _ ⟨⟩; rfl, by rintro _ ⟨⟩; rfl⟩
      have hends := hquote.append hquote (List.cons_ne_nil _ _) (List.cons_ne_nil _ _) symbol.toList
      simpa using hends.trimChars_eq
  rw [htrim] at htext hsymbol
  exact ⟨htext, ((congrArg String.toList hsymbol).trans String.toList_ofList).symm⟩

end Symbols

/-! ## Amounts -/

section Amounts

variable {sign number : List Char} {quantity : String} {commodity : Option String}

/-- Whether a symbol is written in front of a quantity: its format says so or, without a format, it does
not start with a letter. -/
def isWrittenBefore (symbol : String) : Option CommodityFormat → Bool
  | some format => format.symbolBefore
  | none => !symbol.toList.head?.any isLetter

/-- Whether a symbol is written with a space beside it: its format says so or, without a format, it
starts with a letter. -/
def isWrittenSpaced (symbol : String) : Option CommodityFormat → Bool
  | some format => format.symbolSpacing
  | none => symbol.toList.head?.any isLetter

/-- What is written between a quantity and its symbol. -/
def writtenGap (symbol : String) (format : Option CommodityFormat) : List Char :=
  if isWrittenSpaced symbol format then [' '] else []

theorem eq_space_of_mem_writtenGap (symbol : String) (format : Option CommodityFormat) :
    ∀ x ∈ writtenGap symbol format, x = ' ' := by
  intro x hx
  rw [writtenGap] at hx
  split at hx
  · exact List.mem_singleton.mp hx
  · cases hx

theorem isEmpty_writtenGap (symbol : String) (format : Option CommodityFormat) :
    (!(writtenGap symbol format).isEmpty) = isWrittenSpaced symbol format := by
  rw [writtenGap]
  cases isWrittenSpaced symbol format <;> rfl

/-- **A written amount**, character by character. -/
theorem toList_renderAmount (hquantity : quantity = String.ofList (sign ++ number))
    (hsign : IsSignText sign) (hnumber : IsNumber number) {symbol : String} (hsymbol : symbol ≠ "")
    (format : Option CommodityFormat) :
    (renderAmount quantity (some symbol) format).toList =
      if isWrittenBefore symbol format then
        keptSign sign ++ ((quoteSymbol symbol).toList ++ (writtenGap symbol format ++ number))
      else sign ++ (number ++ (writtenGap symbol format ++ (quoteSymbol symbol).toList)) := by
  obtain ⟨first, others, hfirst⟩ : ∃ first others, symbol.toList = first :: others :=
    List.exists_cons_of_ne_nil fun hnil => hsymbol (by simpa using hnil)
  have hshape : renderAmount quantity (some symbol) format =
      if isWrittenBefore symbol format then
        (if quantity.toList.head? = some '-' then "-" else "") ++ quoteSymbol symbol ++
          (if isWrittenSpaced symbol format then " " else "") ++
            String.ofList (quantity.toList.dropWhile isSign)
      else quantity ++ (if isWrittenSpaced symbol format then " " else "") ++
        quoteSymbol symbol := by
    cases format <;> simp only [renderAmount, isWrittenBefore, isWrittenSpaced, hfirst] <;> rfl
  have hspace : (if isWrittenSpaced symbol format then " " else "" : String).toList =
      writtenGap symbol format := by
    rw [writtenGap]
    split <;> rfl
  have hdigits : quantity.toList.dropWhile isSign = number := by
    rw [hquantity, String.toList_ofList, dropWhile_isSign hsign hnumber]
  have hminus : (if quantity.toList.head? = some '-' then "-" else "" : String).toList =
      keptSign sign := by
    rw [hquantity, String.toList_ofList]
    rcases hsign with rfl | ⟨c, hc, rfl⟩
    · have hno : ([] ++ number).head? ≠ some '-' := fun h =>
        absurd (hnumber.isSign_head '-' h) (by decide)
      rw [if_neg hno]
      rfl
    · rcases isSign_iff.mp hc with rfl | rfl <;> simp [keptSign]
  rw [hshape]
  split
  · rw [hdigits]
    simp only [String.toList_append, String.toList_ofList, hspace, hminus, List.append_assoc]
  · rw [hquantity]
    simp only [String.toList_append, String.toList_ofList, hspace, List.append_assoc]

/-- What a written amount holds. -/
theorem mem_renderAmount (hquantity : quantity = String.ofList (sign ++ number))
    (hsign : IsSignText sign) (hnumber : IsNumber number) (hcommodity : ∀ c ∈ commodity, c ≠ "")
    {format : Option CommodityFormat} {x : Char}
    (hx : x ∈ (renderAmount quantity commodity format).toList) :
    x ∈ quantity.toList ∨ x = ' ' ∨ x = '"' ∨ ∃ c ∈ commodity, x ∈ c.toList := by
  cases commodity with
  | none => exact .inl hx
  | some symbol =>
    have hquoted : ∀ x ∈ (quoteSymbol symbol).toList, x = '"' ∨ x ∈ symbol.toList := by
      intro x hx
      rw [quoteSymbol] at hx
      split at hx
      · exact .inr hx
      · simpa [or_comm, or_assoc] using hx
    have hkept : ∀ x ∈ keptSign sign, x ∈ sign := by
      intro x hx
      rw [keptSign] at hx
      split at hx
      · rename_i hminus
        rw [hminus]
        exact hx
      · cases hx
    rw [toList_renderAmount hquantity hsign hnumber (hcommodity _ rfl)] at hx
    rw [hquantity, String.toList_ofList]
    have hmem : x ∈ sign ∨ x ∈ number ∨ x ∈ writtenGap symbol format ∨
        x ∈ (quoteSymbol symbol).toList := by
      split at hx
      all_goals simp only [List.mem_append] at hx
      · rcases hx with hx | hx | hx | hx
        · exact .inl (hkept x hx)
        · exact .inr (.inr (.inr hx))
        · exact .inr (.inr (.inl hx))
        · exact .inr (.inl hx)
      · exact hx
    rcases hmem with hx | hx | hx | hx
    · exact .inl (List.mem_append_left number hx)
    · exact .inl (List.mem_append_right sign hx)
    · exact .inr (.inl (eq_space_of_mem_writtenGap _ _ x hx))
    · exact .inr (.inr ((hquoted x hx).imp_right fun hx => ⟨symbol, rfl, hx⟩))

theorem keptSign_keptSign (hsign : IsSignText sign) : keptSign (keptSign sign) = keptSign sign := by
  rcases hsign with rfl | ⟨c, hc, rfl⟩
  · rfl
  · rcases isSign_iff.mp hc with rfl | rfl <;> rfl

/-- **An amount that was written with a symbol is taken apart again**, with the symbol where it was
written. -/
theorem ofChars?_renderAmount_symbol (hquantity : quantity = String.ofList (sign ++ number))
    (hsign : IsSignText sign) (hnumber : IsNumber number) {symbol : String} (hne : symbol ≠ "")
    (hback : symbolOf? (quoteSymbol symbol) = some symbol) (format : Option CommodityFormat) :
    NoBlankEnds (renderAmount quantity (some symbol) format).toList ∧
      ∃ a, ofChars? (renderAmount quantity (some symbol) format).toList = some a ∧
        a.quantity = withoutPlus quantity ∧ a.commodity = some symbol ∧
        a.symbolBefore = isWrittenBefore symbol format ∧
        a.spaced = isWrittenSpaced symbol format := by
  obtain ⟨htext, hunquote⟩ := isSymbolText_quoteSymbol hback
  have hkept := isSignText_keptSign sign
  have hgap := eq_space_of_mem_writtenGap symbol format
  rw [toList_renderAmount hquantity hsign hnumber hne, hquantity, withoutPlus_eq hsign hnumber,
    ← isEmpty_writtenGap]
  split
  · rename_i hbefore
    have hread := ofChars?_symbol_first hkept (.inl rfl) (.inr rfl) hnumber hgap htext
    rw [List.nil_append, keptSign_keptSign hsign, hunquote, String.ofList_toList] at hread
    exact ⟨(htext.noBlankEnds.append hnumber.noBlankEnds htext.ne_nil hnumber.ne_nil
      _).sign_append hkept (by simp [htext.ne_nil]), _, hread, rfl, rfl, hbefore.symm, rfl⟩
  · rename_i hbehind
    have hread := ofChars?_symbol_last hsign hnumber hgap htext
    rw [hunquote, String.ofList_toList] at hread
    exact ⟨(hnumber.noBlankEnds.append htext.noBlankEnds hnumber.ne_nil htext.ne_nil
      _).sign_append hsign (by simp [hnumber.ne_nil]), _, hread, rfl, rfl,
      (Bool.eq_false_iff.mpr hbehind).symm, rfl⟩

/-- **An amount that was written is taken apart again.** -/
theorem ofChars?_renderAmount (hquantity : quantity = String.ofList (sign ++ number))
    (hsign : IsSignText sign) (hnumber : IsNumber number)
    (hcommodity : ∀ c ∈ commodity, c ≠ "" ∧ symbolOf? (quoteSymbol c) = some c)
    (format : Option CommodityFormat) :
    NoBlankEnds (renderAmount quantity commodity format).toList ∧
      ∃ a, ofChars? (renderAmount quantity commodity format).toList = some a ∧
        a.quantity = withoutPlus quantity ∧ a.commodity = commodity := by
  cases commodity with
  | none =>
    have hrender : (renderAmount quantity none format).toList = sign ++ number := by
      rw [renderAmount, hquantity, String.toList_ofList]
    rw [hrender, hquantity, withoutPlus_eq hsign hnumber]
    exact ⟨hnumber.noBlankEnds.sign_append hsign hnumber.ne_nil,
      _, ofChars?_number hsign hnumber, rfl, rfl⟩
  | some symbol =>
    obtain ⟨hne, hback⟩ := hcommodity symbol rfl
    obtain ⟨hends, a, ha, hq, hc, -, -⟩ :=
      ofChars?_renderAmount_symbol hquantity hsign hnumber hne hback format
    exact ⟨hends, a, ha, hq, hc⟩

/-- **An amount that was taken apart and is written again** gives back its symbol, on the side and with
the space that the format or the default wants, and its quantity without a plus in front. -/
theorem ofText?_renderAmount {text symbol : String} {a : Amount}
    (h : Amount.ofText? text = some a) (hcommodity : a.commodity = some symbol)
    (hne : symbol ≠ "") (hback : symbolOf? (quoteSymbol symbol) = some symbol)
    (format : Option CommodityFormat) :
    ∃ b, Amount.ofText? (renderAmount a.quantity a.commodity format) = some b ∧
      b.commodity = some symbol ∧ b.quantity = withoutPlus a.quantity ∧
      b.symbolBefore = isWrittenBefore symbol format ∧
      b.spaced = isWrittenSpaced symbol format := by
  obtain ⟨sign, number, hquantity, hsign, hnumber, -⟩ := exists_pieces_of_ofChars? h
  obtain ⟨-, b, hb, hq, hc, hplace⟩ :=
    ofChars?_renderAmount_symbol hquantity hsign hnumber hne hback format
  rw [hcommodity]
  exact ⟨b, hb, hc, hq, hplace⟩

/-- A quoted symbol in front of a quantity with a plus, written without a format: the symbol goes behind
and keeps its quotes, and the plus is not read back. -/
theorem ofText?_renderAmount_of_green_apples :
    ∃ a, Amount.ofText? "\"green apples\" +1.000," = some a ∧ a.quantity = "+1.000," ∧
      renderAmount a.quantity a.commodity none = "+1.000, \"green apples\"" ∧
      ∃ b, Amount.ofText? (renderAmount a.quantity a.commodity none) = some b ∧
        b.commodity = some "green apples" ∧ b.quantity = "1.000," ∧ b.symbolBefore = false ∧
        b.spaced = true := by
  have ha : Amount.ofText? "\"green apples\" +1.000," = some
      { quantity := "+1.000,", commodity := some "green apples", symbolBefore := true,
        spaced := true, start := 15, stop := 22, commoditySpan := some (0, 14) } := by
    decide
  refine ⟨_, ha, rfl, by decide, ?_⟩
  exact ofText?_renderAmount ha rfl (by decide) (by decide) none

end Amounts

end Daybook.Amount
