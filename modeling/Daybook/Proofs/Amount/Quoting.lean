import Daybook.Proofs.Amount.Rendered

/-!
# Symbols with the quotes they need

A symbol is written without quotes if it consists of letters or is a single sign.  What can be read
without quotes is said by another class of characters, which leaves out blanks, digits and everything
that means something else in a posting.  The two agree on letters, and on single signs with the
exception of the signs of postings: such a symbol is written without quotes although it cannot be read
so.

* `IsQuotable`: the symbols that can stand between quotes.
* `isPostingSign`, `IsPostingSign`: the signs of postings, and the exception.
* `isSymbolChar_iff`, `isSymbolChar_of_isPlainChar`: the two classes of characters.
* `accepts_plainSymbolPattern_iff`: the symbols that are written without quotes.
* `symbolOf?_eq_some_iff`: the texts that are read as a symbol.
* `symbolOf?_quoteSymbol`: what is read of a symbol with the quotes it is given.
-/

namespace Daybook.Amount

open Text Pattern

/-! ## Classes of characters -/

/-- Whether a symbol can stand between quotes. -/
def IsQuotable (symbol : String) : Prop :=
  ∀ x ∈ symbol.toList, x ≠ '"' ∧ x ≠ '\n'

instance : DecidablePred IsQuotable :=
  fun symbol => decidable_of_iff ((symbol.toList.all fun x => x ≠ '"' ∧ x ≠ '\n') = true) (by
    simp only [IsQuotable, List.all_eq_true, decide_eq_true_eq])

/-- Whether a character means something of its own in a posting: in a number, in a price, in an
asserted balance, in front of a comment, or around an account. -/
def isPostingSign (c : Char) : Bool :=
  "-+.,;@=*()[]|'".toList.contains c

/-- Whether a symbol is one of the signs of postings. -/
def IsPostingSign (symbol : String) : Prop :=
  ∃ c, symbol.toList = [c] ∧ isPostingSign c = true

instance (symbol : String) : Decidable (IsPostingSign symbol) :=
  match h : symbol.toList with
  | [c] => decidable_of_iff (isPostingSign c = true) (by simp [IsPostingSign, h])
  | [] => isFalse (by simp [IsPostingSign, h])
  | _ :: _ :: _ => isFalse (by simp [IsPostingSign, h])

section Characters

variable {c : Char}

/-- What a symbol without quotes is made of. -/
theorem isSymbolChar_iff : isSymbolChar c = true ↔
    isBlank c = false ∧ isDigit c = false ∧ c ≠ '"' ∧ isPostingSign c = false := by
  have hsigns : "-+.,;@=*()[]\"|'".toList.contains c = (c == '"' || isPostingSign c) := by
    rw [Bool.eq_iff_iff]
    simp only [isPostingSign, List.contains_iff_mem, Bool.or_eq_true, beq_iff_eq]
    simp
    tauto
  rw [isSymbolChar, hsigns]
  cases isBlank c <;> cases isDigit c <;> cases isPostingSign c <;> simp

theorem isAlphanumeric_of_isDigit (h : isDigit c = true) : isAlphanumeric c = true := by
  rw [isAlphanumeric]
  split
  · rename_i hascii
    rw [isDigit, digitValue?, if_pos hascii] at h
    split at h
    · rename_i hrange
      have hdigit : c.isDigit = true := by
        simp only [Char.isDigit, Bool.and_eq_true, decide_eq_true_eq]
        exact hrange
      rw [Char.isAlphanum, hdigit, Bool.or_true]
    · cases h
  · rw [h, Bool.or_true, Bool.true_or]

/-- No letter or numeral is blank. -/
theorem isBlank_of_isAlphanumeric (h : isAlphanumeric c = true) : isBlank c = false := by
  have hcodes : ∀ n ∈ blankCodes, isAlphanumeric (Char.ofNat n) = false := by decide +kernel
  refine Bool.eq_false_iff.mpr fun hblank => ?_
  have hno := hcodes c.toNat (toNat_mem_blankCodes hblank)
  rw [Char.ofNat_toNat, h] at hno
  cases hno

/-- No letter or numeral is a sign of postings. -/
theorem isPostingSign_of_isAlphanumeric (h : isAlphanumeric c = true) : isPostingSign c = false := by
  have hsigns : ("-+.,;@=*()[]|'".toList.all fun x => !isAlphanumeric x) = true := by
    decide +kernel
  refine Bool.eq_false_iff.mpr fun hsign => ?_
  have hno := List.all_eq_true.mp hsigns c (List.contains_iff_mem.mp hsign)
  rw [h] at hno
  cases hno

/-- **Letters are read without quotes.** -/
theorem isSymbolChar_of_isPlainChar (h : isPlainChar c = true) : isSymbolChar c = true := by
  rw [isPlainChar, Bool.and_eq_true, Bool.not_eq_true'] at h
  refine isSymbolChar_iff.mpr ⟨isBlank_of_isAlphanumeric h.1, h.2, ?_,
    isPostingSign_of_isAlphanumeric h.1⟩
  rintro rfl
  exact absurd h.1 (by decide)

/-- Whether a character is a sign: neither a word character nor blank nor a quote. -/
def isLoneSign (c : Char) : Bool :=
  !(isWord c || isBlank c || c == '"')

theorem isLoneSign_iff :
    isLoneSign c = true ↔ isWord c = false ∧ isBlank c = false ∧ c ≠ '"' := by
  simp [isLoneSign, and_assoc]

/-- **A single sign is read without quotes** unless it is a sign of postings. -/
theorem isSymbolChar_of_isLoneSign (h : isLoneSign c = true) :
    isSymbolChar c = !isPostingSign c := by
  obtain ⟨hword, hblank, hquote⟩ := isLoneSign_iff.mp h
  have hdigit : isDigit c = false := by
    refine Bool.eq_false_iff.mpr fun hdigit => ?_
    rw [isWord, isAlphanumeric_of_isDigit hdigit, Bool.or_true] at hword
    cases hword
  rw [Bool.eq_iff_iff, isSymbolChar_iff, Bool.not_eq_true']
  exact ⟨fun h => h.2.2.2, fun h => ⟨hblank, hdigit, hquote, h⟩⟩

/-- The signs of postings are signs. -/
theorem isLoneSign_of_isPostingSign (h : isPostingSign c = true) : isLoneSign c = true := by
  have hsigns : "-+.,;@=*()[]|'".toList.all isLoneSign = true := by decide +kernel
  exact List.all_eq_true.mp hsigns c (List.contains_iff_mem.mp h)

end Characters

/-! ## Symbols without quotes -/

/-- The symbols that are written without quotes: letters, or one sign. -/
theorem accepts_plainSymbolPattern_iff {cs : List Char} (hbreak : '\n' ∉ cs) :
    plainSymbolPattern.accepts cs = true ↔
      (cs ≠ [] ∧ ∀ x ∈ cs, isPlainChar x = true) ∨ ∃ c, cs = [c] ∧ isLoneSign c = true := by
  rw [accepts, isSome_match?_iff]
  constructor
  · intro h
    obtain ⟨rest, hrest⟩ := List.exists_mem_of_ne_nil _ h
    rcases List.mem_append.mp hrest with hrest | hrest
    all_goals
      obtain ⟨mid, hmid, hend⟩ := List.mem_flatMap.mp hrest
      obtain ⟨taken, fs, hfits, rfl⟩ := exists_fits_of_mem_leaves hmid
      obtain rfl : mid = [] := by
        rcases (mem_leaves_atEnd hend).2 with rfl | rfl
        · rfl
        · exact absurd (by simp) hbreak
      rw [List.append_nil]
    · obtain ⟨hclass, hlength, -⟩ := fits_many.mp hfits
      exact .inl ⟨List.ne_nil_of_length_pos hlength, hclass⟩
    · obtain ⟨x, hx, rfl, -⟩ := hfits
      exact .inr ⟨x, rfl, hx⟩
  · have hend : ([] : List Char) ∈ (atEnd : Pattern Empty).leaves [] := List.mem_singleton.mpr rfl
    rintro (⟨hsome, hplain⟩ | ⟨c, rfl, hc⟩)
    · refine List.ne_nil_of_mem (List.mem_append_left _ (mem_leaves_seq ?_ hend))
      exact mem_leaves_run_iff.mpr ⟨cs, (List.append_nil cs).symm,
        List.length_pos_of_ne_nil hsome, accepted_class.mpr hplain⟩
    · refine List.ne_nil_of_mem (List.mem_append_right _ (mem_leaves_seq ?_ hend))
      exact (if_pos hc ▸ List.mem_singleton.mpr rfl :
        [] ∈ if isLoneSign c = true then [([] : List Char)] else [])

/-! ## Reading symbols -/

section Reading

variable {cs : List Char} {symbol text : String}

/-- Nothing is taken off a symbol that was written without quotes. -/
theorem unquoteChars_bare (h : ∀ x ∈ cs, isSymbolChar x = true) : unquoteChars cs = cs := by
  have htrim : trimChars cs = cs := trimChars_eq_self fun x hx => isBlank_of_isSymbolChar (h x hx)
  have hquote : ¬(2 ≤ cs.length && cs.head? == some '"' && cs.getLast? == some '"') = true := by
    intro hquoted
    rw [Bool.and_eq_true, Bool.and_eq_true, beq_iff_eq] at hquoted
    exact (isSymbolChar_iff.mp (h '"' (List.mem_of_mem_head? hquoted.1.2))).2.2.1 rfl
  rw [unquoteChars, htrim]
  exact if_neg hquote

/-- The quotes are taken off. -/
theorem unquoteChars_quoted (cs : List Char) : unquoteChars ('"' :: (cs ++ ['"'])) = cs := by
  have hends : NoBlankEnds ('"' :: (cs ++ ['"'])) := by
    have hquote : NoBlankEnds ['"'] := ⟨by rintro _ ⟨⟩; rfl, by rintro _ ⟨⟩; rfl⟩
    exact hquote.append hquote (List.cons_ne_nil _ _) (List.cons_ne_nil _ _) cs
  have hlast : ('"' :: (cs ++ ['"'])).getLast? = some '"' := by
    rw [← List.cons_append, List.getLast?_append]
    rfl
  rw [unquoteChars, hends.trimChars_eq]
  simp [hlast]

/-- **The texts that are read as a symbol** are symbols as they are written, with blanks around
them. -/
theorem symbolOf?_eq_some_iff : symbolOf? text = some symbol ↔
    IsSymbolText (trimChars text.toList) ∧
      symbol = String.ofList (unquoteChars (trimChars text.toList)) := by
  refine ⟨symbolOf?_eq_some, ?_⟩
  rintro ⟨htext, rfl⟩
  have hstop : ∀ x ∈ ([] : List Char).head?, isSymbolChar x = false := nofun
  have haccepts : (Pattern.all [commodityPattern, .atEnd] : Pattern Empty).accepts
      (trimChars text.toList) = true := by
    have hsymbol := prefers_commodityPattern htext hstop 0 ([] : List (Span Empty))
    rw [List.append_nil] at hsymbol
    have hway : (Pattern.all [commodityPattern, .atEnd] : Pattern Empty).Prefers
        ⟨0, trimChars text.toList, []⟩ ⟨0 + (trimChars text.toList).length, [], []⟩ :=
      prefers_seq hsymbol (prefers_atEnd _ _)
    rw [accepts, match?_of_prefers hway]
    rfl
  have hsome : ¬(trimChars text.toList).isEmpty = true := fun h =>
    htext.ne_nil (List.isEmpty_iff.mp h)
  rw [symbolOf?, if_neg hsome, if_pos haccepts]

/-- A symbol as it is written holds a symbol that can stand between quotes. -/
theorem IsSymbolText.isQuotable (h : IsSymbolText cs) :
    IsQuotable (String.ofList (unquoteChars cs)) := by
  rw [IsQuotable, String.toList_ofList]
  cases h with
  | quoted hinner => rwa [unquoteChars_quoted]
  | bare hsome hbare =>
    rw [unquoteChars_bare hbare]
    intro x hx
    obtain ⟨hblank, -, hquote, -⟩ := isSymbolChar_iff.mp (hbare x hx)
    refine ⟨hquote, ?_⟩
    rintro rfl
    cases hblank

/-- A text that is written as a symbol is read as one. -/
theorem symbolOf?_of_isSymbolText (h : IsSymbolText text.toList) :
    symbolOf? text = some (String.ofList (unquoteChars text.toList)) := by
  rw [symbolOf?_eq_some_iff, h.noBlankEnds.trimChars_eq]
  exact ⟨h, rfl⟩

/-- A symbol of symbol characters is read without quotes. -/
theorem symbolOf?_bare (hsome : symbol.toList ≠ [])
    (h : ∀ x ∈ symbol.toList, isSymbolChar x = true) : symbolOf? symbol = some symbol := by
  rw [symbolOf?_of_isSymbolText (.bare hsome h), unquoteChars_bare h, String.ofList_toList]

/-- A symbol between quotes is read. -/
theorem symbolOf?_quoted (h : IsQuotable symbol) :
    symbolOf? ("\"" ++ symbol ++ "\"") = some symbol := by
  have htext : ("\"" ++ symbol ++ "\"").toList = '"' :: (symbol.toList ++ ['"']) := by
    simp
  rw [symbolOf?_of_isSymbolText (htext ▸ .quoted h), htext, unquoteChars_quoted,
    String.ofList_toList]

/-- **A single sign without quotes** is read as a symbol unless it is a sign of postings. -/
theorem symbolOf?_sign {c : Char} (hc : symbol.toList = [c]) (hsign : isLoneSign c = true) :
    symbolOf? symbol = if isPostingSign c = true then none else some symbol := by
  have hclass := isSymbolChar_of_isLoneSign hsign
  obtain ⟨-, hblank, hquote⟩ := isLoneSign_iff.mp hsign
  cases hposting : isPostingSign c with
  | false =>
    rw [hposting, Bool.not_false] at hclass
    refine symbolOf?_bare (by rw [hc]; exact List.cons_ne_nil c []) fun x hx => ?_
    rw [hc] at hx
    rwa [List.mem_singleton.mp hx]
  | true =>
    rw [hposting, Bool.not_true] at hclass
    refine Option.eq_none_iff_forall_ne_some.mpr fun other hother => ?_
    obtain ⟨htext, -⟩ := symbolOf?_eq_some_iff.mp hother
    have htrim : trimChars symbol.toList = [c] := by
      rw [hc]
      exact trimChars_eq_self (List.forall_mem_singleton.mpr hblank)
    rw [htrim] at htext
    have hend := htext.head c rfl
    rw [isSymbolEnd, hclass, Bool.or_false, beq_iff_eq] at hend
    exact hquote hend

/-- **What is read of a symbol with the quotes it is given**: the symbol, unless it is one of the signs
of postings. -/
theorem symbolOf?_quoteSymbol (hne : symbol ≠ "") (h : IsQuotable symbol) :
    symbolOf? (quoteSymbol symbol) = if IsPostingSign symbol then none else some symbol := by
  have hbreak : '\n' ∉ symbol.toList := fun hmem => (h _ hmem).2 rfl
  have hshape := accepts_plainSymbolPattern_iff hbreak
  rw [quoteSymbol]
  by_cases hplain : plainSymbolPattern.accepts symbol.toList = true
  · rw [if_pos (by rw [hplain, Bool.or_true])]
    rcases hshape.mp hplain with ⟨hsome, hletters⟩ | ⟨c, hc, hsign⟩
    · have hclass : ∀ x ∈ symbol.toList, isSymbolChar x = true := fun x hx =>
        isSymbolChar_of_isPlainChar (hletters x hx)
      have hnot : ¬IsPostingSign symbol := by
        rintro ⟨c, hc, hposting⟩
        obtain ⟨-, -, -, hno⟩ := isSymbolChar_iff.mp (hclass c (by rw [hc]; exact List.mem_cons_self))
        rw [hno] at hposting
        cases hposting
      rw [if_neg hnot, symbolOf?_bare hsome hclass]
    · have hposting : IsPostingSign symbol ↔ isPostingSign c = true := by
        simp [IsPostingSign, hc]
      rw [symbolOf?_sign hc hsign, ite_cond_congr (propext hposting)]
  · have hquoted : ¬(symbol.isEmpty || plainSymbolPattern.accepts symbol.toList) = true := by
      simpa [hne] using hplain
    have hnot : ¬IsPostingSign symbol := by
      rintro ⟨c, hc, hposting⟩
      exact hplain (hshape.mpr (.inr ⟨c, hc, isLoneSign_of_isPostingSign hposting⟩))
    rw [if_neg hquoted, if_neg hnot, symbolOf?_quoted h]

end Reading

end Daybook.Amount
