import Daybook.Completion.Context
import Daybook.Proofs.Amount.Pieces
import Daybook.Proofs.Journal.Account
import Daybook.Proofs.Pattern.Pieces

/-!
# Behind an amount

Commodities are offered one space behind the amount of a posting and nowhere else.  Three patterns are
tried one after the other to tell this place, and all of them can take an amount apart in more than
one way.  What helps is that none of these ways starts its number earlier than the number that was
written: only a symbol between quotes has digits in front of the number, and a pattern that has taken
one quote has to take the other one, too.

* `TypedPosting`: a posting that is typed up to the end of its amount.
* `IsAmountLead`: what can stand in front of the number of an amount.
* `suffix_of_isAmountLead`, `exists_suffix_of_mem_leaves_amount`: where its number can start.
* `TypedPosting.prefers_postingPattern`: where the amount of the posting starts.
* `TypedPosting.classify_behind_amount`: what is offered behind it.
-/

namespace Daybook.Completion

open Text Amount Journal Pattern

/-! ## Amounts that are being typed -/

/-- What can stand between the sign of an amount and its quantity: a symbol with at most one space
behind it, or nothing. -/
inductive IsLeadingSymbol : List Char → Prop where
  | none : IsLeadingSymbol []
  | symbol {name gap : List Char} (hname : IsSymbolText name) (hgap : gap = [] ∨ gap = [' ']) :
    IsLeadingSymbol (name ++ gap)

/-- What can stand in front of the number of an amount: two signs, with a symbol between them. -/
def IsAmountLead (cs : List Char) : Prop :=
  ∃ sign symbol inner, IsSignText sign ∧ IsLeadingSymbol symbol ∧ IsSignText inner ∧
    cs = sign ++ (symbol ++ inner)

section Lead

variable {sign cs taken more : List Char} {x : Char}

theorem isNumberChar_of_mem_sign (h : IsSignText sign) (hx : x ∈ sign) : isNumberChar x = false := by
  rcases h with rfl | ⟨c, hc, rfl⟩
  · cases hx
  · rw [List.mem_singleton.mp hx]
    exact isNumberChar_of_isSign hc

theorem count_quote_sign (h : IsSignText sign) : sign.count '"' = 0 := by
  refine List.count_eq_zero.mpr fun hquote => ?_
  rcases h with rfl | ⟨c, hc, rfl⟩
  · cases hquote
  · rw [← List.mem_singleton.mp hquote] at hc
    cases hc

theorem count_quote_of_ne {inner : List Char} (h : ∀ x ∈ inner, x ≠ '"' ∧ x ≠ '\n') :
    inner.count '"' = 0 :=
  List.count_eq_zero.mpr fun hquote => (h '"' hquote).1 rfl

/-- The quotes of a symbol come in pairs. -/
theorem count_quote_leadingSymbol (h : IsLeadingSymbol cs) : cs.count '"' ≠ 1 := by
  cases h with
  | none => decide
  | symbol hname hgap =>
    have hspace : ∀ {gap : List Char}, gap = [] ∨ gap = [' '] → gap.count '"' = 0 := by
      rintro _ (rfl | rfl) <;> decide
    rw [List.count_append, hspace hgap]
    cases hname with
    | quoted h => simp [List.count_append, count_quote_of_ne h]
    | bare hsome h =>
      have hnone : '"' ∉ _ := fun hquote => absurd (h '"' hquote) (by decide)
      rw [List.count_eq_zero.mpr hnone]
      decide

theorem IsAmountLead.count_quote_ne_one (h : IsAmountLead cs) : cs.count '"' ≠ 1 := by
  obtain ⟨sign, symbol, inner, hsign, hsymbol, hinner, rfl⟩ := h
  rw [List.count_append, List.count_append, count_quote_sign hsign, count_quote_sign hinner,
    Nat.zero_add, Nat.add_zero]
  exact count_quote_leadingSymbol hsymbol

/-- An amount does not start with a blank. -/
theorem IsAmountLead.isBlank_head {number behind : List Char} (h : IsAmountLead cs)
    (hnumber : IsNumber number) : ∀ x ∈ (cs ++ number ++ behind).head?, isBlank x = false := by
  have hsign : ∀ {sign rest : List Char}, IsSignText sign →
      (∀ x ∈ rest.head?, isBlank x = false) → ∀ x ∈ (sign ++ rest).head?, isBlank x = false := by
    rintro _ rest (rfl | ⟨c, hc, rfl⟩) hrest x hx
    · exact hrest x hx
    · cases hx
      exact isBlank_of_isSign hc
  have hnumberHead : ∀ x ∈ (number ++ behind).head?, isBlank x = false := by
    rw [List.head?_append_of_ne_nil _ hnumber.ne_nil]
    exact fun x hx => isBlank_of_isNumberChar (hnumber.isNumberChar x (List.mem_of_mem_head? hx))
  obtain ⟨sign, symbol, inner, hsign', hsymbol, hinner, rfl⟩ := h
  simp only [List.append_assoc]
  refine hsign hsign' ?_
  cases hsymbol with
  | none =>
    rw [List.nil_append]
    exact hsign hinner hnumberHead
  | symbol hname hgap =>
    rw [List.append_assoc, List.head?_append_of_ne_nil _ hname.ne_nil]
    exact fun x hx => isBlank_of_isSymbolEnd (hname.head x hx)

/-- What could start a number and does not stand behind a symbol between quotes stands inside it. -/
theorem count_quote_of_quoted {text behind : List Char} (htext : ∀ y ∈ text, y ≠ '"' ∧ y ≠ '\n')
    (hbehind : x ∉ behind) (hx : isNumberChar x = true)
    (h : '"' :: (text ++ '"' :: behind) = taken ++ x :: more) : taken.count '"' = 1 := by
  cases taken with
  | nil =>
    obtain ⟨rfl, -⟩ := List.cons.inj h
    cases hx
  | cons y taken =>
    obtain ⟨rfl, htail⟩ := List.cons.inj h
    rcases List.append_eq_append_iff.mp htail with ⟨between, rfl, hrest⟩ | ⟨left, rfl, -⟩
    · cases between with
      | nil =>
        obtain ⟨rfl, -⟩ := List.cons.inj hrest
        cases hx
      | cons y between =>
        obtain ⟨-, rfl⟩ := List.cons.inj hrest
        exact absurd (List.mem_append_right between List.mem_cons_self) hbehind
    · have hnone : taken.count '"' = 0 :=
        count_quote_of_ne fun y hy => htext y (List.mem_append_left left hy)
      rw [List.count_cons_self, hnone]

/-- What could start a number stands behind the first of two quotes. -/
theorem count_quote_of_leadingSymbol {inner : List Char} (h : IsLeadingSymbol cs)
    (hinner : IsSignText inner) (hsplit : cs ++ inner = taken ++ x :: more)
    (hx : isNumberChar x = true) : taken.count '"' = 1 := by
  have hnone : ∀ {ys : List Char}, (∀ y ∈ ys, isNumberChar y = false) → x ∉ ys := fun hys hmem =>
    Bool.false_ne_true ((hys x hmem).symm.trans hx)
  have hsign : x ∉ inner := hnone fun y hy => isNumberChar_of_mem_sign hinner hy
  have hmem : x ∈ cs ++ inner := by
    rw [hsplit]
    exact List.mem_append_right taken List.mem_cons_self
  cases h with
  | none => exact absurd hmem hsign
  | @symbol name gap hname hgap =>
    have hgap' : x ∉ gap := by
      rcases hgap with rfl | rfl
      · exact List.not_mem_nil
      · exact hnone (List.forall_mem_singleton.mpr (by decide))
    have hbehind : x ∉ gap ++ inner := fun hmem => (List.mem_append.mp hmem).elim hgap' hsign
    rw [List.append_assoc] at hmem hsplit
    cases hname with
    | quoted h =>
      rw [List.cons_append, List.append_assoc, List.singleton_append] at hsplit
      exact count_quote_of_quoted h hbehind hx hsplit
    | bare hsome h =>
      have hname : x ∉ name := hnone fun y hy =>
        isNumberChar_of_isSymbolEnd (by rw [isSymbolEnd, h y hy, Bool.or_true])
      exact absurd hmem fun hmem => (List.mem_append.mp hmem).elim hname hbehind

/-- **Where a number can start.**  Of two texts that can stand in front of a number, the one that is
taken does not end inside the one that was written. -/
theorem suffix_of_isAmountLead {lead behind : List Char} (hlead : IsAmountLead lead)
    (htaken : IsAmountLead taken) (hx : isNumberChar x = true)
    (h : lead ++ behind = taken ++ x :: more) : x :: more <:+ behind := by
  rcases List.append_eq_append_iff.mp h with ⟨between, -, hbehind⟩ | ⟨left, hleft, hrest⟩
  · exact ⟨between, hbehind.symm⟩
  cases left with
  | nil => exact ⟨[], hrest⟩
  | cons y left =>
    obtain ⟨rfl, -⟩ := List.cons.inj hrest
    refine absurd ?_ htaken.count_quote_ne_one
    obtain ⟨sign, symbol, inner, hsign, hsymbol, hinner, rfl⟩ := hlead
    rcases hsign with rfl | ⟨c, hc, rfl⟩
    · exact count_quote_of_leadingSymbol hsymbol hinner hleft hx
    · cases taken with
      | nil =>
        obtain ⟨rfl, -⟩ := List.cons.inj hleft
        rw [isNumberChar_of_isSign hc] at hx
        cases hx
      | cons z taken =>
        obtain ⟨rfl, htail⟩ := List.cons.inj hleft
        have hquote : c ≠ '"' := by
          rintro rfl
          cases hc
        rw [List.count_cons_of_ne hquote]
        exact count_quote_of_leadingSymbol hsymbol hinner htail hx

theorem isLeadingSymbol_of_fits {fs : List (Typed × List Char)} (h : leadingSymbol.Fits cs fs) :
    IsLeadingSymbol cs := by
  rcases fits_opt.mp h with ⟨name, _, gap, _, hname, hgap, rfl, -⟩ | ⟨rfl, -⟩
  · refine .symbol (fits_commodityPattern.mp hname).1 ?_
    rcases fits_opt.mp hgap with ⟨c, hc, rfl, -⟩ | ⟨rfl, -⟩
    · exact .inr (by rw [beq_iff_eq.mp hc])
    · exact .inl rfl
  · exact .none

/-- **Where a pattern goes on behind the quantity of an amount**: nowhere in front of its number. -/
theorem exists_suffix_of_mem_leaves_amount {q : Pattern Typed} {lead behind rest : List Char}
    (hlead : IsAmountLead lead)
    (h : rest ∈ (Pattern.seq (.opt (.one isSign)) (.seq leadingSymbol (.seq quantityPattern q))).leaves
      (lead ++ behind)) :
    ∃ mid, mid <:+ behind ∧ rest ∈ q.leaves mid := by
  obtain ⟨behindSign, hbehindSign, hbehind⟩ := List.mem_flatMap.mp h
  obtain ⟨behindSymbol, hbehindSymbol, hbehind⟩ := List.mem_flatMap.mp hbehind
  obtain ⟨mid, hmid, hrest⟩ := List.mem_flatMap.mp hbehind
  obtain ⟨sign, _, hsign, hsplit⟩ := exists_fits_of_mem_leaves hbehindSign
  obtain ⟨symbol, _, hsymbol, rfl⟩ := exists_fits_of_mem_leaves hbehindSymbol
  obtain ⟨quantity, _, hquantity, rfl⟩ := exists_fits_of_mem_leaves hmid
  obtain ⟨inner, number, rfl, hinner, hnumber⟩ := fits_quantityPattern hquantity
  obtain ⟨x, xs, rfl, hchars⟩ := hnumber.exists_cons
  have hsignText : IsSignText sign := by
    rcases fits_opt.mp hsign with ⟨c, hc, rfl, -⟩ | ⟨rfl, -⟩
    · exact .inr ⟨c, hc, rfl⟩
    · exact .inl rfl
  have htaken : IsAmountLead (sign ++ (symbol ++ inner)) :=
    ⟨sign, symbol, inner, hsignText, isLeadingSymbol_of_fits hsymbol, hinner, rfl⟩
  have hstart : lead ++ behind = sign ++ (symbol ++ inner) ++ x :: (xs ++ mid) := by
    rw [hsplit]
    simp only [List.append_assoc, List.cons_append]
  refine ⟨mid, ?_, hrest⟩
  exact (List.suffix_append (x :: xs) mid).trans
    (suffix_of_isAmountLead hlead htaken (hchars x List.mem_cons_self) hstart)

/-- What finishes an amount: a cost and an asserted balance, if there are any, and a wide gap. -/
def amountFinish : Pattern Typed :=
  .all [.opt (.all [gap, .one (· == '@'), .opt (.one (· == '@')), gap, typedAmount]),
    .opt (.all [gap, .one (· == '='), .opt (.one (· == '=')), .opt (.one (· == '*')), gap,
      typedAmount]),
    .either (.one (· == '\t')) (.many isBlank 2)]

/-- A single blank does not finish an amount. -/
theorem leaves_amountFinish_eq_nil (hblank : cs.countP isBlank ≤ 1)
    (hplain : ∀ x ∈ cs, x ≠ '\t' ∧ x ≠ '@' ∧ x ≠ '=') : amountFinish.leaves cs = [] := by
  have hcost : ∀ x ∈ cs, (x == '@') = false := fun x hx => beq_eq_false_iff_ne.mpr (hplain x hx).2.1
  have hassertion : ∀ x ∈ cs, (x == '=') = false := fun x hx =>
    beq_eq_false_iff_ne.mpr (hplain x hx).2.2
  refine leaves_seq_opt_eq_nil (leaves_seq_of_eq_nil (leaves_seq_eq_nil_iff.mpr fun rest hrest =>
    leaves_seq_of_eq_nil (leaves_one_behind_gap hcost rest hrest))) ?_
  refine leaves_seq_opt_eq_nil (leaves_seq_of_eq_nil (leaves_seq_eq_nil_iff.mpr fun rest hrest =>
    leaves_seq_of_eq_nil (leaves_one_behind_gap hassertion rest hrest))) ?_
  refine List.append_eq_nil_iff.mpr ⟨?_, List.eq_nil_iff_forall_not_mem.mpr fun rest hrest => ?_⟩
  · cases cs with
    | nil => rfl
    | cons x xs => exact if_neg (by simpa using (hplain x List.mem_cons_self).1)
  · obtain ⟨taken, rfl, htwo, htaken⟩ := mem_leaves_run_iff.mp hrest
    have hall : taken.countP isBlank = taken.length :=
      List.countP_eq_length.mpr (accepted_class.mp htaken)
    rw [List.countP_append] at hblank
    omega

end Lead

/-! ## Postings that are being typed -/

/-- A posting that is typed up to the end of its amount. -/
structure TypedPosting where
  indent : List Char
  /-- A status marker with the blanks behind it, or nothing. -/
  marker : List Char
  account : List Char
  separator : List Char
  sign : List Char
  /-- A symbol with at most one space behind it, or nothing. -/
  symbol : List Char
  quantity : List Char
  indent_ne_nil : indent ≠ []
  isGap_indent : ∀ x ∈ indent, isGap x = true
  marker_eq : marker = [] ∨ ∃ mark blanks, isStatus mark = true ∧ blanks ≠ [] ∧
    (∀ x ∈ blanks, isGap x = true) ∧ marker = mark :: blanks
  takesAll_account : (accountPattern : Pattern Typed).TakesAll account
  /-- An account is not mistaken for a marker. -/
  unmarked : marker = [] → ∀ mark, isStatus mark = true →
    account ≠ [mark] ∧ ¬[mark, ' '] <+: account
  separator_eq : ∃ blanks, (∀ x ∈ blanks, isGap x = true) ∧
    (separator = '\t' :: blanks ∨ separator = ' ' :: ' ' :: blanks)
  sign_eq : sign = [] ∨ ∃ c, isSign c = true ∧ sign = [c]
  symbol_eq : symbol = [] ∨ ∃ name, (commodityPattern : Pattern Typed).TakesAll name ∧
    (symbol = name ∨ symbol = name ++ [' '])
  takesAll_quantity : (quantityPattern : Pattern Typed).TakesAll quantity

namespace TypedPosting

/-- What stands in front of the amount. -/
def start (p : TypedPosting) : List Char :=
  p.indent ++ (p.marker ++ (p.account ++ p.separator))

/-- The amount. -/
def amount (p : TypedPosting) : List Char :=
  p.sign ++ (p.symbol ++ p.quantity)

/-- The whole text. -/
def line (p : TypedPosting) : List Char :=
  p.start ++ p.amount

variable (p : TypedPosting) {behind : List Char}

/-! ### Its amount -/

theorem isLeadingSymbol_symbol : IsLeadingSymbol p.symbol := by
  rcases p.symbol_eq with h | ⟨name, hname, h⟩
  · rw [h]
    exact .none
  · obtain ⟨_, hfits⟩ := hname.fits
    have hsymbol := (fits_commodityPattern.mp hfits).1
    rcases h with h | h
    · rw [h, ← List.append_nil name]
      exact .symbol hsymbol (.inl rfl)
    · rw [h]
      exact .symbol hsymbol (.inr rfl)

theorem exists_quantity_eq :
    ∃ inner number, p.quantity = inner ++ number ∧ IsSignText inner ∧ IsNumber number := by
  obtain ⟨_, hfits⟩ := p.takesAll_quantity.fits
  exact fits_quantityPattern hfits

/-- The amount of a posting is a number and what stands in front of it. -/
theorem exists_amount_eq :
    ∃ lead number, IsAmountLead lead ∧ IsNumber number ∧ p.amount = lead ++ number := by
  obtain ⟨inner, number, hquantity, hinner, hnumber⟩ := p.exists_quantity_eq
  refine ⟨p.sign ++ (p.symbol ++ inner), number,
    ⟨p.sign, p.symbol, inner, p.sign_eq, p.isLeadingSymbol_symbol, hinner, rfl⟩, hnumber, ?_⟩
  rw [amount, hquantity]
  simp only [List.append_assoc]

/-- What is typed behind a symbol does not start with a further character of it. -/
theorem isSymbolChar_quantity_head : ∀ x ∈ (p.quantity ++ behind).head?, isSymbolChar x = false := by
  obtain ⟨inner, number, hquantity, hinner, hnumber⟩ := p.exists_quantity_eq
  intro x hx
  rw [hquantity, List.append_assoc] at hx
  rcases hinner with rfl | ⟨c, hc, rfl⟩
  · rw [List.nil_append, List.head?_append_of_ne_nil _ hnumber.ne_nil] at hx
    exact isSymbolChar_of_isNumberChar (hnumber.isNumberChar x (List.mem_of_mem_head? hx))
  · cases hx
    exact isSymbolChar_of_isSign hc

/-- A symbol in front of a quantity can be taken. -/
theorem mem_leaves_leadingSymbol :
    p.quantity ++ behind ∈ leadingSymbol.leaves (p.symbol ++ (p.quantity ++ behind)) := by
  rcases p.symbol_eq with h | ⟨name, hname, h⟩
  · rw [h]
    exact self_mem_leaves_opt _ _
  · obtain ⟨_, hfits⟩ := hname.fits
    have hsymbol := (fits_commodityPattern.mp hfits).1
    refine mem_leaves_opt ?_
    rcases h with h | h
    · rw [h]
      exact mem_leaves_seq
        (TakesText.mem_leaves (prefers_commodityPattern hsymbol p.isSymbolChar_quantity_head))
        (self_mem_leaves_opt _ (p.quantity ++ behind))
    · have hspace : ∀ x ∈ (' ' :: (p.quantity ++ behind)).head?, isSymbolChar x = false := by
        rintro _ ⟨⟩
        rfl
      rw [h, List.append_assoc, List.singleton_append]
      exact mem_leaves_seq
        (TakesText.mem_leaves (prefers_commodityPattern hsymbol hspace))
        (mem_leaves_opt (List.mem_singleton_self _))

/-- **The amount can be taken as it was written.** -/
theorem mem_leaves_amount {q : Pattern Typed} {rest : List Char}
    (hstop : ∀ x ∈ behind.head?, isNumberChar x = false) (h : rest ∈ q.leaves behind) :
    rest ∈ (Pattern.seq (.opt (.one isSign)) (.seq leadingSymbol (.seq quantityPattern q))).leaves
      (p.amount ++ behind) := by
  have hquantity : behind ∈ (quantityPattern : Pattern Typed).leaves (p.quantity ++ behind) := by
    obtain ⟨inner, number, hquantity, hinner, hnumber⟩ := p.exists_quantity_eq
    rw [hquantity]
    exact TakesText.mem_leaves (prefers_quantityPattern hinner hnumber hstop)
  have hsign : p.symbol ++ (p.quantity ++ behind) ∈ (Pattern.opt (.one isSign) : Pattern Typed).leaves
      (p.amount ++ behind) := by
    rw [amount, List.append_assoc, List.append_assoc]
    rcases p.sign_eq with hsign | ⟨c, hc, hsign⟩
    · rw [hsign]
      exact self_mem_leaves_opt _ _
    · rw [hsign]
      exact mem_leaves_opt (TakesText.mem_leaves (takesText_one hc))
  exact mem_leaves_seq hsign (mem_leaves_seq p.mem_leaves_leadingSymbol (mem_leaves_seq hquantity h))

/-! ### What stands in front of it -/

theorem isAccountText_account : IsAccountText p.account [] := by
  obtain ⟨taken, htaken, haccount⟩ := mem_leaves_accountPattern_iff.mp p.takesAll_account
  rw [htaken, List.append_nil]
  exact haccount

theorem isGap_amount_head (behind : List Char) :
    ∀ x ∈ (p.amount ++ behind).head?, isGap x = false := by
  obtain ⟨lead, number, hlead, hnumber, hamount⟩ := p.exists_amount_eq
  intro x hx
  refine Bool.eq_false_iff.mpr fun hgap => ?_
  rw [hamount] at hx
  have hblank := hlead.isBlank_head hnumber x hx
  rw [isBlank_of_isGap hgap] at hblank
  cases hblank

/-- The account stops in front of the separator. -/
theorem stops_separator : Stops continuesAccount (p.separator ++ behind) := by
  obtain ⟨blanks, -, h | h⟩ := p.separator_eq <;>
  · rw [h]
    rfl

/-- The separator is taken as a whole. -/
theorem takesText_separator (hbehind : ∀ x ∈ behind.head?, isGap x = false) :
    (Pattern.either (.seq (.one (· == '\t')) gap) (.seq (.many (· == ' ') 2) gap) :
      Pattern Typed).TakesText p.separator behind := by
  have hsome : (Pattern.seq Journal.separator gap : Pattern Typed).TakesText p.separator behind := by
    obtain ⟨blanks, hblanks, h | h⟩ := p.separator_eq <;> rw [h]
    · exact Journal.takesText_separator (List.forall_mem_cons.mpr ⟨rfl, hblanks⟩) (.inl rfl) hbehind
    · exact Journal.takesText_separator
        (List.forall_mem_cons.mpr ⟨rfl, List.forall_mem_cons.mpr ⟨rfl, hblanks⟩⟩)
        (.inr (List.prefix_append _ _)) hbehind
  exact takesText_either_seq.mp hsome

/-- A marker that is not there is not taken. -/
theorem leaves_marker_eq_nil (hmarker : p.marker = []) (q : Pattern Typed) :
    (Pattern.seq (.seq (.one isStatus) someGap) q).leaves
      (p.account ++ (p.separator ++ behind)) = [] := by
  obtain ⟨x, more, haccount, -, hmore⟩ := p.isAccountText_account
  have hunmarked := p.unmarked hmarker
  rw [haccount] at hunmarked ⊢
  by_cases hx : isStatus x = true
  · have hone : (Pattern.one isStatus : Pattern Typed).leaves
        (x :: more ++ (p.separator ++ behind)) = [more ++ (p.separator ++ behind)] := if_pos hx
    refine leaves_seq_of_eq_nil ((leaves_seq_of_eq_singleton hone).trans ?_)
    obtain ⟨halone, hspace⟩ := hunmarked x hx
    cases more with
    | nil => exact absurd rfl halone
    | cons y more =>
      have hgap : isGap y = false := by
        rcases mem_of_accepted hmore List.mem_cons_self with hy | rfl
        · exact isGap_of_isAccountChar hy
        · exact absurd ⟨more, rfl⟩ hspace
      rw [List.cons_append]
      exact (leaves_many_one_cons y _).trans (if_neg (by rw [hgap]; decide))
  · exact leaves_seq_of_eq_nil (leaves_seq_of_eq_nil (if_neg hx))

/-- **Where the amount of a posting starts**: all that stands in front of it is taken as it was
typed. -/
theorem prefers_postingPattern (hbehind : ∀ x ∈ behind.head?, isGap x = false) :
    ∃ c, postingPattern.Prefers ⟨0, p.start ++ behind, []⟩ c ∧ c.rest = behind := by
  have haccount := p.isAccountText_account.in_front (p.separator ++ behind)
  have haccountHead : ∀ x ∈ (p.account ++ (p.separator ++ behind)).head?, isGap x = false := by
    rw [List.head?_append_of_ne_nil _ haccount.ne_nil]
    exact fun x hx => isGap_of_isAccountChar (haccount.head x hx)
  have hindent : ∀ {rest : List Char}, (∀ x ∈ rest.head?, isGap x = false) →
      (someGap : Pattern Typed).TakesText p.indent rest := fun hrest =>
    takesText_many p.isGap_indent hrest (List.length_pos_of_ne_nil p.indent_ne_nil)
  have hunmarked : ∀ pos, (Pattern.seq (.group Typed.account accountPattern)
      (.either (.seq (.one (· == '\t')) gap) (.seq (.many (· == ' ') 2) gap))).Prefers
        ⟨pos, p.account ++ (p.separator ++ behind), []⟩
        ⟨pos + p.account.length + p.separator.length, behind,
          [⟨Typed.account, pos, pos + p.account.length⟩]⟩ := fun pos =>
    prefers_seq (prefers_group Typed.account
      (prefers_accountPattern haccount p.stops_separator pos [])) (p.takesText_separator hbehind _ _)
  have hstart : p.start ++ behind =
      p.indent ++ (p.marker ++ (p.account ++ (p.separator ++ behind))) := by
    simp only [start, List.append_assoc]
  rw [hstart]
  rcases p.marker_eq with hmarker | ⟨mark, blanks, hmark, hne, hblanks, hmarker⟩
  · have hway := prefers_seq (hindent haccountHead 0 [])
      (prefers_opt_none (p.leaves_marker_eq_nil hmarker _) (hunmarked _))
    rw [hmarker]
    exact ⟨_, hway, rfl⟩
  · have hmarkerHead : ∀ {rest : List Char}, ∀ x ∈ (mark :: rest).head?, isGap x = false := by
      rintro rest _ ⟨⟩
      exact isGap_of_isStatus hmark
    have hmarked : (Pattern.seq (.one isStatus) someGap : Pattern Typed).TakesText p.marker
        (p.account ++ (p.separator ++ behind)) := by
      rw [hmarker]
      exact takesText_seq (s := [mark]) (takesText_one hmark)
        (takesText_many hblanks haccountHead (List.length_pos_of_ne_nil hne))
    have hway := prefers_seq (hindent (hmarker ▸ hmarkerHead) 0 [])
      (prefers_opt (prefers_seq (hmarked _ []) (hunmarked _)))
    exact ⟨_, hway, rfl⟩

/-! ### The place behind it -/

/-- **The place behind the amount of a posting** is told by the amount and what follows it. -/
theorem postingContext_eq (behind : List Char) :
    postingContext (p.line ++ behind) =
      if finishedAmountPattern.accepts (p.amount ++ behind) then .forbidden
      else if symbolAfterAmountPattern.accepts (p.amount ++ behind) then .afterAmount
      else .forbidden := by
  obtain ⟨c, hway, hrest⟩ := p.prefers_postingPattern (p.isGap_amount_head behind)
  have hdrop : (p.start ++ (p.amount ++ behind)).drop c.pos = p.amount ++ behind :=
    (drop_of_mem_outcomes (List.mem_of_head? hway) rfl).trans hrest
  obtain ⟨lead, number, -, hnumber, hamount⟩ := p.exists_amount_eq
  have hne : p.amount ++ behind ≠ [] := by
    rw [hamount]
    exact List.append_ne_nil_of_left_ne_nil
      (List.append_ne_nil_of_right_ne_nil lead hnumber.ne_nil) behind
  rw [postingContext, line, List.append_assoc, match?_of_prefers hway]
  simp only [hdrop]

/-- What is typed on an indented line without a comment is a posting. -/
theorem classify_eq (behind : List Char)
    (hplain : ∀ x ∈ p.line ++ behind, x ≠ ';' ∧ x ≠ '#') :
    classify (p.line ++ behind) (p.line ++ behind).length =
      .ok (postingContext (p.line ++ behind)) := by
  have hcomment : commentAfterMarker? (p.line ++ behind) = none := by
    have hall : (p.line ++ behind).dropWhile (fun c => c != ';' && c != '#') = [] :=
      List.dropWhile_eq_nil_iff.mpr fun x hx => by simpa using hplain x hx
    rw [commentAfterMarker?, hall]
  have hindented : (p.line ++ behind).head?.any isGap = true := by
    obtain ⟨x, xs, hindent⟩ := List.exists_cons_of_ne_nil p.indent_ne_nil
    have hx := p.isGap_indent x (by rw [hindent]; exact List.mem_cons_self)
    rw [line, start, hindent]
    exact hx
  rw [classify, if_neg (by omega), if_neg (by omega), Int.toNat_natCast, List.take_length,
    contextBefore, hcomment]
  simp only [hindented, if_true]

/-- One space behind an amount does not finish it, whatever symbol follows. -/
theorem accepts_finishedAmountPattern_eq_false (hblank : behind.countP isBlank ≤ 1)
    (hplain : ∀ x ∈ behind, x ≠ '\t' ∧ x ≠ '@' ∧ x ≠ '=') :
    finishedAmountPattern.accepts (p.amount ++ behind) = false := by
  obtain ⟨lead, number, hlead, hnumber, hamount⟩ := p.exists_amount_eq
  refine Bool.eq_false_iff.mpr fun haccepts => ?_
  obtain ⟨rest, hrest⟩ := List.exists_mem_of_ne_nil _ (isSome_match?_iff.mp haccepts)
  rw [hamount, List.append_assoc] at hrest
  obtain ⟨left, hleft, hrest⟩ := List.mem_flatMap.mp hrest
  obtain ⟨mid, hmid, hleft⟩ := exists_suffix_of_mem_leaves_amount hlead hleft
  obtain ⟨trailing, _, -, rfl⟩ := exists_fits_of_mem_leaves hleft
  have hsuffix : left <:+ number ++ behind := (List.suffix_append trailing left).trans hmid
  have hblanks : left.countP isBlank ≤ 1 := by
    have hnone : number.countP isBlank = 0 := List.countP_eq_zero.mpr fun x hx => by
      rw [isBlank_of_isNumberChar (hnumber.isNumberChar x hx)]
      decide
    refine hsuffix.sublist.countP_le.trans ?_
    rwa [List.countP_append, hnone, Nat.zero_add]
  have hchars : ∀ x ∈ left, x ≠ '\t' ∧ x ≠ '@' ∧ x ≠ '=' := by
    intro x hx
    rcases List.mem_append.mp (hsuffix.subset hx) with hx | hx
    · have hchar := hnumber.isNumberChar x hx
      refine ⟨?_, ?_, ?_⟩ <;>
      · rintro rfl
        cases hchar
    · exact hplain x hx
  exact List.not_mem_nil (leaves_amountFinish_eq_nil hblanks hchars ▸ hrest)

/-- Two spaces behind an amount finish it. -/
theorem accepts_finishedAmountPattern (k : Nat) :
    finishedAmountPattern.accepts (p.amount ++ List.replicate (k + 2) ' ') = true := by
  have hstop : ∀ x ∈ (List.replicate (k + 2) ' ').head?, isNumberChar x = false := by
    rintro _ ⟨⟩
    rfl
  have hamount : List.replicate (k + 2) ' ' ∈
      typedAmount.leaves (p.amount ++ List.replicate (k + 2) ' ') :=
    p.mem_leaves_amount hstop (self_mem_leaves_opt _ _)
  have hwide : [] ∈ (Pattern.either (.one (· == '\t')) (.many isBlank 2) : Pattern Typed).leaves
      (List.replicate (k + 2) ' ') := by
    refine List.mem_append_right _ (mem_leaves_run_iff.mpr ⟨List.replicate (k + 2) ' ',
      (List.append_nil _).symm, ?_, accepted_class.mpr fun x hx => ?_⟩)
    · rw [List.length_replicate]
      omega
    · rw [List.eq_of_mem_replicate hx]
      decide
  exact isSome_match?_iff.mpr (List.ne_nil_of_mem (mem_leaves_seq hamount
    (mem_leaves_seq (self_mem_leaves_opt _ _) (mem_leaves_seq (self_mem_leaves_opt _ _) hwide))))

/-- A symbol can follow one space. -/
theorem accepts_symbolAfterAmountPattern {symbol : List Char}
    (hsymbol : ∀ x ∈ symbol, isTypedSymbolChar x = true) :
    symbolAfterAmountPattern.accepts (p.amount ++ ' ' :: symbol) = true := by
  have hstop : ∀ x ∈ (' ' :: symbol).head?, isNumberChar x = false := by
    rintro _ ⟨⟩
    rfl
  have htyped : [] ∈ (Pattern.many isTypedSymbolChar 0 : Pattern Typed).leaves symbol := by
    rw [← List.append_nil symbol]
    exact mem_leaves_run .longest [] hsymbol (Nat.zero_le _)
  have hend : [] ∈ (atEnd : Pattern Typed).leaves [] := List.mem_singleton_self []
  exact isSome_match?_iff.mpr (List.ne_nil_of_mem (p.mem_leaves_amount hstop
    (mem_leaves_seq (List.mem_singleton_self symbol) (mem_leaves_seq htyped hend))))

/-- No symbol is typed at the end of an amount. -/
theorem accepts_symbolAfterAmountPattern_eq_false :
    symbolAfterAmountPattern.accepts p.amount = false := by
  obtain ⟨lead, number, hlead, hnumber, hamount⟩ := p.exists_amount_eq
  refine Bool.eq_false_iff.mpr fun haccepts => ?_
  obtain ⟨rest, hrest⟩ := List.exists_mem_of_ne_nil _ (isSome_match?_iff.mp haccepts)
  rw [hamount] at hrest
  obtain ⟨mid, hmid, hrest⟩ := exists_suffix_of_mem_leaves_amount hlead hrest
  obtain ⟨behindSpace, hspace, -⟩ := List.mem_flatMap.mp hrest
  cases mid with
  | nil => cases hspace
  | cons x xs =>
    have hx := hnumber.isNumberChar x (hmid.subset List.mem_cons_self)
    refine absurd hspace (List.eq_nil_iff_forall_not_mem.mp (if_neg ?_) _)
    rw [beq_iff_eq]
    rintro rfl
    cases hx

/-- **One space offers commodities, more or none does not.**  Behind the amount of a posting commodities
are offered at one space, and there they stay while a symbol is typed; at the amount itself and behind
a wider gap nothing is offered. -/
theorem classify_behind_amount (hplain : ∀ x ∈ p.line, x ≠ ';' ∧ x ≠ '#') :
    (∀ k, classify (p.line ++ List.replicate k ' ') (p.line ++ List.replicate k ' ').length =
      .ok (if k = 1 then .afterAmount else .forbidden)) ∧
    ∀ symbol, (∀ x ∈ symbol, isTypedSymbolChar x = true ∧ x ≠ '#') →
      classify (p.line ++ ' ' :: symbol) (p.line ++ ' ' :: symbol).length = .ok .afterAmount := by
  have hsymbol : ∀ symbol, (∀ x ∈ symbol, isTypedSymbolChar x = true ∧ x ≠ '#') →
      classify (p.line ++ ' ' :: symbol) (p.line ++ ' ' :: symbol).length = .ok .afterAmount := by
    intro symbol hsymbol
    have hchars : ∀ x ∈ ' ' :: symbol, x ≠ ';' ∧ x ≠ '#' ∧ x ≠ '\t' ∧ x ≠ '@' ∧ x ≠ '=' := by
      refine List.forall_mem_cons.mpr ⟨by decide, fun x hx => ?_⟩
      obtain ⟨htyped, hhash⟩ := hsymbol x hx
      refine ⟨?_, hhash, ?_, ?_, ?_⟩ <;>
      · rintro rfl
        cases htyped
    have hblank : (' ' :: symbol).countP isBlank ≤ 1 := by
      have hnone : symbol.countP isBlank = 0 := List.countP_eq_zero.mpr fun x hx hblank => by
        have htyped := (hsymbol x hx).1
        rw [isTypedSymbolChar, hblank] at htyped
        cases htyped
      rw [List.countP_cons, hnone]
      decide
    have hline : ∀ x ∈ p.line ++ ' ' :: symbol, x ≠ ';' ∧ x ≠ '#' := fun x hx =>
      (List.mem_append.mp hx).elim (hplain x) fun hx => ⟨(hchars x hx).1, (hchars x hx).2.1⟩
    rw [p.classify_eq _ hline, p.postingContext_eq,
      p.accepts_finishedAmountPattern_eq_false hblank fun x hx => (hchars x hx).2.2,
      p.accepts_symbolAfterAmountPattern fun x hx => (hsymbol x hx).1]
    rfl
  refine ⟨fun k => ?_, hsymbol⟩
  have hspaces : ∀ x ∈ p.line ++ List.replicate k ' ', x ≠ ';' ∧ x ≠ '#' := by
    intro x hx
    rcases List.mem_append.mp hx with hx | hx
    · exact hplain x hx
    · rw [List.eq_of_mem_replicate hx]
      decide
  match k with
  | 0 =>
    rw [p.classify_eq _ hspaces, p.postingContext_eq, List.replicate_zero, List.append_nil,
      p.accepts_symbolAfterAmountPattern_eq_false]
    simp
  | 1 => exact hsymbol [] nofun
  | k + 2 =>
    rw [p.classify_eq _ hspaces, p.postingContext_eq, p.accepts_finishedAmountPattern k, if_pos rfl,
      if_neg (by omega)]

/-- A posting with a status marker and a symbol that looks like an amount and a wide gap. -/
def quotedSymbol : TypedPosting where
  indent := "  ".toList
  marker := "! ".toList
  account := "Petty Cash".toList
  separator := "\t ".toList
  sign := "-".toList
  symbol := "\"10  @ 5\" ".toList
  quantity := "+1,5".toList
  indent_ne_nil := by decide
  isGap_indent := forall_mem_of_all (by decide)
  marker_eq := .inr
    ⟨'!', [' '], by decide, by decide, List.forall_mem_singleton.mpr (by decide), rfl⟩
  takesAll_account := by decide
  unmarked := nofun
  separator_eq := ⟨[' '], List.forall_mem_singleton.mpr (by decide), by decide⟩
  sign_eq := .inr ⟨'-', by decide⟩
  symbol_eq := .inr ⟨"\"10  @ 5\"".toList, by decide⟩
  takesAll_quantity := by decide

theorem classify_behind_quotedSymbol :
    (∀ x ∈ quotedSymbol.line, x ≠ ';' ∧ x ≠ '#') ∧
    classify (quotedSymbol.line ++ List.replicate 2 ' ')
      (quotedSymbol.line ++ List.replicate 2 ' ').length = .ok .forbidden ∧
    classify (quotedSymbol.line ++ ' ' :: ['k', 'g']) (quotedSymbol.line ++ ' ' :: ['k', 'g']).length =
      .ok .afterAmount :=
  have hplain : ∀ x ∈ quotedSymbol.line, x ≠ ';' ∧ x ≠ '#' :=
    forall_mem_of_all (by decide)
  ⟨hplain, (quotedSymbol.classify_behind_amount hplain).1 2,
    (quotedSymbol.classify_behind_amount hplain).2 ['k', 'g']
      (forall_mem_of_all (by decide))⟩

end TypedPosting

end Daybook.Completion
