import Daybook.Proofs.Amount.Pieces
import Daybook.Proofs.Pattern.Pieces

/-!
# Layouts of amounts

The shape of an amount leaves room for more than an amount has: a symbol on either side of the number
and a sign in front of either.  A text of this shape has a layout, which says what stands in it where.
An amount is a layout with one symbol and one sign at most, and the places that it records are those of
the layout.

* `Layout`: the pieces of a text with the shape of an amount.
* `exists_layout`, `Layout.match?_chars`: the texts of this shape are those that have a layout.
* `Layout.IsAmount`, `Layout.amount`: whether a layout is that of an amount, and of which.
* `Layout.ofChars?_chars`, `exists_layout_of_ofChars?`: taking an amount apart gives its layout.
-/

namespace Daybook.Amount

open Text Pattern

/-! ## Parts of the pattern -/

/-- What stands behind the number of an amount: a symbol, or nothing. -/
def ending : Pattern Part :=
  .seq (.opt (.seq (.group .afterGap (.many (· == ' ') 0)) (.group .after commodityPattern))) .atEnd

/-- The number of an amount and what stands behind it. -/
def numberPart : Pattern Part :=
  .seq (.group .quantity quantityPattern) ending

/-- An amount without its sign. -/
def unsignedPart : Pattern Part :=
  .seq (.many (· == ' ') 0)
    (.seq (.opt (.seq (.group .before commodityPattern) (.group .beforeGap (.many (· == ' ') 0))))
      numberPart)

theorem amountPattern_eq :
    amountPattern = .seq (.opt (.group .sign (.one isSign))) unsignedPart :=
  rfl

/-! ## Layouts -/

/-- A symbol beside the number of an amount, and the spaces between the two. -/
structure Beside where
  symbol : List Char
  gap : List Char
  isSymbolText : IsSymbolText symbol
  isGap : ∀ x ∈ gap, x = ' '

/-- The pieces of a text with the shape of an amount: a sign with spaces behind it, a symbol, a number
that may have a sign of its own, and another symbol.  Spaces stand behind a sign only, and a sign at
the very front is not one of the number's own. -/
structure Layout where
  sign : List Char
  spaces : List Char
  before : Option Beside
  own : List Char
  number : List Char
  after : Option Beside
  isSignText : IsSignText sign
  isSpaces : ∀ x ∈ spaces, x = ' '
  isOwnSign : IsSignText own
  isNumber : IsNumber number
  spaces_eq_nil : sign = [] → spaces = []
  own_eq_nil : sign = [] → before = none → own = []

namespace Layout

/-! ## Texts with a layout -/

/-- A sign in front. -/
def signPieces : List Char → List (Piece Part)
  | [] => []
  | c :: cs => [⟨some .sign, c :: cs⟩]

/-- A symbol in front of a number. -/
def beforePieces : Option Beside → List (Piece Part)
  | none => []
  | some b => [⟨some .before, b.symbol⟩, ⟨some .beforeGap, b.gap⟩]

/-- A symbol behind a number. -/
def afterPieces : Option Beside → List (Piece Part)
  | none => []
  | some b => [⟨some .afterGap, b.gap⟩, ⟨some .after, b.symbol⟩]

/-- The pieces of a layout from the number on. -/
def numberPieces (l : Layout) : List (Piece Part) :=
  ⟨some .quantity, l.own ++ l.number⟩ :: afterPieces l.after

/-- The pieces of a layout without the sign in front. -/
def unsignedPieces (l : Layout) : List (Piece Part) :=
  ⟨none, l.spaces⟩ :: (beforePieces l.before ++ l.numberPieces)

/-- The pieces of a layout. -/
def pieces (l : Layout) : List (Piece Part) :=
  signPieces l.sign ++ l.unsignedPieces

/-- The text of a layout. -/
def chars (l : Layout) : List Char :=
  Piece.text l.pieces

theorem text_beforePieces_some (b : Beside) :
    Piece.text (beforePieces (some b)) = b.symbol ++ b.gap := by
  simp [beforePieces, Piece.text]

theorem text_afterPieces_some (b : Beside) :
    Piece.text (afterPieces (some b)) = b.gap ++ b.symbol := by
  simp [afterPieces, Piece.text]

theorem text_afterPieces_none : Piece.text (afterPieces none) = [] :=
  rfl

theorem text_signPieces (sign : List Char) : Piece.text (signPieces sign) = sign := by
  cases sign <;> simp [signPieces, Piece.text]

variable (l : Layout)

theorem takes_ending : ending.Takes (afterPieces l.after) := by
  cases l.after with
  | none => exact fun pos recorded => prefers_opt_none rfl (prefers_atEnd pos recorded)
  | some b =>
    have hstop : ∀ x ∈ (b.symbol ++ []).head?, (x == ' ') = false := by
      rw [List.append_nil]
      exact fun x hx => beq_eq_false_iff_ne.mpr
        (ne_space_of_not_blank (isBlank_of_isSymbolEnd (b.isSymbolText.head x hx)))
    have hgap : ∀ x ∈ b.gap, (x == ' ') = true := fun x hx => beq_iff_eq.mpr (b.isGap x hx)
    have hend : ∀ x ∈ ([] : List Char).head?, isSymbolChar x = false := nofun
    exact takes_opt (takes_assoc.mpr (takes_seq_group (takesText_many hgap hstop (Nat.zero_le _))
      (takes_seq_group (prefers_commodityPattern b.isSymbolText hend) takes_atEnd)))

/-- Behind the number nothing more of a number follows. -/
theorem isNumberChar_head_afterPieces :
    ∀ x ∈ (Piece.text (afterPieces l.after)).head?, isNumberChar x = false := by
  cases l.after with
  | none => nofun
  | some b =>
    rw [text_afterPieces_some]
    exact head_behind_spaces b.isGap (by decide) fun x hx =>
      isNumberChar_of_isSymbolEnd (b.isSymbolText.head x hx)

theorem takes_numberPart : numberPart.Takes l.numberPieces :=
  takes_seq_group (prefers_quantityPattern l.isOwnSign l.isNumber l.isNumberChar_head_afterPieces)
    l.takes_ending

/-- A number starts with a sign or with a character of a number. -/
theorem head_numberPieces :
    ∀ x ∈ (Piece.text l.numberPieces).head?, isSign x = true ∨ isNumberChar x = true := by
  rw [numberPieces, Piece.text_cons]
  rcases l.isOwnSign with hown | ⟨c, hc, hown⟩
  · rw [hown, List.nil_append, List.head?_append_of_ne_nil _ l.isNumber.ne_nil]
    exact fun x hx => .inr (l.isNumber.isNumberChar x (List.mem_of_mem_head? hx))
  · rw [hown]
    rintro x ⟨⟩
    exact .inl hc

/-- What comes at the number does not start with the end of a symbol, nor with a space. -/
theorem isSymbolEnd_head_numberPieces :
    ∀ x ∈ (Piece.text l.numberPieces).head?, isSymbolEnd x = false ∧ isBlank x = false := by
  intro x hx
  rcases l.head_numberPieces x hx with hsign | hnumber
  · refine ⟨Bool.eq_false_iff.mpr fun hend => ?_, isBlank_of_isSign hsign⟩
    rw [isSign_of_isSymbolEnd hend] at hsign
    cases hsign
  · refine ⟨Bool.eq_false_iff.mpr fun hend => ?_, isBlank_of_isNumberChar hnumber⟩
    rw [isNumberChar_of_isSymbolEnd hend] at hnumber
    cases hnumber

/-- What a pattern with a first character reads nothing of. -/
theorem leaves_eq_nil_of_startsWith {p : Pattern Part} {ok : Char → Bool} (h : p.StartsWith ok)
    {cs : List Char} (hcs : ∀ x ∈ cs.head?, ok x = false) : p.leaves cs = [] := by
  cases cs with
  | nil => exact h.nil
  | cons x xs => exact h.cons x xs (hcs x rfl)

theorem startsWith_commodityPattern : (commodityPattern : Pattern Part).StartsWith isSymbolEnd where
  nil := rfl
  cons x xs hx := by
    rw [isSymbolEnd, Bool.or_eq_false_iff, beq_eq_false_iff_ne] at hx
    have hquoted : (all [one (· == '"'), many (fun c => c != '"' && c != '\n') 0,
        one (· == '"')] : Pattern Part).leaves (x :: xs) = [] :=
      leaves_seq_of_eq_nil (if_neg (by simpa using hx.1))
    rw [commodityPattern, leaves, hquoted, leaves_many_one_cons, if_neg (by simp [hx.2])]
    rfl

/-- The symbol in front of a number, and the number. -/
theorem takes_symbolPart :
    (Pattern.seq (.opt (.seq (.group .before commodityPattern)
      (.group .beforeGap (.many (· == ' ') 0)))) numberPart).Takes
        (beforePieces l.before ++ l.numberPieces) := by
  cases l.before with
  | none =>
    refine takes_opt_none ?_ l.takes_numberPart
    exact leaves_eq_nil_of_startsWith (((startsWith_commodityPattern.group .before).seq _).seq _)
      fun x hx => (l.isSymbolEnd_head_numberPieces x hx).1
  | some b =>
    have hgap : ∀ x ∈ b.gap, (x == ' ') = true := fun x hx => beq_iff_eq.mpr (b.isGap x hx)
    have hspace : ∀ x ∈ (Piece.text l.numberPieces).head?, (x == ' ') = false := fun x hx =>
      beq_eq_false_iff_ne.mpr (ne_space_of_not_blank (l.isSymbolEnd_head_numberPieces x hx).2)
    have hstop : ∀ x ∈ (b.gap ++ Piece.text l.numberPieces).head?, isSymbolChar x = false :=
      head_behind_spaces b.isGap (by decide) fun x hx =>
        (Bool.or_eq_false_iff.mp (l.isSymbolEnd_head_numberPieces x hx).1).2
    exact takes_opt (takes_assoc.mpr (takes_seq_group (prefers_commodityPattern b.isSymbolText hstop)
      (takes_seq_group (takesText_many hgap hspace (Nat.zero_le _)) l.takes_numberPart)))

/-- Behind the spaces no space follows, nor a sign if there is none at the front. -/
theorem head_behind_sign :
    ∀ x ∈ (Piece.text (beforePieces l.before ++ l.numberPieces)).head?,
      isBlank x = false ∧ (l.sign = [] → isSign x = false) := by
  intro x hx
  rw [Piece.text_append] at hx
  cases hbefore : l.before with
  | some b =>
    rw [hbefore, text_beforePieces_some, List.append_assoc,
      List.head?_append_of_ne_nil _ b.isSymbolText.ne_nil] at hx
    have hend := b.isSymbolText.head x hx
    exact ⟨isBlank_of_isSymbolEnd hend, fun _ => isSign_of_isSymbolEnd hend⟩
  | none =>
    rw [hbefore] at hx
    refine ⟨(l.isSymbolEnd_head_numberPieces x hx).2, fun hsign => ?_⟩
    have hown := l.own_eq_nil hsign hbefore
    change x ∈ (Piece.text l.numberPieces).head? at hx
    rw [numberPieces, Piece.text_cons, hown, List.nil_append,
      List.head?_append_of_ne_nil _ l.isNumber.ne_nil] at hx
    exact l.isNumber.isSign_head x hx

theorem takes_unsignedPart : unsignedPart.Takes l.unsignedPieces :=
  takes_seq (takesText_many (fun x hx => beq_iff_eq.mpr (l.isSpaces x hx))
    (fun x hx => beq_eq_false_iff_ne.mpr (ne_space_of_not_blank (l.head_behind_sign x hx).1))
    (Nat.zero_le _)) l.takes_symbolPart

/-- **The pattern takes a text with a layout in its pieces.** -/
theorem takes_pieces : amountPattern.Takes l.pieces := by
  rw [amountPattern_eq, pieces]
  rcases l.isSignText with hsign | ⟨c, hc, hsign⟩
  · rw [hsign]
    refine takes_opt_none ?_ l.takes_unsignedPart
    refine leaves_eq_nil_of_startsWith (((startsWith_one isSign).group .sign).seq _) fun x hx => ?_
    rw [Piece.text_append, text_signPieces, List.nil_append, unsignedPieces, Piece.text_cons,
      l.spaces_eq_nil hsign, List.nil_append] at hx
    exact (l.head_behind_sign x hx).2 hsign
  · rw [hsign]
    exact takes_opt (takes_seq_group (takesText_one hc) l.takes_unsignedPart)

/-- **The match of a text with a layout.** -/
theorem match?_chars : amountPattern.match? l.chars = some (Piece.found l.pieces) :=
  match?_of_takes l.takes_pieces

/-! ## What the match records -/

/-- Where the pieces start that stand behind the sign and its spaces. -/
def front : Nat :=
  l.sign.length + l.spaces.length

/-- Where the number starts. -/
def numberStart : Nat :=
  l.front + (Piece.text (beforePieces l.before)).length

/-- Where the number ends. -/
def numberStop : Nat :=
  l.numberStart + (l.own ++ l.number).length

/-- The pieces up to the number. -/
def frontPieces (l : Layout) : List (Piece Part) :=
  signPieces l.sign ++ ⟨none, l.spaces⟩ :: beforePieces l.before

theorem length_frontPieces : (Piece.text l.frontPieces).length = l.numberStart := by
  rw [frontPieces, Piece.text_append, text_signPieces, Piece.text_cons, List.length_append,
    List.length_append, numberStart, front, Nat.add_assoc]

theorem pieces_eq : l.pieces = l.frontPieces ++ l.numberPieces := by
  rw [pieces, unsignedPieces, frontPieces, List.append_assoc, List.cons_append]

theorem found_sign : (Piece.found l.pieces).span? .sign =
    (if l.sign = [] then none else some ⟨.sign, 0, l.sign.length⟩) ∧
    (Piece.found l.pieces).text? .sign = if l.sign = [] then none else some l.sign := by
  have hothers : ∀ q ∈ l.unsignedPieces, q.label ≠ some .sign := by
    cases hbefore : l.before <;> cases hafter : l.after <;>
      simp [unsignedPieces, numberPieces, beforePieces, afterPieces, hbefore, hafter]
  rw [pieces]
  cases l.sign with
  | nil => exact ⟨Piece.span?_found_eq_none hothers, Piece.text?_found_eq_none hothers⟩
  | cons c cs =>
    rw [if_neg (List.cons_ne_nil c cs), if_neg (List.cons_ne_nil c cs)]
    refine ⟨(Piece.span?_found [] _ hothers).trans ?_, Piece.text?_found [] _ hothers⟩
    rw [Piece.text, List.flatMap_nil, List.length_nil, Nat.zero_add]

theorem found_quantity : (Piece.found l.pieces).span? .quantity =
    some ⟨.quantity, l.numberStart, l.numberStop⟩ ∧
    (Piece.found l.pieces).text? .quantity = some (l.own ++ l.number) := by
  have hothers : ∀ q ∈ afterPieces l.after, q.label ≠ some .quantity := by
    cases l.after <;> simp [afterPieces]
  rw [pieces_eq, numberPieces, numberStop, ← length_frontPieces]
  exact ⟨Piece.span?_found _ _ hothers, Piece.text?_found _ _ hothers⟩

theorem found_before : (Piece.found l.pieces).span? .before =
    (l.before.map fun b => ⟨.before, l.front, l.front + b.symbol.length⟩) ∧
    (Piece.found l.pieces).text? .before = l.before.map (·.symbol) ∧
    (Piece.found l.pieces).text? .beforeGap = l.before.map (·.gap) := by
  cases hbefore : l.before with
  | none =>
    have hothers : ∀ q ∈ l.pieces, q.label ≠ some .before ∧ q.label ≠ some .beforeGap := by
      cases hsign : l.sign <;> cases hafter : l.after <;>
        simp [pieces, signPieces, unsignedPieces, numberPieces, beforePieces, afterPieces, hsign,
          hbefore, hafter]
    exact ⟨Piece.span?_found_eq_none fun q hq => (hothers q hq).1,
      Piece.text?_found_eq_none fun q hq => (hothers q hq).1,
      Piece.text?_found_eq_none fun q hq => (hothers q hq).2⟩
  | some b =>
    have hothers : ∀ q ∈ l.numberPieces, q.label ≠ some .before ∧ q.label ≠ some .beforeGap := by
      cases hafter : l.after <;> simp [numberPieces, afterPieces, hafter]
    have hsymbol : ∀ q ∈ (⟨some .beforeGap, b.gap⟩ :: l.numberPieces : List (Piece Part)),
        q.label ≠ some .before :=
      List.forall_mem_cons.mpr ⟨by simp, fun q hq => (hothers q hq).1⟩
    have hfront : (Piece.text (signPieces l.sign ++ [⟨none, l.spaces⟩])).length = l.front := by
      rw [Piece.text_append, text_signPieces, List.length_append]
      simp [Piece.text, front]
    have hpieces : l.pieces = (signPieces l.sign ++ [⟨none, l.spaces⟩]) ++
        ⟨some .before, b.symbol⟩ :: ⟨some .beforeGap, b.gap⟩ :: l.numberPieces := by
      simp [pieces, unsignedPieces, beforePieces, hbefore]
    have hgap : l.pieces = (signPieces l.sign ++ [⟨none, l.spaces⟩, ⟨some .before, b.symbol⟩]) ++
        ⟨some .beforeGap, b.gap⟩ :: l.numberPieces := by
      simp [pieces, unsignedPieces, beforePieces, hbefore]
    refine ⟨?_, ?_, ?_⟩
    · rw [hpieces, Piece.span?_found _ _ hsymbol, hfront, Option.map_some]
    · rw [hpieces, Piece.text?_found _ _ hsymbol, Option.map_some]
    · rw [hgap, Piece.text?_found _ _ fun q hq => (hothers q hq).2, Option.map_some]

theorem found_after : (Piece.found l.pieces).span? .after =
    (l.after.map fun b => ⟨.after, l.numberStop + b.gap.length,
      l.numberStop + b.gap.length + b.symbol.length⟩) ∧
    (Piece.found l.pieces).text? .after = l.after.map (·.symbol) ∧
    (Piece.found l.pieces).text? .afterGap = l.after.map (·.gap) := by
  cases hafter : l.after with
  | none =>
    have hothers : ∀ q ∈ l.pieces, q.label ≠ some .after ∧ q.label ≠ some .afterGap := by
      cases hsign : l.sign <;> cases hbefore : l.before <;>
        simp [pieces, signPieces, unsignedPieces, numberPieces, beforePieces, afterPieces, hsign,
          hbefore, hafter]
    exact ⟨Piece.span?_found_eq_none fun q hq => (hothers q hq).1,
      Piece.text?_found_eq_none fun q hq => (hothers q hq).1,
      Piece.text?_found_eq_none fun q hq => (hothers q hq).2⟩
  | some b =>
    have hgap : l.pieces = (l.frontPieces ++ [⟨some .quantity, l.own ++ l.number⟩]) ++
        ⟨some .afterGap, b.gap⟩ :: [⟨some .after, b.symbol⟩] := by
      simp [pieces_eq, numberPieces, afterPieces, hafter]
    have hsymbol : l.pieces = (l.frontPieces ++ [⟨some .quantity, l.own ++ l.number⟩,
        ⟨some .afterGap, b.gap⟩]) ++ ⟨some .after, b.symbol⟩ :: [] := by
      simp [pieces_eq, numberPieces, afterPieces, hafter]
    have hstart : (Piece.text (l.frontPieces ++ [⟨some .quantity, l.own ++ l.number⟩,
        ⟨some .afterGap, b.gap⟩])).length = l.numberStop + b.gap.length := by
      rw [Piece.text_append, List.length_append, length_frontPieces, numberStop]
      simp [Piece.text, Nat.add_assoc]
    refine ⟨?_, ?_, ?_⟩
    · rw [hsymbol, Piece.span?_found _ _ (by simp), hstart, Option.map_some]
    · rw [hsymbol, Piece.text?_found _ _ (by simp), Option.map_some]
    · rw [hgap, Piece.text?_found _ _ (by simp), Option.map_some]

/-! ## Amounts -/

/-- Whether a layout is that of an amount: it has one symbol at most, and one sign. -/
def IsAmount : Prop :=
  ¬(l.before.isSome ∧ l.after.isSome) ∧ (l.sign = [] ∨ l.own = [])

/-- Where the symbol stands. -/
def symbolSpan : Option (Nat × Nat) :=
  match l.before, l.after with
  | some b, _ => some (l.front, l.front + b.symbol.length)
  | none, some b =>
    some (l.numberStop + b.gap.length, l.numberStop + b.gap.length + b.symbol.length)
  | none, none => none

/-- The amount with a layout, in a text with `lead` blanks cut off in front. -/
def amount (lead : Nat) : Amount where
  quantity := String.ofList (keptSign l.sign ++ (l.own ++ l.number))
  commodity := (l.before <|> l.after).map fun b => String.ofList (unquoteChars b.symbol)
  symbolBefore := l.before.isSome
  spaced := (l.before <|> l.after).any (!·.gap.isEmpty)
  start := (if l.before.isSome then l.numberStart else 0) + lead
  stop := l.numberStop + lead
  commoditySpan := l.symbolSpan.map fun s => (s.1 + lead, s.2 + lead)

theorem any_isSign_head : (l.own ++ l.number).head?.any isSign = !l.own.isEmpty := by
  rcases l.isOwnSign with hown | ⟨c, hc, hown⟩
  · rw [hown, List.nil_append, l.isNumber.any_isSign_head]
    rfl
  · rw [hown]
    exact hc

/-- A second symbol or a second sign makes an amount malformed. -/
theorem ofMatch?_of_not_isAmount (h : ¬l.IsAmount) (lead : Nat) :
    ofMatch? (Piece.found l.pieces) lead = none := by
  have hdigits : (Piece.found l.pieces).textD .quantity = l.own ++ l.number := by
    rw [Match.textD, l.found_quantity.2, Option.getD_some]
  rw [ofMatch?]
  dsimp only
  rw [l.found_before.1, l.found_after.1, l.found_sign.2, hdigits, any_isSign_head]
  by_cases hsymbols : (l.before.isSome ∧ l.after.isSome)
  · rw [if_pos (by simpa using hsymbols)]
  · rw [if_neg (by simpa using hsymbols), if_pos]
    have hsigns : ¬l.sign = [] ∧ ¬l.own = [] := not_or.mp fun hone => h ⟨hsymbols, hone⟩
    simp [hsigns.1, hsigns.2]

/-- A number without anything in front of it. -/
theorem numberStart_eq_zero (hsign : l.sign = []) (hbefore : l.before = none) :
    l.numberStart = 0 := by
  rw [numberStart, front, hsign, l.spaces_eq_nil hsign, hbefore]
  rfl

/-- **What is made of the match of a layout.** -/
theorem ofMatch?_of_isAmount (h : l.IsAmount) (lead : Nat) :
    ofMatch? (Piece.found l.pieces) lead = some (l.amount lead) := by
  obtain ⟨hsymbols, hsigns⟩ := h
  obtain ⟨hsignSpan, hsignText⟩ := l.found_sign
  obtain ⟨hnumberSpan, hnumberText⟩ := l.found_quantity
  obtain ⟨hbeforeSpan, hbeforeText, hbeforeGap⟩ := l.found_before
  obtain ⟨hafterSpan, hafterText, hafterGap⟩ := l.found_after
  have hdigits : (Piece.found l.pieces).textD .quantity = l.own ++ l.number := by
    rw [Match.textD, hnumberText, Option.getD_some]
  rw [Match.text?, hbeforeSpan, Option.map_map] at hbeforeText
  rw [Match.text?, hafterSpan, Option.map_map] at hafterText
  have hquantity : (if (if l.sign = [] then none else some l.sign) = some ['-'] then
      '-' :: (l.own ++ l.number) else l.own ++ l.number) =
        keptSign l.sign ++ (l.own ++ l.number) := by
    by_cases hnone : l.sign = []
    · rw [if_pos hnone, hnone]
      rfl
    · simp only [if_neg hnone, Option.some.injEq, quantityText_eq]
  rw [ofMatch?]
  dsimp only
  rw [hbeforeSpan, hafterSpan, hsignText, hsignSpan, hdigits, any_isSign_head,
    if_neg (by simpa using hsymbols), if_neg (by simpa [or_iff_not_imp_left] using hsigns), hquantity, hnumberSpan, amount]
  congr 2
  case e_commodity =>
    cases hbefore : l.before with
    | some b =>
      rw [hbefore] at hbeforeText
      exact congrArg (Option.map fun cs => String.ofList (unquoteChars cs)) hbeforeText
    | none =>
      cases hafter : l.after with
      | some b =>
        rw [hafter] at hafterText
        exact congrArg (Option.map fun cs => String.ofList (unquoteChars cs)) hafterText
      | none => rfl
  case e_symbolBefore => exact Option.isSome_map
  case e_spaced =>
    rw [Match.textD, Match.textD, hbeforeGap, hafterGap]
    cases l.before with
    | some b => rfl
    | none => cases l.after <;> rfl
  case e_start =>
    cases hsign : l.sign with
    | cons c cs => cases l.before <;> rfl
    | nil =>
      cases hbefore : l.before with
      | some b => rfl
      | none => exact congrArg (· + lead) (l.numberStart_eq_zero hsign hbefore)
  case e_commoditySpan =>
    rw [symbolSpan]
    cases l.before with
    | some b => rfl
    | none => cases l.after <;> rfl

/-- The text of a layout, piece by piece. -/
theorem chars_eq : l.chars = l.sign ++ (l.spaces ++ (Piece.text (beforePieces l.before) ++
    (l.own ++ l.number ++ Piece.text (afterPieces l.after)))) := by
  rw [chars, pieces, unsignedPieces, numberPieces, Piece.text_append, text_signPieces,
    Piece.text_cons, Piece.text_append, Piece.text_cons]

/-- Neither end of a layout is blank. -/
theorem noBlankEnds_chars : NoBlankEnds l.chars where
  head := by
    rw [chars_eq]
    rcases l.isSignText with hsign | ⟨c, hc, hsign⟩
    · rw [hsign, l.spaces_eq_nil hsign, List.nil_append, List.nil_append]
      have hhead := l.head_behind_sign
      rw [Piece.text_append, numberPieces, Piece.text_cons] at hhead
      exact fun x hx => (hhead x hx).1
    · rw [hsign]
      rintro x ⟨⟩
      exact isBlank_of_isSign hc
  last := by
    rw [chars_eq, ← List.append_assoc, ← List.append_assoc, ← List.append_assoc]
    cases l.after with
    | none =>
      rw [text_afterPieces_none, List.append_nil, ← List.append_assoc,
        List.getLast?_append_of_ne_nil _ l.isNumber.ne_nil]
      exact l.isNumber.noBlankEnds.last
    | some b =>
      rw [text_afterPieces_some, ← List.append_assoc,
        List.getLast?_append_of_ne_nil _ b.isSymbolText.ne_nil]
      exact b.isSymbolText.noBlankEnds.last

end Layout

/-! ## Texts with the shape of an amount -/

section Shape

variable {cs : List Char} {a : Amount}

theorem toEnd_amountPattern : amountPattern.ToEnd :=
  .seq (.seq (.seq (.seq (.seq toEnd_atEnd))))

/-- All of a text is taken that does not end with a blank. -/
theorem eq_nil_of_mem_leaves_amountPattern (hends : NoBlankEnds cs) {rest : List Char}
    (h : rest ∈ amountPattern.leaves cs) : rest = [] := by
  obtain ⟨taken, -, -, hsplit⟩ := exists_fits_of_mem_leaves h
  rcases toEnd_amountPattern h with hnil | rfl
  · exact hnil
  · have hblank := hends.last '\n' (by rw [hsplit, List.getLast?_append]; rfl)
    cases hblank

/-- A symbol on one side of a number, if there is one. -/
theorem exists_before {fs : List (Part × List Char)}
    (h : (Pattern.opt (.seq (.group .before commodityPattern)
      (.group .beforeGap (.many (· == ' ') 0))) : Pattern Part).Fits cs fs) :
    ∃ b, cs = Piece.text (Layout.beforePieces b) := by
  rcases fits_opt.mp h with ⟨symbol, _, gap, _, ⟨_, hsymbol, -⟩, ⟨_, hgap, -⟩, rfl, -⟩ | ⟨rfl, -⟩
  · refine ⟨some ⟨symbol, gap, (fits_commodityPattern.mp hsymbol).1, fun x hx => ?_⟩, ?_⟩
    · exact beq_iff_eq.mp ((fits_many.mp hgap).1 x hx)
    · rw [Layout.text_beforePieces_some]
  · exact ⟨none, rfl⟩

theorem exists_after {fs : List (Part × List Char)}
    (h : (Pattern.opt (.seq (.group .afterGap (.many (· == ' ') 0))
      (.group .after commodityPattern)) : Pattern Part).Fits cs fs) :
    ∃ b, cs = Piece.text (Layout.afterPieces b) := by
  rcases fits_opt.mp h with ⟨gap, _, symbol, _, ⟨_, hgap, -⟩, ⟨_, hsymbol, -⟩, rfl, -⟩ | ⟨rfl, -⟩
  · refine ⟨some ⟨symbol, gap, (fits_commodityPattern.mp hsymbol).1, fun x hx => ?_⟩, ?_⟩
    · exact beq_iff_eq.mp ((fits_many.mp hgap).1 x hx)
    · rw [Layout.text_afterPieces_some]
  · exact ⟨none, rfl⟩

/-- **A text with the shape of an amount has a layout.** -/
theorem exists_layout (hends : NoBlankEnds cs) {m : Match Part}
    (h : amountPattern.match? cs = some m) : ∃ l : Layout, l.chars = cs := by
  obtain ⟨rest, hrest⟩ : ∃ rest, rest ∈ amountPattern.leaves cs :=
    List.exists_mem_of_ne_nil _ (isSome_match?_iff.mp (by rw [h]; rfl))
  obtain ⟨taken, fs, hfits, hsplit⟩ := exists_fits_of_mem_leaves hrest
  rw [eq_nil_of_mem_leaves_amountPattern hends hrest, List.append_nil] at hsplit
  obtain rfl := hsplit
  obtain ⟨sign, _, _, _, hsign, hfits, rfl, -⟩ := hfits
  obtain ⟨spaces, _, _, _, hspaces, hfits, rfl, -⟩ := hfits
  obtain ⟨_, _, _, _, hbefore, hfits, rfl, -⟩ := hfits
  obtain ⟨_, _, _, _, ⟨_, hquantity, -⟩, hfits, rfl, -⟩ := hfits
  obtain ⟨_, _, _, _, hafter, ⟨rfl, -⟩, rfl, -⟩ := hfits
  obtain ⟨before, rfl⟩ := exists_before hbefore
  obtain ⟨after, rfl⟩ := exists_after hafter
  obtain ⟨own, number, rfl, hown, hnumber⟩ := fits_quantityPattern hquantity
  have hspaces : ∀ x ∈ spaces, x = ' ' := fun x hx => beq_iff_eq.mp ((fits_many.mp hspaces).1 x hx)
  rcases fits_opt.mp hsign with ⟨_, ⟨c, hc, rfl, -⟩, -⟩ | ⟨rfl, -⟩
  · refine ⟨⟨[c], spaces, before, own, number, after, .inr ⟨c, hc, rfl⟩, hspaces, hown, hnumber,
      nofun, nofun⟩, ?_⟩
    rw [Layout.chars_eq, List.append_nil]
  · -- nothing stands in front of the spaces, so there are none
    obtain rfl : spaces = [] := by
      cases spaces with
      | nil => rfl
      | cons x xs =>
        have hblank := hends.head x rfl
        rw [hspaces x List.mem_cons_self] at hblank
        cases hblank
    cases before with
    | some b =>
      refine ⟨⟨[], [], some b, own, number, after, .inl rfl, nofun, hown, hnumber, fun _ => rfl,
        nofun⟩, ?_⟩
      rw [Layout.chars_eq, List.append_nil]
    | none =>
      -- a sign at the very front is not one of the number's own
      refine ⟨⟨own, [], none, [], number, after, hown, nofun, .inl rfl, hnumber, fun _ => rfl,
        fun _ _ => rfl⟩, ?_⟩
      rw [Layout.chars_eq]
      simp [Layout.beforePieces, Piece.text]

/-- **What is made of a text with a layout.** -/
theorem ofChars?_eq_of_layout {l : Layout} (hl : l.chars = trimChars cs) :
    ofChars? cs = ofMatch? (Piece.found l.pieces) (leadingBlanks cs) := by
  rw [ofChars?, ← hl, l.match?_chars]

/-- **The layout of an amount.** -/
theorem exists_layout_of_ofChars? (h : ofChars? cs = some a) :
    ∃ l : Layout, l.chars = trimChars cs ∧ l.IsAmount ∧ a = l.amount (leadingBlanks cs) := by
  obtain ⟨m, hm⟩ : ∃ m, amountPattern.match? (trimChars cs) = some m := by
    unfold ofChars? at h
    split at h
    · cases h
    · exact ⟨_, by assumption⟩
  obtain ⟨l, hl⟩ := exists_layout (noBlankEnds_trimChars cs) hm
  rw [ofChars?_eq_of_layout hl] at h
  have hamount : l.IsAmount := by
    by_contra hnot
    rw [l.ofMatch?_of_not_isAmount hnot] at h
    cases h
  rw [l.ofMatch?_of_isAmount hamount] at h
  exact ⟨l, hl, hamount, (Option.some.inj h).symm⟩

/-- The amount of a layout. -/
theorem Layout.ofChars?_chars (l : Layout) (h : l.IsAmount) :
    ofChars? l.chars = some (l.amount 0) := by
  rw [ofChars?_eq_of_layout l.noBlankEnds_chars.trimChars_eq.symm,
    l.noBlankEnds_chars.leadingBlanks_eq, l.ofMatch?_of_isAmount h]

end Shape

end Daybook.Amount
