import Daybook.Proofs.Amount.Layout
import Daybook.Proofs.Text.Place

/-!
# Taking amounts apart

An amount that is put together from its pieces is taken apart into these again.  Conversely the places
that an amount records are those of its pieces: between the text and the amount nothing is lost, and
nothing comes in.

* `ofChars?_number`, `ofChars?_symbol_first`, `ofChars?_symbol_last`: an amount without a symbol, with
  one in front and with one behind, taken apart.
* `exists_pieces_of_ofChars?`: the pieces of any amount.
* `ofText?_keeps_all`: beside the symbol of an amount its text holds the quantity, and nothing else.
-/

namespace Daybook.Amount

open Text Pattern

/-! ## Amounts that are put together -/

section Composed

variable {sign symbol gap number : List Char}

/-- **A number taken apart.** -/
theorem ofChars?_number (hsign : IsSignText sign) (hnumber : IsNumber number) :
    ofChars? (sign ++ number) = some
      { quantity := String.ofList (keptSign sign ++ number), commodity := none,
        symbolBefore := false, spaced := false, start := 0,
        stop := sign.length + number.length, commoditySpan := none } := by
  have happly := Layout.ofChars?_chars
    ⟨sign, [], none, [], number, none, hsign, nofun, .inl rfl, hnumber, fun _ => rfl, fun _ _ => rfl⟩
    ⟨nofun, .inr rfl⟩
  rw [Layout.chars_eq] at happly
  simpa [Layout.amount, Layout.symbolSpan, Layout.numberStop, Layout.numberStart, Layout.front,
    Layout.beforePieces, Layout.afterPieces, Piece.text] using happly

/-- **A number with a symbol behind it taken apart.** -/
theorem ofChars?_symbol_last (hsign : IsSignText sign) (hnumber : IsNumber number)
    (hgap : ∀ x ∈ gap, x = ' ') (hsymbol : IsSymbolText symbol) :
    ofChars? (sign ++ (number ++ (gap ++ symbol))) = some
      { quantity := String.ofList (keptSign sign ++ number),
        commodity := some (String.ofList (unquoteChars symbol)),
        symbolBefore := false, spaced := !gap.isEmpty, start := 0,
        stop := sign.length + number.length,
        commoditySpan := some (sign.length + number.length + gap.length,
          sign.length + number.length + gap.length + symbol.length) } := by
  have happly := Layout.ofChars?_chars
    ⟨sign, [], none, [], number, some ⟨symbol, gap, hsymbol, hgap⟩, hsign, nofun, .inl rfl, hnumber,
      fun _ => rfl, fun _ _ => rfl⟩ ⟨nofun, .inr rfl⟩
  rw [Layout.chars_eq] at happly
  simpa [Layout.amount, Layout.symbolSpan, Layout.numberStop, Layout.numberStart, Layout.front,
    Layout.beforePieces, Layout.afterPieces, Piece.text] using happly

/-- **A number with a symbol in front taken apart.**  The sign stands in front of the symbol, in front
of the number, or nowhere. -/
theorem ofChars?_symbol_first {inner : List Char} (hsign : IsSignText sign)
    (hinner : IsSignText inner) (hone : sign = [] ∨ inner = []) (hnumber : IsNumber number)
    (hgap : ∀ x ∈ gap, x = ' ') (hsymbol : IsSymbolText symbol) :
    ofChars? (sign ++ (symbol ++ (gap ++ (inner ++ number)))) = some
      { quantity := String.ofList (keptSign sign ++ (inner ++ number)),
        commodity := some (String.ofList (unquoteChars symbol)),
        symbolBefore := true, spaced := !gap.isEmpty,
        start := sign.length + symbol.length + gap.length,
        stop := sign.length + symbol.length + gap.length + (inner ++ number).length,
        commoditySpan := some (sign.length, sign.length + symbol.length) } := by
  have happly := Layout.ofChars?_chars
    ⟨sign, [], some ⟨symbol, gap, hsymbol, hgap⟩, inner, number, none, hsign, nofun, hinner, hnumber,
      fun _ => rfl, nofun⟩ ⟨nofun, hone⟩
  rw [Layout.chars_eq] at happly
  simpa [Layout.amount, Layout.symbolSpan, Layout.numberStop, Layout.numberStart, Layout.front,
    Layout.beforePieces, Layout.afterPieces, Piece.text, Nat.add_assoc] using happly

end Composed

/-! ## The pieces of any amount -/

namespace Layout

variable (l : Layout)

theorem chars_eq_front : l.chars =
    Piece.text l.frontPieces ++ (l.own ++ (l.number ++ Piece.text (afterPieces l.after))) := by
  rw [chars, pieces_eq, Piece.text_append, numberPieces, Piece.text_cons, List.append_assoc]

/-- Where the number stands, behind its own sign if it has one. -/
theorem standsAt_number : StandsAt l.chars (l.numberStart + l.own.length) l.number :=
  ⟨Piece.text l.frontPieces ++ l.own, Piece.text (afterPieces l.after),
    by rw [chars_eq_front, List.append_assoc],
    by rw [List.length_append, length_frontPieces]⟩

/-- Where the symbol stands: `left` and `right` are what stands on either side of it. -/
structure SymbolAt (b : Beside) (start stop : Nat) (left right : List Char) : Prop where
  chars_eq : l.chars = left ++ (b.symbol ++ right)
  length_left : left.length = start
  stop_eq : stop = start + b.symbol.length
  symbol : (l.before <|> l.after) = some b
  side : if l.before.isSome then stop ≤ l.numberStart else l.numberStop ≤ start
  others : (left ++ right).filter (· != ' ') = l.sign ++ (l.own ++ l.number)

theorem filter_spaces {gap : List Char} (hgap : ∀ x ∈ gap, x = ' ') :
    gap.filter (· != ' ') = [] :=
  List.filter_eq_nil_iff.mpr fun x hx => by simp [hgap x hx]

/-- A sign and a number have no spaces. -/
theorem filter_number {sign number : List Char} (hsign : IsSignText sign) (hnumber : IsNumber number) :
    (sign ++ number).filter (· != ' ') = sign ++ number := by
  refine List.filter_eq_self.mpr fun x hx => ?_
  rw [bne_iff_ne]
  rcases List.mem_append.mp hx with hx | hx
  · rcases hsign with rfl | ⟨c, hc, rfl⟩
    · cases hx
    · exact ne_space_of_not_blank (isBlank_of_isSign (List.mem_singleton.mp hx ▸ hc))
  · exact ne_space_of_not_blank (isBlank_of_isNumberChar (hnumber.isNumberChar x hx))

theorem filter_sign {sign : List Char} (hsign : IsSignText sign) :
    sign.filter (· != ' ') = sign := by
  rcases hsign with rfl | ⟨c, hc, rfl⟩
  · rfl
  · rw [List.filter_cons_of_pos (by simpa using ne_space_of_not_blank (isBlank_of_isSign hc))]
    rfl

/-- **The symbol of an amount** and what stands beside it. -/
theorem exists_symbolAt (h : l.IsAmount) {start stop : Nat} (hspan : l.symbolSpan = some (start, stop)) :
    ∃ b left right, l.SymbolAt b start stop left right := by
  rw [symbolSpan] at hspan
  have hnumber := filter_number l.isOwnSign l.isNumber
  cases hbefore : l.before with
  | some b =>
    have hafter : l.after = none := by
      cases hafter : l.after with
      | none => rfl
      | some _ => exact absurd ⟨by rw [hbefore]; rfl, by rw [hafter]; rfl⟩ h.1
    rw [hbefore] at hspan
    cases hspan
    refine ⟨b, l.sign ++ l.spaces, b.gap ++ (l.own ++ l.number), ?_, ?_, rfl, ?_, ?_, ?_⟩
    · rw [l.chars_eq, hbefore, hafter, text_beforePieces_some, text_afterPieces_none]
      simp
    · rw [List.length_append, front]
    · rw [hbefore]
      rfl
    · rw [numberStart, hbefore, text_beforePieces_some, List.length_append]
      refine (if_pos rfl : (if (some b).isSome then _ else _) = _).mpr ?_
      omega
    · simp only [List.filter_append] at hnumber ⊢
      rw [filter_sign l.isSignText, filter_spaces l.isSpaces, filter_spaces b.isGap, hnumber,
        List.append_nil, List.nil_append]
  | none =>
    rw [hbefore] at hspan
    have hstart : l.numberStart = l.front := by
      rw [numberStart, hbefore]
      rfl
    cases hafter : l.after with
    | none =>
      rw [hafter] at hspan
      cases hspan
    | some b =>
      rw [hafter] at hspan
      cases hspan
      refine ⟨b, l.sign ++ (l.spaces ++ (l.own ++ l.number ++ b.gap)), [], ?_, ?_, rfl, ?_, ?_, ?_⟩
      · rw [l.chars_eq, hbefore, hafter, text_afterPieces_some]
        simp [beforePieces, Piece.text]
      · rw [numberStop, hstart, front]
        simp only [List.length_append, Nat.add_assoc]
      · rw [hbefore, hafter]
        rfl
      · rw [hbefore]
        exact Nat.le_add_right _ _
      · simp only [List.filter_append, List.append_nil] at hnumber ⊢
        rw [filter_sign l.isSignText, filter_spaces l.isSpaces, filter_spaces b.isGap, hnumber,
          List.append_nil, List.nil_append]

variable {l} in
theorem SymbolAt.standsAt {b : Beside} {start stop : Nat} {left right : List Char}
    (h : l.SymbolAt b start stop left right) : StandsAt l.chars start b.symbol :=
  ⟨left, right, h.chars_eq, h.length_left⟩

variable {l} in
/-- Cutting out the symbol. -/
theorem SymbolAt.cut {b : Beside} {start stop : Nat} {left right : List Char}
    (h : l.SymbolAt b start stop left right) :
    l.chars.take start ++ l.chars.drop stop = left ++ right := by
  have hstop : stop = (left ++ b.symbol).length := by
    rw [h.stop_eq, List.length_append, h.length_left]
  rw [h.chars_eq, ← h.length_left, List.take_left, hstop, ← List.append_assoc, List.drop_left]

/-- The symbol in a text with a layout. -/
theorem exists_symbol_of_span (h : l.IsAmount) {cs : List Char}
    (hplace : StandsAt cs (leadingBlanks cs) l.chars) {start stop : Nat}
    (hspan : (l.amount (leadingBlanks cs)).commoditySpan = some (start, stop)) :
    ∃ b left right, l.SymbolAt b (start - leadingBlanks cs) (stop - leadingBlanks cs) left right ∧
      leadingBlanks cs ≤ start ∧ stop = start + b.symbol.length ∧ stop ≤ cs.length ∧
      Match.slice cs start stop = b.symbol := by
  obtain ⟨⟨first, last⟩, hsymbol, heq⟩ := Option.map_eq_some_iff.mp hspan
  cases heq
  obtain ⟨b, left, right, hat⟩ := l.exists_symbolAt h hsymbol
  have hsymbolAt := hplace.trans hat.standsAt
  have hstop := hat.stop_eq
  have hsum : last + leadingBlanks cs = leadingBlanks cs + first + b.symbol.length := by omega
  refine ⟨b, left, right, ?_, Nat.le_add_left _ _, by omega, ?_, ?_⟩
  · rw [Nat.add_sub_cancel, Nat.add_sub_cancel]
    exact hat
  · rw [hsum]
    exact hsymbolAt.add_length_le
  · rw [hsum, Nat.add_comm first]
    exact hsymbolAt.slice_eq

theorem sides_of_symbolSpan_eq_none (h : l.symbolSpan = none) : l.before = none ∧ l.after = none := by
  rw [symbolSpan] at h
  cases hbefore : l.before with
  | some b =>
    rw [hbefore] at h
    cases h
  | none =>
    cases hafter : l.after with
    | some b =>
      rw [hbefore, hafter] at h
      cases h
    | none => exact ⟨rfl, rfl⟩

/-- An amount that records no place of a symbol has none. -/
theorem no_symbol_of_span_eq_none {lead : Nat} (h : (l.amount lead).commoditySpan = none) :
    (l.amount lead).commodity = none ∧ (l.amount lead).symbolBefore = false ∧
      l.chars.filter (· != ' ') = l.sign ++ (l.own ++ l.number) := by
  obtain ⟨hbefore, hafter⟩ := l.sides_of_symbolSpan_eq_none (Option.map_eq_none_iff.mp h)
  have hnumber := filter_number l.isOwnSign l.isNumber
  refine ⟨?_, ?_, ?_⟩
  · rw [amount, hbefore, hafter]
    rfl
  · rw [amount, hbefore]
    rfl
  · rw [l.chars_eq, hbefore, hafter]
    simp only [beforePieces, afterPieces, Piece.text, List.flatMap_nil, List.append_nil,
      List.nil_append, List.filter_append] at hnumber ⊢
    rw [filter_sign l.isSignText, filter_spaces l.isSpaces, hnumber, List.nil_append]

/-- The quantity stands in the text and is not empty. -/
theorem start_lt_stop {cs : List Char} (hplace : StandsAt cs (leadingBlanks cs) l.chars) :
    (l.amount (leadingBlanks cs)).start < (l.amount (leadingBlanks cs)).stop ∧
      (l.amount (leadingBlanks cs)).stop ≤ cs.length := by
  have hwithin := (hplace.trans l.standsAt_number).add_length_le
  have hpos := List.length_pos_of_ne_nil l.isNumber.ne_nil
  rw [amount, numberStop, List.length_append]
  dsimp only
  refine ⟨?_, by omega⟩
  split <;> omega

/-- The quantity is the sign and the number, without a plus that stands apart from the number. -/
theorem quantity_amount (h : l.IsAmount) (lead : Nat) :
    (l.amount lead).quantity = String.ofList (l.sign ++ l.own ++ l.number) ∨
      l.sign ++ l.own = ['+'] ∧ (l.amount lead).quantity = String.ofList l.number := by
  rw [amount]
  dsimp only
  rcases l.isSignText with hsign | ⟨c, hc, hsign⟩
  · rw [hsign]
    exact .inl rfl
  · have hown : l.own = [] := h.2.resolve_left (by rw [hsign]; exact List.cons_ne_nil c [])
    rw [hsign, hown]
    rcases isSign_iff.mp hc with rfl | rfl
    · exact .inl rfl
    · exact .inr ⟨rfl, rfl⟩

end Layout

section Pieces

variable {cs : List Char} {a : Amount}

/-- **The pieces of any amount**: a number with a sign of its own or without one, which stands at or
behind the start of the quantity, and perhaps a symbol, which stands where the amount says. -/
theorem exists_pieces_of_ofChars? (h : ofChars? cs = some a) :
    ∃ sign number, a.quantity = String.ofList (sign ++ number) ∧ IsSignText sign ∧
      IsNumber number ∧ (∃ pos, a.start ≤ pos ∧ StandsAt cs pos number) ∧
      ((a.commodity = none ∧ a.commoditySpan = none) ∨
        ∃ start stop, a.commoditySpan = some (start, stop) ∧
          a.commodity = some (String.ofList (unquoteChars (Match.slice cs start stop))) ∧
          IsSymbolText (Match.slice cs start stop)) := by
  obtain ⟨l, hl, hamount, rfl⟩ := exists_layout_of_ofChars? h
  have hplace : StandsAt cs (leadingBlanks cs) l.chars := hl ▸ standsAt_trimChars cs
  refine ⟨keptSign l.sign ++ l.own, l.number, ?_, ?_, l.isNumber,
    ⟨_, ?_, hplace.trans l.standsAt_number⟩, ?_⟩
  · rw [Layout.amount, List.append_assoc]
  · rcases hamount.2 with hsign | hown
    · rw [hsign]
      exact l.isOwnSign
    · rw [hown, List.append_nil]
      exact isSignText_keptSign l.sign
  · rw [Layout.amount]
    dsimp only
    split <;> omega
  · cases hspan : (l.amount (leadingBlanks cs)).commoditySpan with
    | none => exact .inl ⟨(l.no_symbol_of_span_eq_none hspan).1, rfl⟩
    | some span =>
      obtain ⟨b, left, right, hat, -, -, -, hslice⟩ := l.exists_symbol_of_span hamount hplace hspan
      refine .inr ⟨span.1, span.2, rfl, ?_, ?_⟩
      · rw [hslice, Layout.amount, hat.symbol, Option.map_some]
      · rw [hslice]
        exact b.isSymbolText

/-- Taking off quotes adds nothing. -/
theorem unquoteChars_sublist (cs : List Char) : (unquoteChars cs).Sublist cs := by
  rw [unquoteChars]
  split
  · exact ((List.dropLast_sublist _).trans (List.tail_sublist _)).trans (trimChars_sublist cs)
  · exact trimChars_sublist cs

/-- The symbol of an amount comes from its text. -/
theorem mem_of_commodity (h : ofChars? cs = some a) {symbol : String}
    (hsymbol : a.commodity = some symbol) {x : Char} (hx : x ∈ symbol.toList) : x ∈ cs := by
  obtain ⟨-, -, -, -, -, -, ⟨hnone, -⟩ | ⟨start, stop, -, hsome, -⟩⟩ :=
    exists_pieces_of_ofChars? h
  · rw [hnone] at hsymbol
    cases hsymbol
  · rw [hsome, Option.some.injEq] at hsymbol
    rw [← hsymbol, String.toList_ofList] at hx
    exact List.mem_of_mem_drop (List.mem_of_mem_take ((unquoteChars_sublist _).subset hx))

/-! ## What is kept of a text -/

/-- What is left of a trimmed text without the symbol of an amount and without spaces. -/
def leftOf (cs : List Char) (a : Amount) : List Char :=
  let trimmed := trimChars cs
  let left :=
    match a.commoditySpan with
    | none => trimmed
    | some (start, stop) =>
      trimmed.take (start - leadingBlanks cs) ++ trimmed.drop (stop - leadingBlanks cs)
  left.filter (· != ' ')

/-- Beside the symbol there are a sign and a number, and nothing else but spaces. -/
theorem leftOf_amount {l : Layout} (hl : l.chars = trimChars cs) (h : l.IsAmount) :
    leftOf cs (l.amount (leadingBlanks cs)) = l.sign ++ (l.own ++ l.number) := by
  rw [leftOf, ← hl]
  cases hspan : (l.amount (leadingBlanks cs)).commoditySpan with
  | none => exact (l.no_symbol_of_span_eq_none hspan).2.2
  | some span =>
    obtain ⟨start, stop⟩ := span
    obtain ⟨b, left, right, hat, -⟩ := l.exists_symbol_of_span h (hl ▸ standsAt_trimChars cs) hspan
    exact (congrArg (List.filter (· != ' ')) hat.cut).trans hat.others

/-- The symbol of an amount stands in the text, on its side of the quantity. -/
theorem symbol_amount {l : Layout} (hl : l.chars = trimChars cs) (h : l.IsAmount)
    (ha : a = l.amount (leadingBlanks cs)) :
    a.commoditySpan = none ∧ a.commodity = none ∧ a.symbolBefore = false ∨
      ∃ start stop, a.commoditySpan = some (start, stop) ∧ start < stop ∧ stop ≤ cs.length ∧
        a.commodity = some (unquoteSymbol (String.ofList (Match.slice cs start stop))) ∧
        if a.symbolBefore then stop ≤ a.start else a.stop ≤ start := by
  subst ha
  cases hspan : (l.amount (leadingBlanks cs)).commoditySpan with
  | none =>
    obtain ⟨hcommodity, hbefore, -⟩ := l.no_symbol_of_span_eq_none hspan
    exact .inl ⟨rfl, hcommodity, hbefore⟩
  | some span =>
    obtain ⟨start, stop⟩ := span
    obtain ⟨b, left, right, hat, hlead, hstop, hle, hslice⟩ :=
      l.exists_symbol_of_span h (hl ▸ standsAt_trimChars cs) hspan
    have hpos := List.length_pos_of_ne_nil b.isSymbolText.ne_nil
    refine .inr ⟨start, stop, rfl, by omega, hle, ?_, ?_⟩
    · rw [hslice, unquoteSymbol, String.toList_ofList, Layout.amount, hat.symbol, Option.map_some]
    · have hside := hat.side
      rw [Layout.amount]
      cases hbefore : l.before.isSome with
      | true =>
        rw [hbefore, if_pos rfl] at hside
        simp only [if_true]
        omega
      | false =>
        rw [hbefore, if_neg Bool.false_ne_true] at hside
        simp only [Bool.false_eq_true, if_false]
        omega

/-- What is left of a text is a sign and a number, and they are the quantity. -/
theorem quantity_of_leftOf {l : Layout} (hl : l.chars = trimChars cs) (h : l.IsAmount)
    (ha : a = l.amount (leadingBlanks cs)) :
    ∃ sign number, IsSignText sign ∧ IsNumber number ∧ leftOf cs a = sign ++ number ∧
      (a.quantity = String.ofList (sign ++ number) ∨
        sign = ['+'] ∧ a.quantity = String.ofList number) := by
  subst ha
  refine ⟨l.sign ++ l.own, l.number, ?_, l.isNumber, ?_, l.quantity_amount h _⟩
  · rcases h.2 with hsign | hown
    · rw [hsign]
      exact l.isOwnSign
    · rw [hown, List.append_nil]
      exact l.isSignText
  · rw [leftOf_amount hl h, List.append_assoc]

/-- A text with a second symbol or a second sign is refused. -/
theorem isAmount_of_ofChars? (h : ofChars? cs = some a) {l : Layout} (hl : l.chars = trimChars cs) :
    l.IsAmount := by
  by_contra hnot
  rw [ofChars?_eq_of_layout hl, l.ofMatch?_of_not_isAmount hnot] at h
  cases h

/-- **Taking an amount apart loses nothing and adds nothing.**  The quantity stands in the text and is
not empty.  A symbol stands in the text on the side of the quantity that the amount says, and the
commodity is the symbol without its quotes.  What is left of the text without the symbol and without
spaces is one sign at most and a number, and this is the quantity, but for a plus that stands apart
from the number.  So no text is taken apart that has a symbol on both sides, or two signs. -/
theorem ofText?_keeps_all {text : String} (h : ofText? text = some a) :
    (a.start < a.stop ∧ a.stop ≤ text.length) ∧
    (a.commoditySpan = none ∧ a.commodity = none ∧ a.symbolBefore = false ∨
      ∃ start stop, a.commoditySpan = some (start, stop) ∧ start < stop ∧ stop ≤ text.length ∧
        a.commodity = some (unquoteSymbol (String.ofList (Match.slice text.toList start stop))) ∧
        if a.symbolBefore then stop ≤ a.start else a.stop ≤ start) ∧
    (∃ sign number, IsSignText sign ∧ IsNumber number ∧ leftOf text.toList a = sign ++ number ∧
      (a.quantity = String.ofList (sign ++ number) ∨
        sign = ['+'] ∧ a.quantity = String.ofList number)) ∧
    ∀ l : Layout, l.chars = trimChars text.toList → l.IsAmount := by
  obtain ⟨l, hl, hamount, ha⟩ := exists_layout_of_ofChars? h
  have hlength : text.length = text.toList.length := String.length_toList.symm
  have hplace := l.start_lt_stop (hl ▸ standsAt_trimChars text.toList)
  rw [hlength]
  exact ⟨ha ▸ hplace, symbol_amount hl hamount ha, quantity_of_leftOf hl hamount ha,
    fun _ hother => isAmount_of_ofChars? h hother⟩

/-- A plus that stands apart from its number, in front of a symbol. -/
theorem ofText?_keeps_all_of_plus_apart :
    ∃ a, ofText? " + $ 5" = some a ∧ a.quantity = "5" ∧ a.commoditySpan = some (3, 4) ∧
      leftOf " + $ 5".toList a = ['+', '5'] ∧ (a.start < a.stop ∧ a.stop ≤ 6) ∧
      ∀ l : Layout, l.chars = "+ $ 5".toList → l.IsAmount := by
  have hsplit : ofText? " + $ 5" = some ⟨"5", some "$", true, true, 5, 6, some (3, 4)⟩ := by
    decide +kernel
  obtain ⟨hplace, -, -, hlayouts⟩ := ofText?_keeps_all hsplit
  exact ⟨_, hsplit, rfl, rfl, by decide +kernel, hplace, hlayouts⟩

end Pieces

end Daybook.Amount
