import Daybook.Proofs.Amount.Rendered
import Daybook.Proofs.Journal.WrittenPosting
import Daybook.Proofs.Pattern.Pieces

/-!
# Lines that are put together

A line is put together from parts, each of which is recorded as a field or not at all, and each of
which says what tokens it gives where it stands.  If the pattern of a rule takes a line apart at the
same places, the tokens of the line are those of its parts, one after the other.

* `AmountText`: an amount that can stand in a posting, together with what it is taken apart into.
* `LinePart`, `LinePart.tokens`: the parts of lines and their tokens.
* `lineTokens_of_takes`: the tokens of a line that was put together.
* `takesText_gap`, `takesText_someGap`: blanks between parts are taken as a whole.
* `CommentText`, `CommentText.takes_tail`, `CommentText.blocks_tail`: the end of a line, where a comment
  can stand.
-/

namespace Daybook.Journal

open Text Amount Pattern

/-! ## Parts -/

/-- An amount as it can stand in a posting: without blanks around it and without a sign that starts
anything else. -/
structure AmountText where
  chars : List Char
  amount : Amount
  split : Amount.ofChars? chars = some amount
  trimmed : trimChars chars = chars
  plain : ∀ x ∈ chars, x ≠ '@' ∧ x ≠ '=' ∧ x ≠ ';'

/-- A part of a line. -/
inductive LinePart where
  /-- Characters that are not recorded. -/
  | blank (cs : List Char)
  /-- A field that is recorded, but has no text. -/
  | absent (field : Field) (hfield : field ≠ .comment)
  /-- The blanks in front. -/
  | indent (cs : List Char) (hsome : cs ≠ [])
  /-- A field that becomes one token. -/
  | word (field : Field) (cs : List Char)
    (hfield : field.tokenKind ∉ [TokenKind.indent, .comment, .note, .amount])
    (hsome : cs ≠ []) (hends : NoBlankEnds cs)
  | amount (field : Field) (hfield : field.tokenKind = .amount) (text : AmountText)
  | note (cs : List Char) (hsome : cs ≠ []) (hends : NoBlankEnds cs)
  | comment (cs : List Char)

namespace LinePart

/-- The characters of a part. -/
def chars : LinePart → List Char
  | blank cs | indent cs _ | word _ cs _ _ _ | note cs _ _ | comment cs => cs
  | absent _ _ => []
  | amount _ _ text => text.chars

/-- The field that a part is recorded as. -/
def field? : LinePart → Option Field
  | blank _ => none
  | indent _ _ => some .indent
  | absent field _ | word field _ _ _ _ | amount field _ _ => some field
  | note _ _ _ => some .note
  | comment _ => some .comment

/-- The tokens of a part that stands at `column`. -/
def tokens (line : Int) (column : Nat) : LinePart → List Token
  | blank _ | absent _ _ => []
  | indent cs _ => [⟨.indent, String.ofList cs, line, column⟩]
  | word field cs _ _ _ => [⟨field.tokenKind, String.ofList cs, line, column⟩]
  | amount _ _ text => amountPieces text.amount text.chars line column
  | note cs _ _ => taggedTokens .note cs line column
  | comment cs => taggedTokens .comment cs line column

/-- The line that is put together from parts. -/
def lineOf (parts : List LinePart) : List Char :=
  parts.flatMap chars

/-- The tokens of parts that start at `column`, one after the other. -/
def tokensFrom (line : Int) (column : Nat) : List LinePart → List Token
  | [] => []
  | part :: parts =>
    part.tokens line column ++ tokensFrom line (column + part.chars.length) parts

/-- A part as a piece of its line. -/
def piece (part : LinePart) : Piece Field :=
  ⟨part.field?, part.chars⟩

@[simp]
theorem lineOf_cons (part : LinePart) (parts : List LinePart) :
    lineOf (part :: parts) = part.chars ++ lineOf parts :=
  rfl

@[simp]
theorem lineOf_append (parts others : List LinePart) :
    lineOf (parts ++ others) = lineOf parts ++ lineOf others :=
  List.flatMap_append

theorem tokensFrom_append (line : Int) (column : Nat) (parts others : List LinePart) :
    tokensFrom line column (parts ++ others) =
      tokensFrom line column parts ++ tokensFrom line (column + (lineOf parts).length) others := by
  induction parts generalizing column with
  | nil => rfl
  | cons part parts ih =>
    rw [List.cons_append, tokensFrom, tokensFrom, ih, lineOf_cons, List.length_append,
      List.append_assoc, Nat.add_assoc]

@[simp]
theorem text_map_piece (parts : List LinePart) : Piece.text (parts.map piece) = lineOf parts :=
  List.flatMap_map ..

end LinePart

theorem AmountText.noBlankEnds (a : AmountText) : NoBlankEnds a.chars :=
  a.trimmed ▸ noBlankEnds_trimChars a.chars

theorem AmountText.ne_nil (a : AmountText) : a.chars ≠ [] := by
  intro hnil
  have hsplit := a.split
  rw [hnil] at hsplit
  cases hsplit

/-! ## Tokens -/

theorem trimmedToken_eq (kind : TokenKind) {cs : List Char} (h : NoBlankEnds cs) (line : Int)
    (column : Nat) : trimmedToken kind cs line column = ⟨kind, String.ofList cs, line, column⟩ := by
  rw [trimmedToken, h.trimChars_eq, h.leadingBlanks_eq]
  rfl

/-- A field that is neither an indent nor a note, comment or amount becomes one token. -/
theorem fieldTokens_word (symbolAlone : Bool) {field : Field} {cs : List Char}
    (hfield : field.tokenKind ∉ [TokenKind.indent, .comment, .note, .amount])
    (hsome : cs ≠ []) (hends : NoBlankEnds cs) (line : Int) (column : Nat) :
    fieldTokens symbolAlone line field cs column =
      [⟨field.tokenKind, String.ofList cs, line, column⟩] := by
  have hne : ¬(trimChars cs).isEmpty := by simpa [hends.trimChars_eq] using hsome
  rw [← trimmedToken_eq _ hends]
  cases field <;> first
    | exact absurd (by decide) hfield
    | simp only [fieldTokens, Field.tokenKind, if_neg hne]

/-- The tokens of a part are those of its field. -/
theorem LinePart.fieldTokens_eq (part : LinePart) (line : Int) (column : Nat) :
    (part.field?.toList.flatMap fun field => fieldTokens false line field part.chars column) =
      part.tokens line column := by
  cases part with
  | blank cs => rfl
  | absent field hfield =>
    cases field <;> first
      | exact absurd rfl hfield
      | rfl
  | indent cs hsome => simp [field?, chars, tokens, fieldTokens, Field.tokenKind, hsome]
  | word field cs hfield hsome hends =>
    simpa [field?, chars, tokens] using fieldTokens_word false hfield hsome hends line column
  | amount field hfield text =>
    have hamount : fieldTokens false line field text.chars column =
        amountTokens false text.chars line column := by
      rw [fieldTokens, hfield]
    simp [field?, chars, tokens, hamount, amountTokens, text.trimmed, text.ne_nil, text.split]
  | note cs hsome hends =>
    simp [field?, chars, tokens, fieldTokens, Field.tokenKind, hends.trimChars_eq, hsome]
  | comment cs => simp [field?, chars, tokens, fieldTokens, Field.tokenKind]

theorem readings_map_piece (line : Int) (column : Nat) (parts : List LinePart) :
    Piece.readings (fieldTokens false line) column (parts.map LinePart.piece) =
      LinePart.tokensFrom line column parts := by
  induction parts generalizing column with
  | nil => rfl
  | cons part parts ih =>
    rw [List.map_cons, Piece.readings, LinePart.tokensFrom, ih]
    exact congrArg (· ++ _) (part.fieldTokens_eq line column)

/-- **The tokens of a line that was put together** are those of its parts, if the rule that the line
falls under takes it apart in the same way. -/
theorem lineTokens_of_takes {rule : LineRule} {index : Nat} {parts : List LinePart}
    (halone : rule.symbolAlone = false)
    (hread : ∀ found, rule.pattern.match? (LinePart.lineOf parts) = some found →
      readLine? (LinePart.lineOf parts) = some ⟨index, rule, found⟩)
    (htakes : rule.pattern.Takes (parts.map LinePart.piece)) (line : Int) :
    lineTokens (LinePart.lineOf parts) line =
      .ok (LinePart.tokensFrom line 0 parts ++
        [⟨.newline, "\n", line, (LinePart.lineOf parts).length⟩]) := by
  have hmatch := match?_of_takes htakes
  rw [LinePart.text_map_piece] at hmatch
  have htokens := Piece.flatMap_spans (fieldTokens false line) [] (parts.map LinePart.piece)
  rw [readings_map_piece, LinePart.text_map_piece] at htokens
  rw [lineTokens, hread _ hmatch]
  simp only [ReadLine.tokens, halone, List.reverse_reverse]
  exact congrArg (Except.ok <| · ++ _) htokens

/-! ## Blanks between parts -/

section Gaps

variable {gaps cs rest : List Char}

theorem isGap_of_not_isBlank {x : Char} (h : isBlank x = false) : isGap x = false :=
  Bool.eq_false_iff.mpr fun hgap => by
    rw [isBlank_of_isGap hgap] at h
    cases h

theorem isGap_head (h : NoBlankEnds cs) (hne : cs ≠ []) (rest : List Char) :
    ∀ x ∈ (cs ++ rest).head?, isGap x = false := by
  intro x hx
  rw [List.head?_append_of_ne_nil _ hne] at hx
  exact isGap_of_not_isBlank (h.head x hx)

theorem isGap_last (h : NoBlankEnds cs) : ∀ x ∈ cs.getLast?, isGap x = false := fun x hx =>
  isGap_of_not_isBlank (h.last x hx)

theorem takesText_gap (hgaps : ∀ x ∈ gaps, isGap x = true)
    (hrest : ∀ x ∈ rest.head?, isGap x = false) : (gap : Pattern Field).TakesText gaps rest :=
  takesText_many hgaps hrest (Nat.zero_le _)

theorem takesText_someGap (hne : gaps ≠ []) (hgaps : ∀ x ∈ gaps, isGap x = true)
    (hrest : ∀ x ∈ rest.head?, isGap x = false) :
    (someGap : Pattern Field).TakesText gaps rest :=
  takesText_many hgaps hrest (List.length_pos_of_ne_nil hne)

/-- What comes first behind blanks. -/
theorem head_dropWhile_gaps {y : Char} (hgaps : ∀ x ∈ gaps, isGap x = true)
    (hy : isGap y = false) : ((gaps ++ y :: rest).dropWhile isGap).head? = some y := by
  rw [List.dropWhile_append_of_pos hgaps, List.dropWhile_cons_of_neg (by rw [hy]; decide),
    List.head?_cons]

end Gaps

/-! ## Statuses -/

/-- A status marker and the blanks that set it off. -/
structure StatusText where
  marker : Char
  gaps : List Char
  isStatus_marker : isStatus marker = true
  gaps_ne_nil : gaps ≠ []
  isGap_gaps : ∀ x ∈ gaps, isGap x = true

theorem noBlankEnds_singleton {x : Char} (h : isBlank x = false) : NoBlankEnds [x] where
  head := by rintro _ ⟨⟩; exact h
  last := by rintro _ ⟨⟩; exact h

theorem isBlank_of_isStatus {x : Char} (h : isStatus x = true) : isBlank x = false := by
  rcases isStatus_iff.mp h with rfl | rfl <;> decide

/-- A status marker as a part of a line. -/
def StatusText.part (s : StatusText) : LinePart :=
  .word .status [s.marker] (by decide) (List.cons_ne_nil _ _)
    (noBlankEnds_singleton (isBlank_of_isStatus s.isStatus_marker))

/-! ## The end of a line -/

/-- A comment at the end of a line, with the blanks in front of its sign. -/
structure CommentText where
  gaps : List Char
  chars : List Char
  isGap_gaps : ∀ x ∈ gaps, isGap x = true
  inline : '\n' ∉ chars

namespace CommentText

/-- The parts of the end of a line, with or without a comment. -/
def parts : Option CommentText → List LinePart
  | none => []
  | some c => [.blank c.gaps, .blank [';'], .comment c.chars]

variable {c : Option CommentText} {cs : List Char}

/-- Behind the blanks, a comment starts with its sign. -/
theorem head_parts (c : Option CommentText) :
    ∀ x ∈ ((LinePart.lineOf (parts c)).dropWhile isGap).head?, x = ';' := by
  cases c with
  | none => nofun
  | some c =>
    intro x hx
    have hline : LinePart.lineOf (parts (some c)) = c.gaps ++ ';' :: (c.chars ++ []) := rfl
    rw [hline, head_dropWhile_gaps c.isGap_gaps (by decide)] at hx
    cases hx
    rfl

/-- The end of a line is read as it is put together. -/
theorem takes_tail (c : Option CommentText) : tail.Takes ((parts c).map LinePart.piece) := by
  have hend : ∀ x ∈ ([] : List Char).head?, isGap x = false := nofun
  cases c with
  | none =>
    exact takes_seq_none (takesText_gap nofun hend) (takes_opt_none rfl takes_atEnd)
  | some c =>
    have hgap : (gap : Pattern Field).TakesText c.gaps (';' :: (c.chars ++ [])) := by
      refine takesText_gap c.isGap_gaps ?_
      rintro x ⟨⟩
      decide
    have hchars : (Pattern.many isInline 0 : Pattern Field).TakesText c.chars [] := by
      refine takesText_many (fun x hx => bne_iff_ne.mpr ?_) nofun (Nat.zero_le _)
      rintro rfl
      exact c.inline hx
    exact takes_seq hgap (takes_opt (takes_assoc.mpr (takes_seq (takesText_one rfl)
      (takes_seq_group hchars takes_atEnd))))

/-- Inside a text without a sign of comments and without blanks at its ends, no line ends. -/
theorem blocks_tail (hends : NoBlankEnds cs) (hplain : ∀ x ∈ cs, x ≠ ';') (rest : List Char) :
    tail.Blocks cs rest := by
  have hbreak : ∀ x ∈ cs.getLast?, x ≠ '\n' := by
    rintro x hx rfl
    cases hends.last _ hx
  have hsign : ∀ x ∈ cs, (x == ';') = false := fun x hx => beq_eq_false_iff_ne.mpr (hplain x hx)
  exact blocks_many_seq (isGap_last hends) ((blocks_one hsign).seq.seq.seq_opt (blocks_atEnd hbreak))

end CommentText

end Daybook.Journal
