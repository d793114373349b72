import Daybook.Proofs.Journal.DateText
import Daybook.Proofs.Journal.LineParts

/-!
# Transaction headers that are put together

The first line of a transaction is put together from a date, perhaps a second date, a status, a code,
a payee, a note and a comment.  The line is taken apart at exactly these places, although each of the
parts can be missing: what follows the blanks behind a part tells which part comes next.

* `DateText`, `CodeText`, `PayeeText`, `NoteText`: the parts that only headers have.
* `HeaderLine`: a header that is put together, with its characters and its tokens.
* `StartsApart`: whether a text is set apart from what stands in front of it.
* `exists_takes_body`: how its payee, note and comment are read.
* `lineTokens_headerLine`: the tokens of the line are those of its parts.
-/

namespace Daybook.Journal

open Text Calendar Amount Pattern

/-! ## Parts -/

/-- A date as it is written. -/
structure DateText where
  chars : List Char
  isDate : IsDateText chars

/-- A code between parentheses, with the blanks in front. -/
structure CodeText where
  gaps : List Char
  inner : List Char
  gaps_ne_nil : gaps ≠ []
  isGap_gaps : ∀ x ∈ gaps, isGap x = true
  plain : ∀ x ∈ inner, x ≠ '(' ∧ x ≠ ')'

/-- A payee, with the blanks in front.  It does not look like a status or a code. -/
structure PayeeText where
  gaps : List Char
  chars : List Char
  gaps_ne_nil : gaps ≠ []
  isGap_gaps : ∀ x ∈ gaps, isGap x = true
  ne_nil : chars ≠ []
  trimmed : trimChars chars = chars
  plain : ∀ x ∈ chars, x ≠ ';' ∧ x ≠ '|'
  head : ∀ x ∈ chars.head?, x ≠ '*' ∧ x ≠ '!' ∧ x ≠ '('

/-- A note, behind its bar. -/
structure NoteText where
  chars : List Char
  ne_nil : chars ≠ []
  trimmed : trimChars chars = chars
  plain : ∀ x ∈ chars, x ≠ ';'

theorem DateText.fits (d : DateText) : (datePattern : Pattern Field).Fits d.chars [] :=
  fits_datePattern.mpr ⟨d.isDate, rfl⟩

theorem DateText.ne_nil (d : DateText) : d.chars ≠ [] := by
  obtain ⟨x, xs, hd, -⟩ := exists_digit_of_fits d.fits
  rw [hd]
  exact List.cons_ne_nil x xs

theorem DateText.noBlankEnds (d : DateText) : NoBlankEnds d.chars where
  head x hx := isBlank_of_isDateChar (isDateChar_of_fits d.fits x (List.mem_of_mem_head? hx))
  last x hx := isBlank_of_isDateChar (isDateChar_of_fits d.fits x (List.mem_of_mem_getLast? hx))

theorem PayeeText.noBlankEnds (p : PayeeText) : NoBlankEnds p.chars :=
  p.trimmed ▸ noBlankEnds_trimChars p.chars

theorem NoteText.noBlankEnds (n : NoteText) : NoBlankEnds n.chars :=
  n.trimmed ▸ noBlankEnds_trimChars n.chars

namespace CodeText

variable (c : CodeText)

/-- The characters of a code with its parentheses. -/
def chars : List Char :=
  '(' :: (c.inner ++ [')'])

theorem noBlankEnds : NoBlankEnds c.chars where
  head := by rintro x ⟨⟩; decide
  last := by
    intro x hx
    rw [chars, ← List.cons_append, List.getLast?_concat] at hx
    cases hx
    decide

end CodeText

/-- A header that is put together. -/
structure HeaderLine where
  date : DateText
  secondDate : Option DateText
  status : Option StatusText
  code : Option CodeText
  payee : Option PayeeText
  note : Option NoteText
  comment : Option CommentText

/-! ## Parts of lines -/

/-- A date as a part of a line. -/
def DateText.part (field : Field) (hfield : field.tokenKind = .date) (d : DateText) : LinePart :=
  .word field d.chars (by rw [hfield]; decide) d.ne_nil d.noBlankEnds

/-- The parts of a second date. -/
def DateText.secondParts : Option DateText → List LinePart
  | none => []
  | some d => [.blank ['='], d.part .secondDate rfl]

/-- The parts of the status of a header. -/
def StatusText.parts : Option StatusText → List LinePart
  | none => []
  | some s => [.blank s.gaps, s.part]

/-- The parts of a code. -/
def CodeText.parts : Option CodeText → List LinePart
  | none => []
  | some c => [.blank c.gaps, .word .code c.chars (by decide) (List.cons_ne_nil _ _) c.noBlankEnds]

/-- The parts of a payee. -/
def PayeeText.parts : Option PayeeText → List LinePart
  | none => []
  | some p => [.blank p.gaps, .word .payee p.chars (by decide) p.ne_nil p.noBlankEnds]

/-- The parts of a note, with some blanks in front of the bar. -/
def NoteText.partsBehind (gaps : List Char) (n : NoteText) : List LinePart :=
  [.blank gaps, .blank ['|'], .blank [' '], .note n.chars n.ne_nil n.noBlankEnds]

/-- The parts of a note: a bar with a space on each side, and the note. -/
def NoteText.parts : Option NoteText → List LinePart
  | none => []
  | some n => n.partsBehind [' ']

namespace HeaderLine

variable (h : HeaderLine)

/-- The parts of the payee, the note and the comment. -/
def bodyParts : List LinePart :=
  PayeeText.parts h.payee ++ (NoteText.parts h.note ++ CommentText.parts h.comment)

/-- The parts of the status and the code. -/
def markParts : List LinePart :=
  StatusText.parts h.status ++ CodeText.parts h.code

/-- The parts of the dates. -/
def dateParts : List LinePart :=
  h.date.part .date rfl :: DateText.secondParts h.secondDate

/-- The parts of a header. -/
def parts : List LinePart :=
  h.dateParts ++ (h.markParts ++ h.bodyParts)

/-- The characters of a header. -/
def chars : List Char :=
  LinePart.lineOf h.parts

/-- The tokens of a header: those of its parts, and the end of the line. -/
def tokens (line : Int) : List Token :=
  LinePart.tokensFrom line 0 h.parts ++ [⟨.newline, "\n", line, h.chars.length⟩]

end HeaderLine

/-! ## What sets the parts apart -/

section Apart

variable {cs cs' : List Char}

/-- Whether a text starts with a blank or with the sign of comments, if it is not empty. -/
def StartsApart (cs : List Char) : Prop :=
  ∀ x ∈ cs.head?, isGap x = true ∨ x = ';'

theorem StartsApart.append (h : StartsApart cs) (h' : StartsApart cs') : StartsApart (cs ++ cs') := by
  cases cs with
  | nil => exact h'
  | cons x xs => exact h

theorem startsApart_gaps {gaps : List Char} (hne : gaps ≠ []) (hgaps : ∀ x ∈ gaps, isGap x = true)
    (rest : List Char) : StartsApart (gaps ++ rest) := by
  intro x hx
  rw [List.head?_append_of_ne_nil _ hne] at hx
  exact .inl (hgaps x (List.mem_of_mem_head? hx))

theorem startsApart_status : ∀ s, StartsApart (LinePart.lineOf (StatusText.parts s))
  | none => nofun
  | some s => startsApart_gaps s.gaps_ne_nil s.isGap_gaps _

theorem startsApart_code : ∀ c, StartsApart (LinePart.lineOf (CodeText.parts c))
  | none => nofun
  | some c => startsApart_gaps c.gaps_ne_nil c.isGap_gaps _

theorem startsApart_payee : ∀ p, StartsApart (LinePart.lineOf (PayeeText.parts p))
  | none => nofun
  | some p => startsApart_gaps p.gaps_ne_nil p.isGap_gaps _

theorem startsApart_note : ∀ n, StartsApart (LinePart.lineOf (NoteText.parts n))
  | none => nofun
  | some _ => startsApart_gaps (List.cons_ne_nil ' ' []) (forall_mem_of_all (by decide)) _

/-- The sign of a comment may stand without blanks in front. -/
theorem startsApart_comment : ∀ c, StartsApart (LinePart.lineOf (CommentText.parts c))
  | none => nofun
  | some c => by
    have hgaps : StartsApart c.gaps := fun x hx => .inl (c.isGap_gaps x (List.mem_of_mem_head? hx))
    have hsign : StartsApart (';' :: (c.chars ++ [])) := by
      rintro x ⟨⟩
      exact .inr rfl
    exact hgaps.append hsign

end Apart

/-! ## Payee, note and comment -/

/-- The note of a header behind its bar. -/
def notePart : Pattern Field :=
  .all [gap, .one (· == '|'), gap, .group .note body]

/-- What stands behind a payee. -/
def noteTail : Pattern Field :=
  .seq (.opt notePart) tail

section Bodies

variable {gaps rest : List Char} {parts : List LinePart}

/-- Inside a payee, neither a note nor the end of the line is read. -/
theorem blocks_noteTail (p : PayeeText) (rest : List Char) : noteTail.Blocks p.chars rest := by
  have hbar : ∀ x ∈ p.chars, (x == '|') = false := fun x hx =>
    beq_eq_false_iff_ne.mpr (p.plain x hx).2
  exact (blocks_many_seq (isGap_last p.noBlankEnds) (blocks_one hbar).seq).seq.seq_opt
    (CommentText.blocks_tail p.noBlankEnds (fun x hx => (p.plain x hx).1) rest)

/-- A note is read as it is put together. -/
theorem takes_noteTail_some (hgaps : ∀ x ∈ gaps, isGap x = true) (n : NoteText)
    (c : Option CommentText) :
    noteTail.Takes ((n.partsBehind gaps ++ CommentText.parts c).map LinePart.piece) := by
  have hbar : (gap : Pattern Field).TakesText gaps
      ('|' :: ' ' :: (n.chars ++ LinePart.lineOf (CommentText.parts c))) := by
    refine takesText_gap hgaps ?_
    rintro x ⟨⟩
    decide
  have hspace : (gap : Pattern Field).TakesText [' ']
      (n.chars ++ LinePart.lineOf (CommentText.parts c)) :=
    takesText_gap (forall_mem_of_all (by decide)) (isGap_head n.noBlankEnds n.ne_nil _)
  have hblocks : tail.Blocks n.chars (LinePart.lineOf (CommentText.parts c)) :=
    CommentText.blocks_tail n.noBlankEnds n.plain _
  have hplain : ∀ x ∈ n.chars, isBody x = true := fun x hx => bne_iff_ne.mpr (n.plain x hx)
  rw [← LinePart.text_map_piece] at hbar hspace hblocks
  exact takes_opt (takes_assoc.mpr (takes_seq hbar (takes_assoc.mpr (takes_seq (takesText_one rfl)
    (takes_assoc.mpr (takes_seq hspace (takes_few hplain hblocks (CommentText.takes_tail c))))))))

theorem takes_noteTail_none (c : Option CommentText) :
    noteTail.Takes ((CommentText.parts c).map LinePart.piece) := by
  refine takes_opt_none (leaves_seq_of_eq_nil ?_) (CommentText.takes_tail c)
  rw [LinePart.text_map_piece]
  refine ((startsWith_one (γ := Field) (· == '|')).seq _).leaves_many_seq (fun x hx => ?_)
    fun x hx => ?_
  · exact beq_eq_false_iff_ne.mpr (ne_of_isGap hx (by decide))
  · rw [CommentText.head_parts c x hx]
    decide

theorem takes_noteTail (n : Option NoteText) (c : Option CommentText) :
    noteTail.Takes ((NoteText.parts n ++ CommentText.parts c).map LinePart.piece) := by
  cases n with
  | none => exact takes_noteTail_none c
  | some n => exact takes_noteTail_some (forall_mem_of_all (by decide)) n c

/-- A payee is read as it is put together. -/
theorem takes_payee (p : PayeeText)
    (hparts : noteTail.Takes (parts.map LinePart.piece)) :
    headingBody.Takes ((PayeeText.parts (some p) ++ parts).map LinePart.piece) := by
  have hgaps : (someGap : Pattern Field).TakesText p.gaps (p.chars ++ LinePart.lineOf parts) :=
    takesText_someGap p.gaps_ne_nil p.isGap_gaps (isGap_head p.noBlankEnds p.ne_nil _)
  have hplain : ∀ x ∈ p.chars, isPayeeChar x = true := fun x hx => by
    simp [isPayeeChar, p.plain x hx]
  rw [← LinePart.text_map_piece] at hgaps
  exact takes_opt (takes_assoc.mpr (takes_seq hgaps
    (takes_few hplain (blocks_noteTail p _) hparts)))

/-- Where no payee stands between blanks and a note or a comment, an empty one is read. -/
theorem takes_absent_payee (hne : gaps ≠ []) (hgaps : ∀ x ∈ gaps, isGap x = true)
    (hhead : ∀ x ∈ (LinePart.lineOf parts).head?, isGap x = false)
    (hparts : noteTail.Takes (parts.map LinePart.piece)) :
    headingBody.Takes ((.blank gaps :: .absent .payee (by decide) :: parts).map LinePart.piece) := by
  have hblank := takesText_someGap hne hgaps hhead
  have hempty : ∀ x ∈ ([] : List Char), isPayeeChar x = true := nofun
  have hblocks : noteTail.Blocks [] (Piece.text (parts.map LinePart.piece)) :=
    fun after hafter hsome => absurd (List.suffix_nil.mp hafter) hsome
  rw [← LinePart.text_map_piece] at hblank
  exact takes_opt (takes_assoc.mpr (takes_seq hblank (takes_few hempty hblocks hparts)))

end Bodies

namespace HeaderLine

variable (h : HeaderLine)

/-- **How payee, note and comment are read**: in some parts that give the same characters and the same
tokens as those that were put together. -/
theorem exists_takes_body :
    ∃ parts, LinePart.lineOf parts = LinePart.lineOf h.bodyParts ∧
      (∀ line column, LinePart.tokensFrom line column parts =
        LinePart.tokensFrom line column h.bodyParts) ∧
      headingBody.Takes (parts.map LinePart.piece) := by
  rw [bodyParts]
  cases h.payee with
  | some p =>
    exact ⟨_, rfl, fun _ _ => rfl, takes_payee p (takes_noteTail h.note h.comment)⟩
  | none =>
    cases h.note with
    | some n =>
      have hspace : ∀ x ∈ [' '], isGap x = true := forall_mem_of_all (by decide)
      have hnothing : ∀ x ∈ ([] : List Char), isGap x = true := nofun
      refine ⟨_, ?_, ?_, takes_absent_payee (List.cons_ne_nil _ _) hspace ?_
        (takes_noteTail_some hnothing n h.comment)⟩
      · rfl
      · exact fun _ _ => rfl
      · rintro x ⟨⟩
        decide
    | none =>
      cases h.comment with
      | none => exact ⟨[], rfl, fun _ _ => rfl, takes_opt_none rfl (takes_noteTail none none)⟩
      | some c =>
        by_cases hgaps : c.gaps = []
        · refine ⟨CommentText.parts (some c), rfl, fun _ _ => rfl, takes_opt_none
            (leaves_seq_of_eq_nil (leaves_seq_of_eq_nil ?_)) (takes_noteTail none (some c))⟩
          rw [LinePart.text_map_piece]
          change (someGap : Pattern Field).leaves (c.gaps ++ ';' :: (c.chars ++ [])) = []
          rw [hgaps, List.nil_append, someGap, leaves_many_one_cons, if_neg (by decide)]
        · refine ⟨_, ?_, ?_, takes_absent_payee hgaps c.isGap_gaps ?_
            (takes_noteTail_none (some ⟨[], c.chars, nofun, c.inline⟩))⟩
          · rfl
          · exact fun _ _ => rfl
          · rintro x ⟨⟩
            decide

/-! ## Status and code -/

/-- Behind blanks, the body of a header starts with neither a status nor a code. -/
theorem head_bodyParts :
    ∀ x ∈ ((LinePart.lineOf h.bodyParts).dropWhile isGap).head?, isStatus x = false ∧ x ≠ '(' := by
  intro x hx
  rw [bodyParts] at hx
  cases hpayee : h.payee with
  | some p =>
    obtain ⟨y, ys, hp⟩ := List.exists_cons_of_ne_nil p.ne_nil
    have hgap : isGap y = false := isGap_of_not_isBlank (p.noBlankEnds.head y (by rw [hp]; rfl))
    have hline : LinePart.lineOf (PayeeText.parts (some p) ++ (NoteText.parts h.note ++
        CommentText.parts h.comment)) = p.gaps ++ y :: (ys ++ LinePart.lineOf
          (NoteText.parts h.note ++ CommentText.parts h.comment)) := by
      rw [← List.cons_append, ← hp]
      rfl
    rw [hpayee, hline, head_dropWhile_gaps p.isGap_gaps hgap] at hx
    cases hx
    obtain ⟨hstar, hbang, hparenthesis⟩ := p.head x (by rw [hp]; rfl)
    exact ⟨by simp [isStatus, hstar, hbang], hparenthesis⟩
  | none =>
    rw [hpayee] at hx
    cases hnote : h.note with
    | some n =>
      rw [hnote] at hx
      cases hx
      exact ⟨by decide, by decide⟩
    | none =>
      rw [hnote] at hx
      rw [CommentText.head_parts h.comment x hx]
      exact ⟨by decide, by decide⟩

/-- Behind blanks, what follows the status of a header is no status. -/
theorem head_codeParts :
    ∀ x ∈ ((LinePart.lineOf (CodeText.parts h.code ++ h.bodyParts)).dropWhile isGap).head?,
      isStatus x = false := by
  intro x hx
  cases hcode : h.code with
  | some c =>
    have hline : LinePart.lineOf (CodeText.parts (some c) ++ h.bodyParts) =
        c.gaps ++ '(' :: (c.inner ++ [')'] ++ LinePart.lineOf h.bodyParts) := rfl
    rw [hcode, hline, head_dropWhile_gaps c.isGap_gaps (by decide)] at hx
    cases hx
    decide
  | none =>
    rw [hcode] at hx
    exact (h.head_bodyParts x hx).1

/-- The pattern of a code. -/
def codeChars : Pattern Field :=
  .all [.one (· == '('), .many (· != ')') 0, .one (· == ')')]

theorem takesText_codeChars (c : CodeText) (rest : List Char) :
    codeChars.TakesText c.chars rest := by
  have hinner : (Pattern.many (· != ')') 0 : Pattern Field).TakesText c.inner (')' :: rest) := by
    refine takesText_many (fun x hx => bne_iff_ne.mpr (c.plain x hx).2) ?_ (Nat.zero_le _)
    rintro x ⟨⟩
    decide
  exact takesText_seq (s := ['(']) (takesText_one rfl) (takesText_seq hinner (takesText_one rfl))

variable {parts : List LinePart}

/-- The code of a header is read as it is put together. -/
theorem takes_code (hline : LinePart.lineOf parts = LinePart.lineOf h.bodyParts)
    (hbody : headingBody.Takes (parts.map LinePart.piece)) :
    (Pattern.seq (.opt (.seq someGap (.group .code codeChars))) headingBody).Takes
      ((CodeText.parts h.code ++ parts).map LinePart.piece) := by
  cases h.code with
  | none =>
    refine takes_opt_none (leaves_seq_of_eq_nil ?_) hbody
    rw [LinePart.text_map_piece]
    change (Pattern.seq someGap (.group .code codeChars)).leaves (LinePart.lineOf parts) = []
    rw [hline]
    refine (((startsWith_one (γ := Field) (· == '(')).seq _).group .code).leaves_many_seq
      (fun x hx => ?_) fun x hx => ?_
    · exact beq_eq_false_iff_ne.mpr (ne_of_isGap hx (by decide))
    · exact beq_eq_false_iff_ne.mpr (h.head_bodyParts x hx).2
  | some c =>
    have hgaps : (someGap : Pattern Field).TakesText c.gaps (c.chars ++ LinePart.lineOf parts) := by
      refine takesText_someGap c.gaps_ne_nil c.isGap_gaps ?_
      rintro x ⟨⟩
      decide
    rw [← LinePart.text_map_piece] at hgaps
    exact takes_opt (takes_assoc.mpr (takes_seq hgaps
      (takes_seq_group (takesText_codeChars c _) hbody)))

/-- Status and code of a header are read as they are put together. -/
theorem takes_marks (hline : LinePart.lineOf parts = LinePart.lineOf h.bodyParts)
    (hbody : headingBody.Takes (parts.map LinePart.piece)) :
    (Pattern.seq (.opt (.seq someGap (.group .status (.one isStatus))))
      (.seq (.opt (.seq someGap (.group .code codeChars))) headingBody)).Takes
        ((h.markParts ++ parts).map LinePart.piece) := by
  have hcode := h.takes_code hline hbody
  rw [markParts, List.append_assoc]
  cases h.status with
  | none =>
    refine takes_opt_none (leaves_seq_of_eq_nil ?_) hcode
    rw [LinePart.text_map_piece]
    change (Pattern.seq someGap (.group .status (.one isStatus))).leaves
      (LinePart.lineOf (CodeText.parts h.code ++ parts)) = []
    rw [LinePart.lineOf_append, hline, ← LinePart.lineOf_append]
    refine ((startsWith_one (γ := Field) isStatus).group .status).leaves_many_seq
      (fun x hx => ?_) h.head_codeParts
    exact Bool.eq_false_iff.mpr fun hstatus => by
      rw [isGap_of_isStatus hstatus] at hx
      cases hx
  | some s =>
    have hgaps : (someGap : Pattern Field).TakesText s.gaps
        ([s.marker] ++ LinePart.lineOf (CodeText.parts h.code ++ parts)) := by
      refine takesText_someGap s.gaps_ne_nil s.isGap_gaps ?_
      rintro x ⟨⟩
      exact isGap_of_isStatus s.isStatus_marker
    rw [← LinePart.text_map_piece] at hgaps
    exact takes_opt (takes_assoc.mpr (takes_seq hgaps
      (takes_seq_group (takesText_one s.isStatus_marker) hcode)))

/-! ## Dates -/

/-- What stands behind the dates of a header starts with a blank or with a comment. -/
theorem startsApart_behindDates : StartsApart (LinePart.lineOf (h.markParts ++ h.bodyParts)) := by
  rw [markParts, bodyParts]
  simp only [LinePart.lineOf_append]
  exact ((startsApart_status h.status).append (startsApart_code h.code)).append
    ((startsApart_payee h.payee).append
      ((startsApart_note h.note).append (startsApart_comment h.comment)))

/-- Dates can end in front of what stands behind them. -/
theorem isDateChar_head_behindDates :
    ∀ x ∈ (LinePart.lineOf (h.markParts ++ h.bodyParts)).head?, isDateChar x = false := by
  intro x hx
  rcases h.startsApart_behindDates x hx with hx | rfl
  · exact isDateChar_of_isGap hx
  · decide +kernel

theorem endsDate_behindDates :
    LineRule.endsDate (LinePart.lineOf (h.markParts ++ h.bodyParts)) = true := by
  have hhead := h.startsApart_behindDates
  generalize LinePart.lineOf (h.markParts ++ h.bodyParts) = cs at hhead ⊢
  cases cs with
  | nil => rfl
  | cons x xs =>
    rcases hhead x rfl with hx | rfl
    · simp [LineRule.endsDate, hx]
    · rfl

/-- The rule for transactions, part by part. -/
theorem transaction_pattern_eq :
    LineRule.transaction.pattern = .seq (.group .date datePattern)
      (.seq (.opt (.seq (.one (· == '=')) (.group .secondDate datePattern)))
        (.seq (.look LineRule.endsDate)
          (.seq (.opt (.seq someGap (.group .status (.one isStatus))))
            (.seq (.opt (.seq someGap (.group .code codeChars))) headingBody)))) :=
  rfl

/-- A header is read as it is put together. -/
theorem takes_transaction (hline : LinePart.lineOf parts = LinePart.lineOf h.bodyParts)
    (hbody : headingBody.Takes (parts.map LinePart.piece)) :
    LineRule.transaction.pattern.Takes
      ((h.dateParts ++ (h.markParts ++ parts)).map LinePart.piece) := by
  have hbehind : LinePart.lineOf (h.markParts ++ parts) =
      LinePart.lineOf (h.markParts ++ h.bodyParts) := by
    rw [LinePart.lineOf_append, LinePart.lineOf_append, hline]
  have hends := h.endsDate_behindDates
  have hstop := h.isDateChar_head_behindDates
  have hhead := h.startsApart_behindDates
  rw [← hbehind, ← LinePart.text_map_piece] at hends hstop hhead
  have hmarks := takes_seq_none (takesText_look hends) (h.takes_marks hline hbody)
  rw [transaction_pattern_eq, dateParts]
  cases h.secondDate with
  | none =>
    refine takes_seq_group (takesText_datePattern h.date.isDate hstop)
      (takes_opt_none (leaves_seq_of_eq_nil (leaves_seq_of_eq_nil ?_)) hmarks)
    change (Pattern.one (· == '=') : Pattern Field).leaves
      (Piece.text ((h.markParts ++ parts).map LinePart.piece)) = []
    cases htext : Piece.text ((h.markParts ++ parts).map LinePart.piece) with
    | nil => rfl
    | cons x xs =>
      rw [htext] at hhead
      refine if_neg ?_
      rcases hhead x rfl with hx | rfl
      · simpa using ne_of_isGap hx (by decide)
      · decide
  | some d =>
    refine takes_seq_group (takesText_datePattern h.date.isDate ?_)
      (takes_opt (takes_assoc.mpr (takes_seq (takesText_one rfl)
        (takes_seq_group (takesText_datePattern d.isDate hstop) hmarks))))
    rintro x ⟨⟩
    decide +kernel

end HeaderLine

/-- **The tokens of a header that was put together** are those of its parts. -/
theorem lineTokens_headerLine (h : HeaderLine) (line : Int) :
    lineTokens h.chars line = .ok (h.tokens line) := by
  obtain ⟨parts, hline, htokens, hbody⟩ := h.exists_takes_body
  have hchars : LinePart.lineOf (h.dateParts ++ (h.markParts ++ parts)) = h.chars := by
    rw [HeaderLine.chars, HeaderLine.parts]
    simp only [LinePart.lineOf_append, hline]
  have hread : ∀ found, LineRule.transaction.pattern.match? h.chars = some found →
      readLine? h.chars = some ⟨3, .transaction, found⟩ := by
    intro found hfound
    obtain ⟨x, xs, hdate, hx⟩ := exists_digit_of_fits h.date.fits
    obtain ⟨others, hothers⟩ : ∃ others, h.chars = x :: others :=
      ⟨xs ++ LinePart.lineOf (DateText.secondParts h.secondDate ++ (h.markParts ++ h.bodyParts)), by
        rw [← List.cons_append, ← hdate]
        rfl⟩
    rw [hothers] at hfound ⊢
    exact readLine?_of_digit hx hfound
  have hresult := lineTokens_of_takes rfl (hchars ▸ hread) (h.takes_transaction hline hbody) line
  rw [hchars] at hresult
  rw [hresult, HeaderLine.tokens, HeaderLine.parts]
  simp only [LinePart.tokensFrom_append, htokens]

end Daybook.Journal
