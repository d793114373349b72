import Daybook.Proofs.Journal.Marks

/-!
# The heading of a transaction

How the rule for transactions takes a line apart: dates, status and code, and then a body with a
payee, a note and a comment.

* `headingDates`, `headingMarks`, `headingBody`: the parts of the rule.
* `ReadLine.afterHeading`: what the rule leaves behind dates, status and code.
* `payeeText`: the text of the payee token.
* `reading_of_match`: where the heading ends, and which payee stands behind it.
* `readLine?_of_digit`: no other rule is asked about a line that starts with a digit.
-/

namespace Daybook

open Text Calendar

namespace Journal

/-! ## The reading of a journal -/

/-- The dates of a transaction. -/
def headingDates : Pattern Field :=
  .seq (.group .date datePattern) (.opt (.seq (.one (· == '=')) (.group .secondDate datePattern)))

/-- The status and the code of a transaction. -/
def headingMarks : Pattern Field :=
  .seq (.opt (.seq someGap (.group .status (.one isStatus))))
    (.opt (.seq someGap (.group .code (.all [.one (· == '('), .many (· != ')') 0,
      .one (· == ')')]))))

/-- The characters of a payee. -/
def isPayeeChar (c : Char) : Bool :=
  c != ';' && c != '|'

/-- What stands behind the heading of a transaction: payee, note and comment. -/
def headingBody : Pattern Field :=
  .all [.opt (.seq someGap (.group .payee (.few isPayeeChar))),
    .opt (.all [gap, .one (· == '|'), gap, .group .note body]), tail]

theorem scan_transaction {β : Type} (c : Cursor Field) (k : Cursor Field → Option β) :
    LineRule.transaction.pattern.scan c k =
      (Pattern.seq (.seq headingDates (.look LineRule.endsDate))
        (.seq headingMarks headingBody)).scan c k :=
  rfl

theorem leaves_headingDates (line : List Char) {γ : Type} :
    headingDates.leaves line = (datesPattern : Pattern γ).leaves line :=
  rfl

theorem leaves_headingMarks (line : List Char) {γ : Type} :
    headingMarks.leaves line = (marksPattern : Pattern γ).leaves line :=
  rfl

theorem endsDates_of_endsDate {rest : List Char} (h : LineRule.endsDate rest = true) :
    EndsDates rest := by
  intro c hc
  cases rest with
  | nil => cases hc
  | cons x xs =>
    cases hc
    simp only [LineRule.endsDate, List.head?_cons, Option.any_some, Bool.or_eq_true,
      beq_iff_eq, List.cons.injEq, reduceCtorEq, or_false] at h
    rcases h with (h | rfl) | ⟨rfl, -⟩
    · exact ⟨isDateChar_of_isGap h, ne_of_isGap h (by decide)⟩
    · exact ⟨by decide, by decide⟩
    · exact ⟨by decide, by decide⟩

theorem mem_leaves_tail {rest : List Char} (hrest : ∀ c ∈ rest.head?, c = ';')
    (hbreak : '\n' ∉ rest) : [] ∈ tail.leaves rest := by
  refine Pattern.mem_leaves_seq (Pattern.self_mem_leaves_many isGap rest) ?_
  have hend : [] ∈ (Pattern.atEnd : Pattern Field).leaves [] := List.mem_singleton_self []
  cases rest with
  | nil => exact Pattern.mem_leaves_seq (Pattern.self_mem_leaves_opt _ _) hend
  | cons x xs =>
    cases hrest x rfl
    have hinline : ∀ y ∈ xs, isInline y = true := fun y hy =>
      bne_iff_ne.mpr fun h => hbreak (h ▸ List.mem_cons_of_mem _ hy)
    have hall := Pattern.mem_leaves_run (γ := Field) .longest [] hinline (Nat.zero_le _)
    rw [List.append_nil] at hall
    exact Pattern.mem_leaves_seq (Pattern.mem_leaves_opt
      (Pattern.mem_leaves_seq (List.mem_singleton_self xs) hall)) hend

/-- What stands behind a payee is a note and a comment, each of them or not. -/
theorem mem_leaves_note_tail {rest : List Char} (hrest : ∀ c ∈ rest.head?, isPayeeChar c = false)
    (hbreak : '\n' ∉ rest) :
    [] ∈ (Pattern.seq (.opt (.all [gap, .one (· == '|'), gap, .group .note body])) tail).leaves
      rest := by
  have hgap : ∀ cs, cs ∈ (gap : Pattern Field).leaves cs := Pattern.self_mem_leaves_many isGap
  by_cases hbar : ∃ note, rest = '|' :: note
  · obtain ⟨note, rfl⟩ := hbar
    have hsplit := List.takeWhile_append_dropWhile (p := isBody) (l := note)
    have hnote := Pattern.mem_leaves_run (γ := Field) .shortest (note.dropWhile isBody)
      (fun y hy => List.mem_takeWhile_imp hy) (Nat.zero_le (note.takeWhile isBody).length)
    rw [hsplit] at hnote
    refine Pattern.mem_leaves_seq (Pattern.mem_leaves_opt (Pattern.mem_leaves_seq (hgap _)
      (Pattern.mem_leaves_seq (List.mem_singleton_self note)
        (Pattern.mem_leaves_seq (hgap note) hnote)))) (mem_leaves_tail ?_ ?_)
    · intro c hc
      simpa [isBody] using head_dropWhile isBody note c hc
    · exact fun h => hbreak (List.mem_cons_of_mem _ ((List.dropWhile_suffix _).subset h))
  · refine Pattern.mem_leaves_seq (Pattern.self_mem_leaves_opt _ _) (mem_leaves_tail ?_ hbreak)
    intro c hc
    have hstop := hrest c hc
    rw [isPayeeChar, Bool.and_eq_false_iff, bne_eq_false_iff_eq, bne_eq_false_iff_eq] at hstop
    rcases hstop with rfl | rfl
    · rfl
    · exact absurd ⟨_, (List.eq_cons_of_mem_head? hc)⟩ hbar

/-- Whatever starts with a gap can follow the heading of a transaction. -/
theorem leaves_headingBody_ne_nil {x : Char} {xs : List Char} (hx : isGap x = true)
    (hbreak : '\n' ∉ xs) : headingBody.leaves (x :: xs) ≠ [] := by
  have hsplit := List.takeWhile_append_dropWhile (p := isPayeeChar) (l := xs)
  have hrun := Pattern.mem_leaves_run (γ := Field) .shortest (xs.dropWhile isPayeeChar)
    (fun y hy => List.mem_takeWhile_imp hy) (Nat.zero_le (xs.takeWhile isPayeeChar).length)
  rw [hsplit] at hrun
  have hgap : xs ∈ (someGap : Pattern Field).leaves (x :: xs) :=
    Pattern.mem_leaves_many_one hx xs
  have hrest := mem_leaves_note_tail (head_dropWhile isPayeeChar xs) fun h => hbreak ((List.dropWhile_suffix _).subset h)
  exact List.ne_nil_of_mem (Pattern.mem_leaves_seq
    (Pattern.mem_leaves_opt (Pattern.mem_leaves_seq hgap hrun)) hrest)

theorem isPayeeChar_of_isGap {c : Char} (h : isGap c = true) : isPayeeChar c = true := by
  rw [isPayeeChar, Bool.and_eq_true, bne_iff_ne, bne_iff_ne]
  exact ⟨ne_of_isGap h (by decide), ne_of_isGap h (by decide)⟩

/-- In front of a note or a comment, only gaps stand behind a payee. -/
theorem isGap_of_fits_note_tail {cs : List Char} {fs : List (Field × List Char)}
    (h : (Pattern.seq (.opt (.all [gap, .one (· == '|'), gap, .group .note body])) tail).Fits
      cs fs) : ∀ c ∈ cs.takeWhile isPayeeChar, isGap c = true := by
  have hgaps : ∀ {gaps rest : List Char}, (∀ c ∈ gaps, isGap c = true) →
      (∀ c ∈ rest.head?, isPayeeChar c = false) →
        ∀ c ∈ (gaps ++ rest).takeWhile isPayeeChar, isGap c = true := by
    intro gaps rest hgaps hrest c hc
    rw [takeWhile_append_of_stop (fun x hx => isPayeeChar_of_isGap (hgaps x hx)) hrest] at hc
    exact hgaps c hc
  obtain ⟨note, _, behind, _, hnote, htail, rfl, -⟩ := h
  rcases hnote with hnote | ⟨rfl, -⟩
  · obtain ⟨gaps, _, rest, _, hgap, hbar, rfl, -⟩ := Pattern.fits_all_cons.mp hnote
    obtain ⟨_, _, more, _, ⟨y, hy, rfl, -⟩, -, rfl, -⟩ := Pattern.fits_all_cons.mp hbar
    cases beq_iff_eq.mp hy
    rw [List.append_assoc]
    refine hgaps (Pattern.fits_many.mp hgap).1 ?_
    rintro c ⟨⟩
    decide
  · obtain ⟨gaps, _, rest, _, hgap, hrest, rfl, -⟩ := Pattern.fits_all_cons.mp htail
    rw [List.nil_append]
    refine hgaps (Pattern.fits_many.mp hgap).1 ?_
    obtain ⟨comment, _, last, _, hcomment, hend, rfl, -⟩ := Pattern.fits_all_cons.mp hrest
    obtain ⟨rfl, -⟩ := Pattern.fits_atEnd.mp hend
    rcases hcomment with ⟨_, _, _, _, ⟨y, hy, rfl, -⟩, -, rfl, -⟩ | ⟨rfl, -⟩
    · cases beq_iff_eq.mp hy
      rintro c ⟨⟩
      decide
    · rintro c ⟨⟩

/-- The payee of a transaction is what stands in front of the first bar or semicolon. -/
theorem payee_of_fits {cs : List Char} {fs : List (Field × List Char)}
    (h : headingBody.Fits cs fs) :
    ∃ payee others, trimChars (cs.takeWhile isPayeeChar) = trimChars payee ∧
      (∀ f ∈ others, f.1 = .note ∨ f.1 = .comment) ∧
      ((fs = (.payee, payee) :: others ∧ cs.head?.any isGap = true) ∨
        (fs = others ∧ payee = [])) := by
  obtain ⟨front, fs₁, behind, fs₂, hpayee, hbehind, rfl, rfl⟩ := Pattern.fits_all_cons.mp h
  have hblank : ∀ c ∈ behind.takeWhile isPayeeChar, isBlank c = true := fun c hc =>
    isBlank_of_isGap (isGap_of_fits_note_tail hbehind c hc)
  have hothers : ∀ f ∈ fs₂, f.1 = .note ∨ f.1 = .comment := by
    intro f hf
    have hlabel : f.1 ∈ [Field.note, Field.comment] := Pattern.Fits.label_mem hbehind hf
    simpa using hlabel
  rcases hpayee with ⟨gaps, _, payee, _, hgap, ⟨_, hrun, rfl⟩, rfl, rfl⟩ | ⟨rfl, rfl⟩
  · obtain ⟨hchars, rfl⟩ := Pattern.fits_few.mp hrun
    obtain ⟨hgaps, hlength, rfl⟩ := Pattern.fits_many.mp hgap
    have hfront : ∀ c ∈ gaps ++ payee, isPayeeChar c = true := by
      intro c hc
      rcases List.mem_append.mp hc with hc | hc
      · exact isPayeeChar_of_isGap (hgaps c hc)
      · exact hchars c hc
    refine ⟨payee, fs₂, ?_, hothers, .inl ⟨rfl, ?_⟩⟩
    · rw [List.takeWhile_append_of_pos hfront, trimChars_append_of_blank_right hblank,
        trimChars_append_of_blank_left fun c hc => isBlank_of_isGap (hgaps c hc)]
    · obtain ⟨x, xs, rfl⟩ := List.exists_cons_of_length_pos hlength
      exact hgaps x List.mem_cons_self
  · exact ⟨[], fs₂, trimChars_eq_nil_iff.mpr hblank, hothers, .inr ⟨rfl, rfl⟩⟩

/-! ## Tokens -/

/-- The text of the payee among some tokens, empty if there is none. -/
def payeeText (tokens : List Token) : String :=
  ((Builder.firstOf? .payee tokens).map (·.text)).getD ""

theorem payeeText_eq (tokens : List Token) :
    payeeText tokens =
      (((tokens.map Token.content).find? (·.1 = .payee)).map (·.2)).getD "" := by
  rw [payeeText, Builder.firstOf?, List.find?_map, Option.map_map]
  rfl

theorem find?_payee_eq_none {symbolAlone : Bool} {fs : List (Field × List Char)}
    (h : ∀ f ∈ fs, f.1 ≠ .payee) :
    (fs.flatMap (fieldContents symbolAlone)).find? (·.1 = .payee) = none := by
  refine List.find?_eq_none.mpr fun content hcontent hkind => ?_
  obtain ⟨f, hf, hcontent⟩ := List.mem_flatMap.mp hcontent
  obtain ⟨tok, htok, rfl⟩ := List.mem_map.mp hcontent
  exact h f hf (payee_of_mem_fieldTokens htok (of_decide_eq_true hkind))

/-- The text of the payee token is that of the payee field. -/
theorem payeeText_tokens {r : ReadLine} {heads fs others : List (Field × List Char)}
    {payee : List Char} (hfields : r.fields = heads ++ fs) (hheads : ∀ f ∈ heads, f.1 ≠ .payee)
    (hothers : ∀ f ∈ others, f.1 ≠ .payee)
    (hfs : fs = (.payee, payee) :: others ∨ (fs = others ∧ payee = [])) (line : Int) :
    payeeText (r.tokens line) = String.ofList (trimChars payee) := by
  rw [payeeText_eq, r.contents_tokens, hfields, List.flatMap_append, List.find?_append,
    find?_payee_eq_none hheads, Option.none_or]
  rcases hfs with rfl | ⟨rfl, rfl⟩
  · rw [List.flatMap_cons, List.find?_append, find?_payee_eq_none hothers, Option.or_none]
    by_cases hblank : trimChars payee = []
    · simp [fieldContents, fieldTokens, Field.tokenKind, hblank]
    · rw [fieldContents_plain .payee (by decide) hblank]
      rfl
  · rw [find?_payee_eq_none hothers]
    rfl

/-! ## The heading -/

/-- The fields of the heading of a transaction. -/
def headingFields : List Field := [.date, .secondDate, .status, .code]

/-- What a rule leaves of a line behind its dates, its status and its code. -/
def ReadLine.afterHeading (r : ReadLine) : List Char :=
  match r.found.spans.find? (·.label ∈ headingFields) with
  | some s => r.found.text.drop s.stop
  | none => r.found.text

/-- Whether the latest field is one of the heading that ends at the cursor. -/
def EndsHeading (c : Cursor Field) : Prop :=
  ∃ s ss, c.spans = s :: ss ∧ s.label ∈ headingFields ∧ s.stop = c.pos

theorem EndsHeading.of_opt {c c' : Cursor Field} {p q : Pattern Field} {label : Field}
    (hc : EndsHeading c) (hlabel : label ∈ headingFields)
    (h : c' ∈ (Pattern.opt (.seq q (.group label p))).outcomes c) : EndsHeading c' := by
  rcases List.mem_append.mp h with h | h
  · obtain ⟨mid, -, h⟩ := List.mem_flatMap.mp h
    obtain ⟨last, -, rfl⟩ := List.mem_map.mp h
    exact ⟨_, _, rfl, hlabel, rfl⟩
  · cases List.mem_singleton.mp h
    exact hc

/-- The heading ends with one of its fields. -/
theorem endsHeading_of_mem_outcomes {start dates marks : Cursor Field}
    (hdates : dates ∈ headingDates.outcomes start) (hmarks : marks ∈ headingMarks.outcomes dates) :
    EndsHeading marks := by
  obtain ⟨first, hfirst, hsecond⟩ := List.mem_flatMap.mp hdates
  obtain ⟨last, -, rfl⟩ := List.mem_map.mp hfirst
  obtain ⟨status, hstatus, hcode⟩ := List.mem_flatMap.mp hmarks
  have hlabel : Field.date ∈ headingFields := by decide
  have hdate : EndsHeading (Pattern.record .date start last) := ⟨_, _, rfl, hlabel, rfl⟩
  exact ((hdate.of_opt (by decide) hsecond).of_opt (by decide) hstatus).of_opt (by decide) hcode

/-- Behind the heading only other fields are recorded, so its end is where its latest field ends. -/
theorem ReadLine.afterHeading_eq {r : ReadLine} {c : Cursor Field} {new : List (Span Field)}
    (hspans : r.found.spans = new ++ c.spans) (hc : EndsHeading c)
    (hnew : ∀ s ∈ new, s.label ∉ headingFields) :
    r.afterHeading = r.found.text.drop c.pos := by
  obtain ⟨s, ss, hcspans, hlabel, hstop⟩ := hc
  have hnone : new.find? (·.label ∈ headingFields) = none :=
    List.find?_eq_none.mpr fun t ht h => hnew t ht (of_decide_eq_true h)
  have hfind : r.found.spans.find? (·.label ∈ headingFields) = some s := by
    rw [hspans, hcspans, List.find?_append, hnone, Option.none_or]
    exact List.find?_cons_of_pos (decide_eq_true hlabel)
  rw [ReadLine.afterHeading, hfind]
  exact congrArg r.found.text.drop hstop

/-- The fields of the heading are those it is named for. -/
theorem mem_headingFields_of_mem_outcomes {text : List Char} {start dates marks : Cursor Field}
    (hstart : start.spans = []) (hdrop : text.drop start.pos = start.rest)
    (hdates : dates ∈ headingDates.outcomes start) (hmarks : marks ∈ headingMarks.outcomes dates) :
    ∀ f ∈ marks.spans.reverse.map (Match.fieldOf text), f.1 ∈ headingFields := by
  have hboth : marks ∈ (Pattern.seq headingDates headingMarks).outcomes start :=
    List.mem_flatMap.mpr ⟨dates, hdates, hmarks⟩
  obtain ⟨_, new, hfits, -, -, hspans⟩ := Pattern.fits_of_mem_outcomes text hboth hdrop
  rw [hspans, hstart, List.append_nil]
  exact fun f hf => hfits.label_mem hf

theorem toEnd_tail : tail.ToEnd :=
  .seq (.seq Pattern.toEnd_atEnd)

/-- The body of a transaction goes to the end of the line. -/
theorem toEnd_headingBody : headingBody.ToEnd :=
  .seq (.seq toEnd_tail)

/-- What is read behind the heading of a transaction. -/
theorem reading_of_scan_body {line : List Char} {r : ReadLine} {marks : Cursor Field}
    (hbreak : '\n' ∉ marks.rest) (hdrop : line.drop marks.pos = marks.rest)
    (hends : EndsHeading marks)
    (hheading : ∀ f ∈ marks.spans.reverse.map (Match.fieldOf line), f.1 ∈ headingFields)
    (h : headingBody.scan marks (fun c => some ⟨line, 0, c.pos, c.spans⟩) = some r.found) :
    r.afterHeading = marks.rest ∧
      ∀ n, payeeText (r.tokens n) = String.ofList (trimChars (marks.rest.takeWhile isPayeeChar)) ∧
        (payeeText (r.tokens n) ≠ "" → marks.rest.head?.any isGap = true) := by
  obtain ⟨htext, new, hspans, hfits⟩ :=
    toEnd_headingBody.fits_of_scan hbreak hdrop h
  have hnew : ∀ s ∈ new, s.label ∉ headingFields := by
    intro s hs
    have hlabel : s.label ∈ [Field.payee, Field.note, Field.comment] :=
      hfits.label_mem (List.mem_map_of_mem (List.mem_reverse.mpr hs))
    simp only [List.mem_cons, List.not_mem_nil, or_false] at hlabel
    rcases hlabel with h | h | h <;> rw [h] <;> decide
  have hfields : r.fields = marks.spans.reverse.map (Match.fieldOf line) ++
      new.reverse.map (Match.fieldOf line) := by
    rw [ReadLine.fields, Match.fields, hspans, htext, List.reverse_append, List.map_append]
  obtain ⟨payee, others, htrim, hothers, hfs⟩ := payee_of_fits hfits
  have hnot : ∀ f ∈ others, f.1 ≠ .payee := by
    intro f hf
    rcases hothers f hf with h | h <;> rw [h] <;> decide
  have hnot' : ∀ f ∈ marks.spans.reverse.map (Match.fieldOf line), f.1 ≠ .payee := by
    intro f hf heq
    exact absurd (heq ▸ hheading f hf) (by decide)
  have hpayee := payeeText_tokens hfields hnot' hnot (hfs.imp_left And.left)
  refine ⟨?_, fun n => ⟨?_, fun hne => ?_⟩⟩
  · rw [ReadLine.afterHeading_eq hspans hends hnew, htext, hdrop]
  · rw [hpayee, htrim]
  · rcases hfs with ⟨-, hgap⟩ | ⟨-, rfl⟩
    · exact hgap
    · exact absurd (hpayee n) hne

/-- **The reading of a journal.**  The rule for transactions takes off the first marks behind which it
finds a body, and its payee is what stands there in front of the first bar or semicolon. -/
theorem reading_of_match {line : List Char} {r : ReadLine} (hbreak : '\n' ∉ line)
    (h : LineRule.transaction.pattern.match? line = some r.found) :
    (headingMarks.leaves (afterDates line)).find? (fun cs => !(headingBody.leaves cs).isEmpty) =
        some r.afterHeading ∧
      ∀ n, payeeText (r.tokens n) =
          String.ofList (trimChars (r.afterHeading.takeWhile isPayeeChar)) ∧
        (payeeText (r.tokens n) ≠ "" → r.afterHeading.head?.any isGap = true) := by
  rw [Pattern.match?, Pattern.matchAt?, scan_transaction, Pattern.scan,
    Pattern.scan_eq_findSome?] at h
  obtain ⟨dates, hdates, h⟩ := List.exists_of_findSome?_eq_some h
  obtain ⟨marks, hmarks, h, hfirst⟩ := Pattern.exists_first_of_seq (fun _ => rfl) h
  obtain ⟨_, hheading, hlook⟩ := List.mem_flatMap.mp hdates
  rw [Pattern.outcomes] at hlook
  split at hlook
  · rename_i hends
    cases List.mem_singleton.mp hlook
    -- the dates end where they do for every pattern
    have hrest : dates.rest = afterDates line :=
      eq_afterDates (γ := Field) (Pattern.mem_leaves_of_mem_outcomes hheading)
        (endsDates_of_endsDate hends)
    have hdrop : line.drop marks.pos = marks.rest :=
      Pattern.drop_of_mem_outcomes hmarks (Pattern.drop_of_mem_outcomes hheading rfl)
    have hbreak' : '\n' ∉ marks.rest := fun hmem => hbreak (List.mem_of_mem_drop (hdrop ▸ hmem))
    obtain ⟨hafter, hpayee⟩ := reading_of_scan_body hbreak' hdrop
      (endsHeading_of_mem_outcomes hheading hmarks)
      (mem_headingFields_of_mem_outcomes rfl rfl hheading hmarks) h
    rw [hafter, ← hrest]
    exact ⟨hfirst, hpayee⟩
  · cases hlook

/-! ## Lines that start with a digit -/

/-- The rules in front of the rule for transactions do not match a line that starts with a digit. -/
theorem readLine?_of_digit {x : Char} {xs : List Char} {found : Match Field}
    (hx : isDigit x = true) (h : LineRule.transaction.pattern.match? (x :: xs) = some found) :
    readLine? (x :: xs) = some ⟨3, .transaction, found⟩ := by
  have hne : ∀ {y : Char}, isDigit y = false → x ≠ y := by
    rintro y hy rfl
    rw [hx] at hy
    cases hy
  have hgap : ¬isGap x = true := fun h =>
    (isGap_iff.mp h).elim (hne (by decide)) (hne (by decide))
  have hgaps : (gap : Pattern Field).leaves (x :: xs) = [x :: xs] := by
    rw [gap, Pattern.leaves_many_zero_cons, if_neg hgap]
  have hone : ∀ {ok : Char → Bool}, ok x = false →
      (Pattern.one ok : Pattern Field).leaves (x :: xs) = [] := by
    intro ok hok
    exact if_neg (by rw [hok]; exact Bool.false_ne_true)
  have hend : (Pattern.atEnd : Pattern Field).leaves (x :: xs) = [] := by
    refine if_neg ?_
    simpa using fun h _ => absurd h (hne (by decide))
  have hblank : LineRule.blank.pattern.match? (x :: xs) = none :=
    Pattern.match?_eq_none_iff.mpr ((Pattern.leaves_seq_of_eq_singleton hgaps).trans hend)
  have hcomment : LineRule.comment.pattern.match? (x :: xs) = none := by
    have hindent : (Pattern.group Field.indent gap).leaves (x :: xs) = [x :: xs] := hgaps
    refine Pattern.match?_eq_none_iff.mpr ((Pattern.leaves_seq_of_eq_singleton hindent).trans
      (Pattern.leaves_seq_of_eq_nil (hone ?_)))
    rw [Bool.or_eq_false_iff, beq_eq_false_iff_ne, beq_eq_false_iff_ne]
    exact ⟨hne (by decide), hne (by decide)⟩
  have hstar : LineRule.starComment.pattern.match? (x :: xs) = none :=
    Pattern.match?_eq_none_iff.mpr (Pattern.leaves_seq_of_eq_nil
      (hone (beq_eq_false_iff_ne.mpr (hne (by decide)))))
  simp only [readLine?, LineRule.table, readLineFrom, hblank, hcomment, hstar, h]

end Journal

end Daybook
