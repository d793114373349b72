import Daybook.Proofs.Builder.Concatenation
import Daybook.Proofs.Builder.Effect
import Daybook.Proofs.Journal.HeaderLine

/-!
# Headers that are built

A header that stands alone in a text is recorded as one transaction, with the status, the code, the
payee and the note that the header was put together from.

* `StatusText.value`, `CodeText.value`, `PayeeText.value`, `NoteText.value`: what the parts of a header
  say.
* `Says`: what parts of a line say about the transaction that is being read; `says_status`, …
* `HeaderLine.withoutReturns`: the header that is left when carriage returns at the end are taken off.
* `lineTokens_and_ofText_headerLine`: the tokens of a header and the transaction that is recorded.
-/

namespace Daybook

open Calendar Journal Text Amount

namespace Journal

/-! ## What the parts of a header say -/

/-- The status of a marker. -/
def StatusText.value (s : StatusText) : Status :=
  if s.marker = '*' then .cleared else .pending

/-- The code between the parentheses; none if nothing but blanks stands there. -/
def CodeText.value (c : CodeText) : Option String :=
  if trimChars c.inner = [] then none else some (String.ofList (trimChars c.inner))

/-- The payee in its normal form. -/
def PayeeText.value (p : PayeeText) : String :=
  payeeName (String.ofList p.chars)

def NoteText.value (n : NoteText) : String :=
  String.ofList n.chars

theorem ofMarker?_eq (s : StatusText) :
    Status.ofMarker? (String.ofList [s.marker]) = some s.value := by
  rw [StatusText.value]
  rcases isStatus_iff.mp s.isStatus_marker with h | h <;> rw [h] <;> decide

def isParenthesis (c : Char) : Bool :=
  c == '(' || c == ')'

/-- The parentheses of a code are taken off. -/
theorem cleanCode?_eq (c : CodeText) : Builder.cleanCode? (String.ofList c.chars) = c.value := by
  have hplain : ∀ x ∈ c.inner, ¬isParenthesis x = true := fun x hx => by
    simpa [isParenthesis] using c.plain x hx
  have hinner : (c.chars.dropWhile isParenthesis).rdropWhile isParenthesis = c.inner := by
    have hfirst : isParenthesis '(' = true := rfl
    rw [CodeText.chars, List.dropWhile_cons_of_pos hfirst]
    cases hc : c.inner with
    | nil => rfl
    | cons x xs =>
      rw [hc] at hplain
      rw [List.cons_append, List.dropWhile_cons_of_neg (hplain x List.mem_cons_self),
        ← List.cons_append, List.rdropWhile_concat_pos _ _ _ rfl, List.rdropWhile_eq_self_iff]
      exact fun hne => hplain _ (List.getLast_mem hne)
  have hclean : Builder.cleanCode? (String.ofList c.chars) =
      if (trimChars c.inner).isEmpty then none
      else some (String.ofList (trimChars c.inner)) := by
    rw [← hinner, Builder.cleanCode?, String.toList_ofList]
    rfl
  rw [hclean, CodeText.value]
  simp only [List.isEmpty_iff]

end Journal

namespace Builder

open BuildM

/-! ## Reading a header -/

theorem readHeader_append (t : OpenTransaction) (tokens others : List Token) :
    readHeader t (tokens ++ others) =
      (readHeader t tokens).bind fun t' => readHeader t' others := by
  induction tokens generalizing t with
  | nil => rfl
  | cons tok rest ih =>
    rw [List.cons_append, readHeader, readHeader]
    cases readHeaderToken t tok with
    | error e => rfl
    | ok t' => exact ih t'

theorem readHeader_singleton (t : OpenTransaction) (tok : Token) :
    readHeader t [tok] = readHeaderToken t tok := by
  rw [readHeader]
  cases readHeaderToken t tok <;> rfl

/-- What parts of a line say about the transaction that is being read. -/
def Says (parts : List LinePart) (f : OpenTransaction → OpenTransaction) : Prop :=
  ∀ t line column, readHeader t (LinePart.tokensFrom line column parts) = .ok (f t)

theorem Says.append {parts others : List LinePart} {f g : OpenTransaction → OpenTransaction}
    (hf : Says parts f) (hg : Says others g) : Says (parts ++ others) (g ∘ f) := by
  intro t line column
  rw [LinePart.tokensFrom_append, readHeader_append, hf]
  exact hg (f t) line _

theorem says_secondParts (d : Option DateText) : Says (DateText.secondParts d) id := by
  intro t line column
  cases d <;> rfl

theorem says_status (s : Option StatusText) : Says (StatusText.parts s)
    fun t => { t with status := (s.map StatusText.value).getD t.status } := by
  intro t line column
  cases s with
  | none => rfl
  | some s =>
    change readHeader t [⟨.status, String.ofList [s.marker], line, _⟩] = _
    rw [readHeader_singleton, readHeaderToken]
    simp only [ofMarker?_eq, Option.map_some, Option.getD_some]

theorem says_code (c : Option CodeText) : Says (CodeText.parts c)
    fun t => { t with code := c.elim t.code CodeText.value } := by
  intro t line column
  cases c with
  | none => rfl
  | some c =>
    change readHeader t [⟨.code, String.ofList c.chars, line, _⟩] = _
    rw [readHeader_singleton, readHeaderToken]
    simp only [cleanCode?_eq, Option.elim_some]

theorem says_payee (p : Option PayeeText) : Says (PayeeText.parts p)
    fun t => { t with payee := (p.map PayeeText.value).getD t.payee } := by
  intro t line column
  cases p with
  | none => rfl
  | some p => rfl

/-- Tags say nothing about a transaction but its tags. -/
theorem readHeader_tags (t : OpenTransaction) (line : Int) (column : Nat) (tags : List TagMatch) :
    readHeader t (tags.flatMap (tagTokens line column)) = .ok t := by
  induction tags with
  | nil => rfl
  | cons tag tags ih => exact ih

theorem says_note (n : Option NoteText) : Says (NoteText.parts n)
    fun t => { t with note := n.elim t.note fun n => some n.value } := by
  intro t line column
  cases n with
  | none => rfl
  | some n =>
    have hsome : ¬(String.ofList n.chars).isEmpty = true := by simpa using n.ne_nil
    change readHeader t (trimmedToken .note n.chars line _ :: _ ++ []) = _
    rw [List.append_nil, trimmedToken_eq _ n.noBlankEnds, readHeader, readHeaderToken]
    simp only [if_neg hsome]
    exact readHeader_tags _ line _ _

theorem says_comment (c : Option CommentText) : Says (CommentText.parts c) id := by
  intro t line column
  cases c with
  | none => rfl
  | some c =>
    change readHeader t (_ ++ []) = _
    rw [List.append_nil]
    exact readHeader_tags _ line _ _

/-- The transaction that a header starts. -/
def headerTransaction (h : HeaderLine) (line : Int) (date : Date) : OpenTransaction where
  line
  date
  payee := (h.payee.map PayeeText.value).getD ""
  status := (h.status.map StatusText.value).getD .unmarked
  code := h.code.bind CodeText.value
  note := h.note.map NoteText.value
  tags := []
  postings := []
  badLines := []

/-- **What the tokens behind the date of a header say.** -/
theorem readHeader_header (h : HeaderLine) (line : Int) (column : Nat) (date : Date) :
    readHeader ⟨line, date, "", .unmarked, none, none, [], [], []⟩
        (LinePart.tokensFrom line column
          (DateText.secondParts h.secondDate ++ (h.markParts ++ h.bodyParts))) =
      .ok (headerTransaction h line date) := by
  have hlaw := (says_secondParts h.secondDate).append
    (((says_status h.status).append (says_code h.code)).append
      ((says_payee h.payee).append ((says_note h.note).append (says_comment h.comment))))
  refine (hlaw _ line column).trans (congrArg Except.ok ?_)
  simp only [Function.comp_apply, id_eq, headerTransaction]
  cases h.code <;> cases h.note <;> rfl

theorem readDate_of_read {b : Builder} {raw : String} {date : Date}
    (h : Date.read b.options.dateOrder b.defaultYear b.options.today (some raw) = .ok date) :
    b.readDate raw = .ok (some date) := by
  rw [readDate, h]

/-- A header in front of which no transaction is being read starts one. -/
theorem outcome_handleLine_header (h : HeaderLine) {line : Int} {b : Builder} {date : Date}
    (hopen : b.openTransaction = none)
    (hdate : b.readDate (String.ofList h.date.chars) = .ok (some date)) :
    ∃ tags, outcome (handleLine (LinePart.tokensFrom line 0 h.parts) line) b =
      .ok ((), { b.idle with
        openTransaction := some { headerTransaction h line date with tags } }) := by
  have htokens : LinePart.tokensFrom line 0 h.parts =
      ⟨.date, String.ofList h.date.chars, line, 0⟩ :: LinePart.tokensFrom line
        (0 + h.date.chars.length)
          (DateText.secondParts h.secondDate ++ (h.markParts ++ h.bodyParts)) := rfl
  refine ⟨tagPairs (LinePart.tokensFrom line (0 + h.date.chars.length)
    (DateText.secondParts h.secondDate ++ (h.markParts ++ h.bodyParts))), ?_⟩
  have hidle : b.idle.readDate (String.ofList h.date.chars) = .ok (some date) := hdate
  rw [htokens, outcome_handleLine_dated rfl _ hopen, outcome_openTransactionAt, hidle]
  simp only [readHeader_header]

end Builder

namespace Text

/-- What is taken off at the end of a text is taken off its last part. -/
theorem dropEndWhile_append {p : Char → Bool} {cs : List Char}
    (hlast : ∀ x ∈ cs.getLast?, p x = false) (cs' : List Char) :
    dropEndWhile p (cs ++ cs') = cs ++ dropEndWhile p cs' := by
  have hself : cs.rdropWhile p = cs := by
    rw [List.rdropWhile_eq_self_iff]
    intro hne
    rw [hlast _ (List.getLast?_eq_some_getLast hne)]
    decide
  rw [dropEndWhile_eq_rdropWhile, dropEndWhile_eq_rdropWhile]
  induction cs' using List.reverseRecOn with
  | nil => rw [List.append_nil, hself, List.rdropWhile_nil, List.append_nil]
  | append_singleton xs x ih =>
    rw [← List.append_assoc, List.rdropWhile_concat, List.rdropWhile_concat, ih]
    split
    · rfl
    · rw [List.append_assoc]

end Text

namespace Journal

/-- A text without line breaks is one line. -/
theorem textLines_of_not_mem {cs : List Char} (hne : cs ≠ []) (h : '\n' ∉ cs) :
    textLines (String.ofList cs) = [dropEndWhile (· == '\r') cs] := by
  have hlast : ¬[cs].getLast? = some [] := by simpa using hne
  rw [textLines, String.toList_ofList, splitAt_of_not_mem h]
  simp only [if_neg hlast]
  rfl

/-- The comment without carriage returns at its end. -/
def CommentText.withoutReturns (c : CommentText) : CommentText where
  gaps := c.gaps
  chars := dropEndWhile (· == '\r') c.chars
  isGap_gaps := c.isGap_gaps
  inline h := c.inline ((List.rdropWhile_prefix _ c.chars).subset h)

namespace HeaderLine

variable (h : HeaderLine)

/-- The header without carriage returns at its end. -/
def withoutReturns : HeaderLine :=
  { h with comment := h.comment.map CommentText.withoutReturns }

/-- Whether a text does not end with a blank. -/
def EndsSolid (cs : List Char) : Prop :=
  ∀ x ∈ cs.getLast?, isBlank x = false

theorem EndsSolid.append {cs cs' : List Char} (h : EndsSolid cs) (h' : EndsSolid cs') :
    EndsSolid (cs ++ cs') := by
  intro x hx
  by_cases hne : cs' = []
  · rw [hne, List.append_nil] at hx
    exact h x hx
  · rw [List.getLast?_append_of_ne_nil _ hne] at hx
    exact h' x hx

theorem endsSolid_nil : EndsSolid [] :=
  nofun

theorem endsSolid_word {word : List Char} (hends : NoBlankEnds word) (hne : word ≠ [])
    (cs : List Char) : EndsSolid (cs ++ (word ++ [])) := by
  intro x hx
  rw [List.append_nil, List.getLast?_append_of_ne_nil _ hne] at hx
  exact hends.last x hx

/-- The characters in front of the comment. -/
def front : List LinePart :=
  h.dateParts ++ (h.markParts ++ (PayeeText.parts h.payee ++ NoteText.parts h.note))

theorem chars_eq :
    h.chars = LinePart.lineOf h.front ++ LinePart.lineOf (CommentText.parts h.comment) := by
  rw [← LinePart.lineOf_append, chars, parts, front, bodyParts]
  simp only [List.append_assoc]

/-- In front of its comment, a header does not end with a blank. -/
theorem endsSolid_front : EndsSolid (LinePart.lineOf h.front) := by
  have hdate : EndsSolid h.date.chars := h.date.noBlankEnds.last
  have hsecond : EndsSolid (LinePart.lineOf (DateText.secondParts h.secondDate)) := by
    cases h.secondDate with
    | none => exact endsSolid_nil
    | some d => exact endsSolid_word d.noBlankEnds d.ne_nil ['=']
  have hstatus : EndsSolid (LinePart.lineOf (StatusText.parts h.status)) := by
    cases h.status with
    | none => exact endsSolid_nil
    | some s => exact endsSolid_word (noBlankEnds_singleton
        (isBlank_of_isStatus s.isStatus_marker)) (List.cons_ne_nil _ _) s.gaps
  have hcode : EndsSolid (LinePart.lineOf (CodeText.parts h.code)) := by
    cases h.code with
    | none => exact endsSolid_nil
    | some c => exact endsSolid_word c.noBlankEnds (List.cons_ne_nil _ _) c.gaps
  have hpayee : EndsSolid (LinePart.lineOf (PayeeText.parts h.payee)) := by
    cases h.payee with
    | none => exact endsSolid_nil
    | some p => exact endsSolid_word p.noBlankEnds p.ne_nil p.gaps
  have hnote : EndsSolid (LinePart.lineOf (NoteText.parts h.note)) := by
    cases h.note with
    | none => exact endsSolid_nil
    | some n => exact endsSolid_word n.noBlankEnds n.ne_nil [' ', '|', ' ']
  rw [front, dateParts, markParts]
  simp only [LinePart.lineOf_append, LinePart.lineOf_cons]
  exact (hdate.append hsecond).append ((hstatus.append hcode).append (hpayee.append hnote))

theorem chars_withoutReturns : h.withoutReturns.chars = dropEndWhile (· == '\r') h.chars := by
  have hsolid : ∀ {x : Char}, isBlank x = false → (x == '\r') = false := fun hx =>
    beq_eq_false_iff_ne.mpr fun heq => by
      rw [heq] at hx
      cases hx
  have hfront : h.withoutReturns.front = h.front := rfl
  rw [chars_eq, chars_eq, hfront, withoutReturns]
  cases h.comment with
  | none =>
    exact (dropEndWhile_append (fun x hx => hsolid (h.endsSolid_front x hx)) []).symm
  | some c =>
    have hsign : ∀ cs : List Char, LinePart.lineOf h.front ++ (c.gaps ++ ([';'] ++ (cs ++ []))) =
        LinePart.lineOf h.front ++ c.gaps ++ [';'] ++ cs := fun cs => by simp
    have hlast : ∀ x ∈ (LinePart.lineOf h.front ++ c.gaps ++ [';']).getLast?,
        (x == '\r') = false := by
      intro x hx
      rw [List.getLast?_concat] at hx
      cases hx
      decide
    change _ ++ (c.gaps ++ ([';'] ++ (c.withoutReturns.chars ++ []))) =
      dropEndWhile _ (_ ++ (c.gaps ++ ([';'] ++ (c.chars ++ []))))
    rw [hsign, hsign, dropEndWhile_append hlast]
    rfl

/-- The rule that a header falls under, with its tokens. -/
theorem exists_readLine? (line : Int) :
    ∃ r, readLine? h.chars = some r ∧ r.tokens line = LinePart.tokensFrom line 0 h.parts := by
  have htokens := lineTokens_headerLine h line
  rw [lineTokens] at htokens
  cases hr : readLine? h.chars with
  | none =>
    rw [hr] at htokens
    cases htokens
  | some r =>
    rw [hr] at htokens
    exact ⟨r, rfl, List.append_cancel_right (Except.ok.inj htokens)⟩

end HeaderLine

end Journal

namespace Snapshot

open Builder BuildM

/-- **A header that stands alone in a text** is recorded as one transaction. -/
theorem exists_ofText_headerLine (h : HeaderLine) (hbreak : '\n' ∉ h.chars)
    {options : BuildOptions} {date : Date}
    (hdate : Date.read options.dateOrder options.defaultYear options.today
      (some (String.ofList h.date.chars)) = .ok date) :
    ∃ s tags, ofText options (String.ofList h.chars) = .ok s ∧
      s.transactions = [OpenTransaction.close { headerTransaction h 0 date with tags }] := by
  have hne : h.chars ≠ [] := List.append_ne_nil_of_left_ne_nil h.date.ne_nil _
  have hline : textLines (String.ofList h.chars) = [h.withoutReturns.chars] := by
    rw [textLines_of_not_mem hne hbreak, h.chars_withoutReturns]
  obtain ⟨r, hr, htokens⟩ := h.withoutReturns.exists_readLine? 0
  -- the state in which the line is handled reads dates like the first one
  have hread : ((Builder.start options).taking r 0 h.withoutReturns.chars.length).readDate
      (String.ofList h.withoutReturns.date.chars) = .ok (some date) :=
    readDate_of_read hdate
  obtain ⟨tags, hhandled⟩ := outcome_handleLine_header h.withoutReturns rfl hread
  rw [← htokens] at hhandled
  have hfeed : outcome (feedLineTokens 0 (textLines (String.ofList h.chars)))
      (Builder.start options) = .ok ((), { ((Builder.start options).taking r 0
        h.withoutReturns.chars.length).idle with
          openTransaction := some { headerTransaction h.withoutReturns 0 date with tags }
          pending := [] }) := by
    rw [hline, outcome_feedLineTokens_cons 0 _ [] rfl, hr]
    dsimp only
    rw [hhandled]
    rfl
  refine ⟨_, tags, ofText_eq_ok_iff.mpr ⟨_, hfeed, rfl, rfl⟩, ?_⟩
  change (Builder.closed _).snapshot.transactions = _
  rw [transactions_closed]
  rfl

/-- **What becomes of a header that was put together.**  Its line has the tokens of its parts; and if its
date is read, a text of this line alone is recorded as one transaction, which has the status, the code,
the payee and the note of the header. -/
theorem lineTokens_and_ofText_headerLine (h : HeaderLine) :
    (∀ line, lineTokens h.chars line = .ok (h.tokens line)) ∧
      ∀ (options : BuildOptions) (date : Date), '\n' ∉ h.chars →
        Date.read options.dateOrder options.defaultYear options.today
            (some (String.ofList h.date.chars)) = .ok date →
          ∃ s tags, ofText options (String.ofList h.chars) = .ok s ∧
            s.transactions =
              [{ date
                 payee := (h.payee.map PayeeText.value).getD ""
                 postings := []
                 status := (h.status.map StatusText.value).getD .unmarked
                 code := h.code.bind CodeText.value
                 note := h.note.map NoteText.value
                 tags
                 line := 0 }] :=
  ⟨lineTokens_headerLine h, fun _ _ hbreak hdate => exists_ofText_headerLine h hbreak hdate⟩

end Snapshot

/-- A header in which nothing is missing. -/
def Journal.HeaderLine.complete : HeaderLine where
  date := ⟨['2', '0', '2', '4'] ++ '-' :: (['0', '1'] ++ '-' :: ['0', '5']),
    .yearFirst ⟨forall_mem_of_all (by decide +kernel), by decide, by decide⟩ rfl
      ⟨forall_mem_of_all (by decide +kernel), by decide, by decide⟩ rfl
      ⟨forall_mem_of_all (by decide +kernel), by decide, by decide⟩⟩
  secondDate := some ⟨['1'] ++ '/' :: ['6'],
    .noYear ⟨forall_mem_of_all (by decide +kernel), by decide, by decide⟩ rfl
      ⟨forall_mem_of_all (by decide +kernel), by decide, by decide⟩⟩
  status := some ⟨'!', [' ', '\t'], rfl, by decide, forall_mem_of_all (by decide)⟩
  code := some ⟨['\t', '\t'], " a b ".toList, by decide, forall_mem_of_all (by decide),
    forall_mem_of_all (by decide)⟩
  payee := some ⟨[' ', ' ', ' '], "Кафе".toList, by decide, forall_mem_of_all (by decide),
    by decide, by decide +kernel, forall_mem_of_all (by decide), by rintro x ⟨⟩; decide⟩
  note := some ⟨"k: v | w".toList, by decide, by decide +kernel, forall_mem_of_all (by decide)⟩
  comment := some ⟨[' ', ' ', '\t'], "c\r".toList, forall_mem_of_all (by decide), by decide⟩

namespace Snapshot

/-- Every part of a header at once. -/
theorem lineTokens_and_ofText_headerLine_complete :
    HeaderLine.complete.chars =
        "2024-01-05=1/6 \t!\t\t( a b )   Кафе | k: v | w  \t;c\r".toList ∧
      lineTokens HeaderLine.complete.chars 7 = .ok
        [⟨.date, "2024-01-05", 7, 0⟩, ⟨.date, "1/6", 7, 11⟩, ⟨.status, "!", 7, 16⟩,
          ⟨.code, "( a b )", 7, 19⟩, ⟨.payee, "Кафе", 7, 29⟩, ⟨.note, "k: v | w", 7, 36⟩,
          ⟨.tagKey, "k", 7, 36⟩, ⟨.tagValue, "v | w", 7, 39⟩, ⟨.comment, "c", 7, 48⟩,
          ⟨.newline, "\n", 7, 50⟩] ∧
      ∃ s tags, ofText .plain (String.ofList HeaderLine.complete.chars) = .ok s ∧
        s.transactions = [⟨⟨2024, 1, 5, by decide⟩, "Кафе", [], .pending, some "a b",
          some "k: v | w", tags, 0⟩] := by
  obtain ⟨htokens, hbuild⟩ := lineTokens_and_ofText_headerLine HeaderLine.complete
  obtain ⟨s, tags, htext, htransactions⟩ :=
    hbuild .plain ⟨2024, 1, 5, by decide⟩ (by decide +kernel) (by decide +kernel)
  refine ⟨by decide +kernel, (htokens 7).trans (congrArg Except.ok (by decide +kernel)), s, tags,
    htext, ?_⟩
  have hpayee : (HeaderLine.complete.payee.map PayeeText.value).getD "" = "Кафе" := by
    decide +kernel
  have hcode : HeaderLine.complete.code.bind CodeText.value = some "a b" := by decide +kernel
  have hstatus : (HeaderLine.complete.status.map StatusText.value).getD .unmarked = .pending := rfl
  have hnote : HeaderLine.complete.note.map NoteText.value = some "k: v | w" := by decide +kernel
  rw [htransactions, hpayee, hcode, hstatus, hnote]

end Snapshot

end Daybook
