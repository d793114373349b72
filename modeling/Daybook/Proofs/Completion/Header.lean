import Daybook.Cli.Run
import Daybook.Proofs.Journal.Heading

/-!
# Two readings of a header

The first line of a transaction is read twice: by the rule for transactions, when a journal is built,
and by the pattern for what stands behind a date, when the line is typed.  Both take off the dates, a
status and a code and find a payee in what is left.

They try the same ways to take off status and code in the same order, but they differ in what they
accept behind them: typed text must go on with a gap and something other than a lone status marker,
while the rule also accepts the end of the line, a note and a comment.  So the rule never goes on to a
later way than typed text; and where typed text does, what it takes for a payee starts with the mark
that it did not take off.  Where both take off the same marks, they differ only about a comment.

* `typedPayee`: the payee in typed text; `payeeOfLine?_eq`, `query_of_payeeLookup?` say what it is
  used for.
* `reading_of_afterDate`: where the heading of typed text ends, and which payee stands behind it.
* `ReadAlike`: what has to stand behind a heading for both readings to find the same payee.
* `typedPayee_eq_payeeText_iff`: then and only then do they.
-/

namespace Daybook

open Text Calendar

/-! ## The reading of typed text -/

namespace Completion

open Journal

/-- The payee in a match, in front of the first bar and without blanks. -/
def typedPayee (m : Match Typed) : String :=
  String.ofList (trimChars ((m.textD .payee).takeWhile (· != '|')))

/-- The payee that ranks the accounts of the next postings. -/
theorem payeeOfLine?_eq (line : String) :
    Cli.payeeOfLine? line = (afterDatePattern.match? line.toList).map fun m =>
      if typedPayee m = "" then none else some (typedPayee m) := by
  simp [Cli.payeeOfLine?, typedPayee]

/-- The payee that is looked up. -/
theorem query_of_payeeLookup? {before : List Char} {l : Lookup}
    (h : payeeLookup? before = some l) :
    ∃ m, afterDatePattern.match? before = some m ∧ l.query = typedPayee m := by
  obtain ⟨m, hm, h⟩ := Option.bind_eq_some_iff.mp h
  obtain ⟨span, hspan, h⟩ := Option.bind_eq_some_iff.mp h
  refine ⟨m, hm, ?_⟩
  have htext : m.textD .payee = Match.slice before span.start span.stop := by
    rw [Match.textD, Match.text?, hspan, (Pattern.fits_of_match? hm).1]
    rfl
  dsimp only at h
  split at h
  · cases h
  · rename_i hbar
    cases h
    have hall : ∀ c ∈ m.textD .payee, (c != '|') = true := by
      intro c hc
      rw [htext] at hc
      exact bne_iff_ne.mpr fun hc' => hbar (List.contains_iff_mem.mpr (hc' ▸ hc))
    rw [typedPayee, List.takeWhile_eq_self_iff.mpr hall, htext]

/-- What stands behind dates, status and code in typed text: a gap and a payee. -/
def typedBody : Pattern Typed :=
  .all [someGap, .group .payee (.seq (.look isNoLoneStatus) (.many isInline 0)), .atEnd]

theorem scan_afterDatePattern {β : Type} (c : Cursor Typed) (k : Cursor Typed → Option β) :
    afterDatePattern.scan c k =
      (Pattern.seq datesPattern (.seq marksPattern typedBody)).scan c k :=
  rfl

/-- Whether a text starts with a gap behind which no lone status marker stands. -/
def OpensPayee (rest : List Char) : Prop :=
  ∃ x xs, rest = x :: xs ∧ isGap x = true ∧ isNoLoneStatus xs = true

theorem isNoLoneStatus_of_ne {x : Char} (xs : List Char) (hx : isStatus x = false) :
    isNoLoneStatus (x :: xs) = true := by
  unfold isNoLoneStatus
  split
  · rename_i c heq
    cases heq
    rw [hx]
    rfl
  · rename_i c heq
    cases heq
    rw [hx]
    rfl
  · rfl

theorem leaves_typedPayee {text : List Char} (hbreak : '\n' ∉ text) :
    (Pattern.all [.group .payee (.seq (.look isNoLoneStatus) (.many isInline 0)), .atEnd] :
      Pattern Typed).leaves text = if isNoLoneStatus text then [[]] else [] := by
  have hinline : ∀ x ∈ text, isInline x = true := fun x hx =>
    bne_iff_ne.mpr fun h => hbreak (h ▸ hx)
  have hend : ∀ x xs, isInline x = true →
      (Pattern.atEnd : Pattern Typed).leaves (x :: xs) = [] := by
    intro x xs hx
    refine if_neg ?_
    simpa using fun h _ => bne_iff_ne.mp hx h
  have hall : (Pattern.seq (.many isInline 0) .atEnd : Pattern Typed).leaves text = [[]] := by
    rw [Pattern.leaves_many_seq hend, List.dropWhile_eq_nil_iff.mpr hinline]
    rfl
  by_cases hlone : isNoLoneStatus text = true
  · have hlook : (Pattern.look isNoLoneStatus : Pattern Typed).leaves text = [text] :=
      if_pos hlone
    have hgroup : (Pattern.group Typed.payee (.seq (.look isNoLoneStatus)
        (.many isInline 0))).leaves text = (Pattern.many isInline 0 : Pattern Typed).leaves text :=
      Pattern.leaves_seq_of_eq_singleton hlook
    rw [if_pos hlone, ← hall, Pattern.leaves, ← hgroup]
    rfl
  · have hlook : (Pattern.look isNoLoneStatus : Pattern Typed).leaves text = [] := if_neg hlone
    have hgroup : (Pattern.group Typed.payee (.seq (.look isNoLoneStatus)
        (.many isInline 0))).leaves text = [] := Pattern.leaves_seq_of_eq_nil hlook
    rw [if_neg hlone]
    exact Pattern.leaves_seq_of_eq_nil hgroup

/-- Any number of gaps opens a payee, if no lone status marker stands behind them. -/
theorem opensPayee_of_gaps {gaps text : List Char} (hne : gaps ≠ [])
    (hgaps : ∀ c ∈ gaps, isGap c = true) (hlone : isNoLoneStatus text = true) :
    OpensPayee (gaps ++ text) := by
  obtain ⟨x, xs, rfl⟩ := List.exists_cons_of_ne_nil hne
  refine ⟨x, xs ++ text, rfl, hgaps x List.mem_cons_self, ?_⟩
  cases xs with
  | nil => exact hlone
  | cons y ys =>
    refine isNoLoneStatus_of_ne _ (Bool.eq_false_iff.mpr fun hy => ?_)
    have hy' := hgaps y (List.mem_cons_of_mem _ List.mem_cons_self)
    rw [isGap_of_isStatus hy] at hy'
    cases hy'

/-- Typed text has a payee behind its marks if it goes on with a gap and no lone status marker. -/
theorem typedBody_leaves_ne_nil_iff {rest : List Char} (hbreak : '\n' ∉ rest) :
    typedBody.leaves rest ≠ [] ↔ OpensPayee rest := by
  constructor
  · intro h
    obtain ⟨last, hlast⟩ := List.exists_mem_of_ne_nil _ h
    obtain ⟨text, htext, hpayee⟩ := List.mem_flatMap.mp hlast
    obtain ⟨gaps, _, hgaps, rfl⟩ := Pattern.exists_fits_of_mem_leaves htext
    obtain ⟨hgap, hlength, -⟩ := Pattern.fits_many.mp hgaps
    rw [leaves_typedPayee fun h => hbreak (List.mem_append_right _ h)] at hpayee
    split at hpayee
    · rename_i hlone
      exact opensPayee_of_gaps (List.ne_nil_of_length_pos hlength) hgap hlone
    · cases hpayee
  · rintro ⟨x, xs, rfl, hx, hlone⟩
    have hgap : xs ∈ (someGap : Pattern Typed).leaves (x :: xs) :=
      Pattern.mem_leaves_many_one hx xs
    have hpayee := leaves_typedPayee fun h => hbreak (List.mem_cons_of_mem x h)
    rw [if_pos hlone] at hpayee
    refine List.ne_nil_of_mem (Pattern.mem_leaves_seq hgap ?_) (a := [])
    rw [hpayee]
    exact List.mem_singleton_self []

/-- A payee goes to the end of the line. -/
theorem toEnd_typedBody : typedBody.ToEnd :=
  .seq (.seq Pattern.toEnd_atEnd)

/-- Gaps in front make no difference to a payee. -/
theorem trimChars_takeWhile_gaps {gaps : List Char} (hgaps : ∀ c ∈ gaps, isGap c = true)
    (cs : List Char) :
    trimChars ((gaps ++ cs).takeWhile (· != '|')) = trimChars (cs.takeWhile (· != '|')) := by
  have hbar : ∀ c ∈ gaps, (c != '|') = true := fun c hc =>
    bne_iff_ne.mpr (ne_of_isGap (hgaps c hc) (by decide))
  rw [List.takeWhile_append_of_pos hbar,
    trimChars_append_of_blank_left fun c hc => isBlank_of_isGap (hgaps c hc)]

/-- What is typed behind the marks. -/
theorem typedPayee_of_scan_body {line : List Char} {marks : Cursor Typed} {m : Match Typed}
    (hbreak : '\n' ∉ marks.rest) (hdrop : line.drop marks.pos = marks.rest)
    (hspans : marks.spans = [])
    (h : typedBody.scan marks (fun c => some ⟨line, 0, c.pos, c.spans⟩) = some m) :
    typedPayee m = String.ofList (trimChars (marks.rest.takeWhile (· != '|'))) := by
  obtain ⟨htext, new, hnew, hfits⟩ :=
    toEnd_typedBody.fits_of_scan hbreak hdrop h
  obtain ⟨gaps, _, back, _, hgaps, hback, hrest, hfields⟩ := Pattern.fits_all_cons.mp hfits
  obtain ⟨payee, _, _, _, ⟨inner, hpayee, rfl⟩, hend, rfl, rfl⟩ := Pattern.fits_all_cons.mp hback
  obtain ⟨hgap, -, rfl⟩ := Pattern.fits_many.mp hgaps
  obtain ⟨rfl, rfl⟩ := Pattern.fits_atEnd.mp hend
  cases hpayee.eq_nil rfl
  obtain ⟨s, hs, hfield⟩ := List.map_eq_singleton_iff.mp hfields
  have hone : m.spans = [s] := by
    rw [hnew, hspans, List.append_nil, ← List.reverse_reverse new, hs, List.reverse_singleton]
  have hslice : m.textD .payee = payee := by
    have hlabel : s.label = .payee := congrArg Prod.fst hfield
    have hfind : m.span? .payee = some s := by
      rw [Match.span?, hone]
      exact List.find?_cons_of_pos (decide_eq_true hlabel)
    rw [Match.textD, Match.text?, hfind, htext]
    exact congrArg Prod.snd hfield
  rw [typedPayee, hslice, hrest, List.append_nil, trimChars_takeWhile_gaps hgap]

/-- **The reading of typed text.**  The pattern takes off the first marks behind which it finds a gap
and a payee, and the payee is what stands there in front of the first bar. -/
theorem reading_of_afterDate {line : List Char} {m : Match Typed} (hbreak : '\n' ∉ line)
    (h : afterDatePattern.match? line = some m) :
    afterDates line ∈ (datesPattern : Pattern Typed).leaves line ∧
      (afterDates line).head?.any isGap = true ∧
      ∃ rest, ((marksPattern : Pattern Typed).leaves (afterDates line)).find?
          (fun cs => !(typedBody.leaves cs).isEmpty) = some rest ∧
        typedPayee m = String.ofList (trimChars (rest.takeWhile (· != '|'))) := by
  rw [Pattern.match?, Pattern.matchAt?, scan_afterDatePattern, Pattern.scan,
    Pattern.scan_eq_findSome?] at h
  obtain ⟨dates, hdates, h⟩ := List.exists_of_findSome?_eq_some h
  obtain ⟨marks, hmarks, h, hfirst⟩ := Pattern.exists_first_of_seq (fun _ => rfl) h
  have hdrop : line.drop dates.pos = dates.rest := Pattern.drop_of_mem_outcomes hdates rfl
  have hdrop' : line.drop marks.pos = marks.rest := Pattern.drop_of_mem_outcomes hmarks hdrop
  have hbreak' : '\n' ∉ marks.rest := fun hmem => hbreak (List.mem_of_mem_drop (hdrop' ▸ hmem))
  have hspans : marks.spans = [] := by
    rw [Pattern.spans_of_mem_outcomes rfl hmarks line hdrop,
      Pattern.spans_of_mem_outcomes rfl hdates line rfl]
  have hopen : OpensPayee marks.rest := by
    refine (typedBody_leaves_ne_nil_iff hbreak').mp ?_
    simpa using List.find?_some hfirst
  have hgap : dates.rest.head?.any isGap = true := by
    rcases head_of_mem_marksPattern (Pattern.mem_leaves_of_mem_outcomes hmarks) with heq | hgap
    · obtain ⟨x, xs, hrest, hx, -⟩ := hopen
      rw [← heq, hrest]
      exact hx
    · exact hgap
  have hends : EndsDates dates.rest := by
    intro c hc
    rw [hc] at hgap
    exact ⟨isDateChar_of_isGap hgap, ne_of_isGap hgap (by decide)⟩
  have hmem := Pattern.mem_leaves_of_mem_outcomes hdates
  have hrest : dates.rest = afterDates line := eq_afterDates hmem hends
  rw [← hrest]
  exact ⟨hmem, hgap, marks.rest, hfirst, typedPayee_of_scan_body hbreak' hdrop' hspans h⟩

/-! ## The two readings -/

/-- Whether both readings find the same payee in what stands behind a heading: a gap, no lone status
marker behind it, and no comment in front of the first bar. -/
def ReadAlike (rest : List Char) : Prop :=
  OpensPayee rest ∧ ';' ∉ rest.takeWhile (· != '|')

/-- Where both readings take off the same marks, only a comment makes a difference. -/
theorem trimChars_payee_eq_iff {rest : List Char} :
    trimChars (rest.takeWhile (· != '|')) = trimChars (rest.takeWhile isPayeeChar) ↔
      ';' ∉ rest.takeWhile (· != '|') := by
  constructor
  · intro heq hmem
    have htrim := mem_trimChars hmem (by decide)
    rw [heq] at htrim
    have hchar := List.mem_takeWhile_imp ((trimChars_sublist _).subset htrim)
    exact absurd hchar (by decide)
  · intro hnot
    have hsame : rest.takeWhile isPayeeChar = (rest.takeWhile (· != '|')).takeWhile (· != ';') := by
      rw [List.takeWhile_takeWhile]
      congr 1
      funext c
      rw [Bool.eq_iff_iff]
      simp [isPayeeChar]
    have hall : ∀ c ∈ rest.takeWhile (· != '|'), (c != ';') = true := fun c hc =>
      bne_iff_ne.mpr fun h => hnot (h ▸ hc)
    rw [hsame, List.takeWhile_eq_self_iff.mpr hall]

/-- A gap that opens no payee is followed by a lone status marker. -/
theorem eq_pair_of_not_opensPayee {rest : List Char} (hgap : rest.head?.any isGap = true)
    (h : ¬OpensPayee rest) (hbreak : '\n' ∉ rest) :
    ∃ x y, rest = [x, y] ∧ isGap x = true ∧ isStatus y = true := by
  cases rest with
  | nil => cases hgap
  | cons x xs =>
    have hlone : ¬isNoLoneStatus xs = true := fun hlone => h ⟨x, xs, rfl, hgap, hlone⟩
    unfold isNoLoneStatus at hlone
    split at hlone
    · rename_i y
      exact ⟨x, y, rfl, hgap, by simpa using hlone⟩
    · exact absurd (by simp) hbreak
    · exact absurd rfl hlone

/-- Where the second reading takes off one mark more, the two payees are different. -/
theorem trimChars_payee_ne {rest rest' : List Char} (hmark : MarkBefore rest' rest)
    (hopen : ¬OpensPayee rest') (hbreak : '\n' ∉ rest')
    (hgap : trimChars (rest'.takeWhile isPayeeChar) ≠ [] → rest'.head?.any isGap = true) :
    trimChars (rest.takeWhile (· != '|')) ≠ trimChars (rest'.takeWhile isPayeeChar) := by
  intro heq
  -- what the first reading keeps of the mark cannot be part of a lone status marker
  have hpair : trimChars (rest'.takeWhile isPayeeChar) ≠ [] →
      ∃ x y, rest' = [x, y] ∧ isGap x = true ∧ isStatus y = true := fun hne =>
    eq_pair_of_not_opensPayee (hgap hne) hopen hbreak
  cases hmark with
  | @status gaps x hne hgaps hx =>
    rw [trimChars_takeWhile_gaps hgaps] at heq
    have hmem : x ∈ trimChars ((x :: rest').takeWhile (· != '|')) := by
      rcases isStatus_iff.mp hx with rfl | rfl <;> exact mem_trimChars (by simp) (by decide)
    obtain ⟨y, z, rfl, hy, hz⟩ := hpair (List.ne_nil_of_mem (heq ▸ hmem))
    rcases isStatus_iff.mp hx with rfl | rfl <;> rcases isGap_iff.mp hy with rfl | rfl <;>
      rcases isStatus_iff.mp hz with rfl | rfl <;> exact absurd heq (by decide)
  | @code gaps inner hne hgaps =>
    rw [trimChars_takeWhile_gaps hgaps] at heq
    have hmem : '(' ∈ trimChars (('(' :: (inner ++ ')' :: rest')).takeWhile (· != '|')) :=
      mem_trimChars (by simp) (by decide)
    rw [heq] at hmem
    obtain ⟨y, z, rfl, hy, hz⟩ := hpair (List.ne_nil_of_mem hmem)
    have hin : '(' ∈ [y, z] :=
      (List.takeWhile_prefix _).subset ((trimChars_sublist _).subset hmem)
    simp only [List.mem_cons, List.not_mem_nil, or_false] at hin
    rcases hin with rfl | rfl
    · exact absurd hy (by decide)
    · exact absurd hz (by decide)

/-- A line with a payee in typed text falls under the rule for transactions. -/
theorem exists_readLine?_of_afterDate {line : List Char} (hbreak : '\n' ∉ line) {m : Match Typed}
    (hm : afterDatePattern.match? line = some m) :
    ∃ found, LineRule.transaction.pattern.match? line = some found ∧
      readLine? line = some ⟨3, .transaction, found⟩ := by
  obtain ⟨hdates, hhead, rest, hfirst, -⟩ := reading_of_afterDate hbreak hm
  obtain ⟨_, _, ⟨date, _, second, _, hdate, -, rfl, -⟩, hline⟩ :=
    Pattern.exists_fits_of_mem_leaves hdates
  have hmarks := List.mem_of_find?_eq_some hfirst
  have hrest : '\n' ∉ rest := fun hmem =>
    hbreak (Pattern.subset_of_mem_leaves hdates (Pattern.subset_of_mem_leaves hmarks hmem))
  obtain ⟨x, xs, rfl, hx, -⟩ :=
    (typedBody_leaves_ne_nil_iff hrest).mp (by simpa using List.find?_some hfirst)
  obtain ⟨last, hbody⟩ := List.exists_mem_of_ne_nil _
    (leaves_headingBody_ne_nil hx fun h => hrest (List.mem_cons_of_mem _ h))
  have hlook : afterDates line ∈
      (Pattern.look LineRule.endsDate : Pattern Field).leaves (afterDates line) := by
    have hends : LineRule.endsDate (afterDates line) = true := by
      generalize afterDates line = behind at hhead ⊢
      cases behind with
      | nil => cases hhead
      | cons y ys =>
        have hy : isGap y = true := hhead
        simp [LineRule.endsDate, hy]
    rw [Pattern.leaves, if_pos hends]
    exact List.mem_singleton_self _
  have hsome : (LineRule.transaction.pattern.match? line).isSome := by
    rw [Pattern.match?, Pattern.matchAt?, scan_transaction, Pattern.isSome_scan_iff fun _ => rfl]
    rw [← leaves_headingDates] at hdates
    rw [← leaves_headingMarks] at hmarks
    exact List.ne_nil_of_mem (Pattern.mem_leaves_seq (Pattern.mem_leaves_seq hdates hlook)
      (Pattern.mem_leaves_seq hmarks hbody))
  obtain ⟨found, hfound⟩ := Option.isSome_iff_exists.mp hsome
  obtain ⟨y, ys, hys, hy⟩ := exists_digit_of_fits hdate
  refine ⟨found, hfound, ?_⟩
  rw [hline, hys] at hfound ⊢
  exact readLine?_of_digit hy hfound

/-- Behind the same dates, typed text takes off the same marks as the rule, or one mark less where the
rule leaves what opens no payee. -/
theorem readings_of_find? {behind rest rest' : List Char} (hbreak : '\n' ∉ behind)
    (hfirst : ((marksPattern : Pattern Typed).leaves behind).find?
      (fun cs => !(typedBody.leaves cs).isEmpty) = some rest)
    (hsecond : ((marksPattern : Pattern Typed).leaves behind).find?
      (fun cs => !(headingBody.leaves cs).isEmpty) = some rest') :
    '\n' ∉ rest' ∧
      ((rest = rest' ∧ OpensPayee rest') ∨ (¬OpensPayee rest' ∧ MarkBefore rest' rest)) := by
  have hcandidate : ∀ cs ∈ (marksPattern : Pattern Typed).leaves behind, '\n' ∉ cs :=
    fun cs hcs hmem => hbreak (Pattern.subset_of_mem_leaves hcs hmem)
  have haccept : ∀ cs ∈ (marksPattern : Pattern Typed).leaves behind,
      (!(typedBody.leaves cs).isEmpty) = true ↔ OpensPayee cs := by
    intro cs hcs
    rw [← typedBody_leaves_ne_nil_iff (hcandidate cs hcs)]
    simp
  have himp : ∀ cs ∈ (marksPattern : Pattern Typed).leaves behind,
      (!(typedBody.leaves cs).isEmpty) = true → (!(headingBody.leaves cs).isEmpty) = true := by
    intro cs hcs h
    obtain ⟨x, xs, rfl, hx, -⟩ := (haccept _ hcs).mp h
    have hbody := leaves_headingBody_ne_nil hx fun h => hcandidate _ hcs (List.mem_cons_of_mem _ h)
    simpa using hbody
  have hcode : ∀ gaps inner cs, gaps ≠ [] → (∀ c ∈ gaps, isGap c = true) →
      gaps ++ '(' :: (inner ++ ')' :: cs) ∈ (marksPattern : Pattern Typed).leaves behind →
        (!(typedBody.leaves (gaps ++ '(' :: (inner ++ ')' :: cs))).isEmpty) = true :=
    fun gaps inner cs hne hgaps hcs =>
      (haccept _ hcs).mpr (opensPayee_of_gaps hne hgaps (isNoLoneStatus_of_ne _ (by decide)))
  have hlast := List.mem_of_find?_eq_some hsecond
  refine ⟨hcandidate _ hlast, ?_⟩
  rcases readings_of_marks himp hcode hfirst hsecond with rfl | ⟨hno, hmark⟩
  · have hrest := List.find?_some hfirst
    exact .inl ⟨rfl, (haccept _ hlast).mp hrest⟩
  · refine .inr ⟨?_, hmark⟩
    rw [← haccept _ hlast, hno]
    exact Bool.false_ne_true

/-- **Typed text and journals agree on headers.**  A line that has a payee when it is typed, be it as the
payee of the next postings or as what is looked up, falls under the rule for transactions; and the two
readings find the same payee, or none, if and only if what the rule leaves behind dates, status and
code is a gap with no lone status marker and no comment in front of the first bar behind it. -/
theorem typedPayee_eq_payeeText_iff {line : List Char} (hbreak : '\n' ∉ line) {m : Match Typed}
    (hm : afterDatePattern.match? line = some m) :
    Cli.payeeOfLine? (String.ofList line) =
        some (if typedPayee m = "" then none else some (typedPayee m)) ∧
      (∀ l, payeeLookup? line = some l → l.query = typedPayee m) ∧
      ∃ r, readLine? line = some r ∧ r.rule = LineRule.transaction ∧
        ∀ n, typedPayee m = payeeText (r.tokens n) ↔ ReadAlike r.afterHeading := by
  refine ⟨?_, fun l hl => ?_, ?_⟩
  · rw [payeeOfLine?_eq, String.toList_ofList, hm, Option.map_some]
  · obtain ⟨m', hm', hquery⟩ := query_of_payeeLookup? hl
    cases hm.symm.trans hm'
    exact hquery
  obtain ⟨hdates, -, rest, hfirst, htyped⟩ := reading_of_afterDate hbreak hm
  obtain ⟨found, hfound, hread⟩ := exists_readLine?_of_afterDate hbreak hm
  refine ⟨_, hread, rfl, fun n => ?_⟩
  generalize hr : (⟨3, .transaction, found⟩ : ReadLine) = r
  have hmatch : LineRule.transaction.pattern.match? line = some r.found := by rw [← hr, hfound]
  obtain ⟨hsecond, hpayee⟩ := reading_of_match hbreak hmatch
  obtain ⟨hpayee, hgap⟩ := hpayee n
  rw [leaves_headingMarks (γ := Typed)] at hsecond
  obtain ⟨hrest, hmarks⟩ := readings_of_find?
    (fun h => hbreak (Pattern.subset_of_mem_leaves hdates h)) hfirst hsecond
  rw [htyped, hpayee, String.ofList_inj]
  rcases hmarks with ⟨rfl, hopen⟩ | ⟨hopen, hmark⟩
  · rw [trimChars_payee_eq_iff]
    exact ⟨fun h => ⟨hopen, h⟩, And.right⟩
  · have hne := trimChars_payee_ne hmark hopen hrest fun hne => hgap fun hempty => hne <| by
      rw [hpayee] at hempty
      exact String.ofList_inj.mp hempty
    exact ⟨fun h => absurd h hne, fun h => absurd h.1 hopen⟩

/-- A header with everything that a heading can have, a note and a comment. -/
theorem typedPayee_eq_payeeText_of_full_header :
    ∃ m r, afterDatePattern.match? "2024-01-05=01-07 * (12) Shop | n ; c".toList = some m ∧
      readLine? "2024-01-05=01-07 * (12) Shop | n ; c".toList = some r ∧
      r.afterHeading = " Shop | n ; c".toList ∧ ReadAlike r.afterHeading ∧
      typedPayee m = "Shop" ∧ payeeText (r.tokens 0) = "Shop" := by
  have hsome : (afterDatePattern.match? "2024-01-05=01-07 * (12) Shop | n ; c".toList).isSome := by
    decide +kernel
  obtain ⟨m, hm⟩ := Option.isSome_iff_exists.mp hsome
  have htyped : typedPayee m = "Shop" := by
    have h : (afterDatePattern.match? "2024-01-05=01-07 * (12) Shop | n ; c".toList).map typedPayee =
        some "Shop" := by decide +kernel
    rw [hm] at h
    exact Option.some.inj h
  obtain ⟨-, -, r, hr, -, hiff⟩ := typedPayee_eq_payeeText_iff (by decide) hm
  have hafter : r.afterHeading = " Shop | n ; c".toList := by
    have h : (readLine? "2024-01-05=01-07 * (12) Shop | n ; c".toList).map ReadLine.afterHeading =
        some " Shop | n ; c".toList := by decide +kernel
    rw [hr] at h
    exact Option.some.inj h
  have halike : ReadAlike r.afterHeading := by
    rw [hafter]
    exact ⟨⟨' ', "Shop | n ; c".toList, by decide, by decide, by decide⟩, by decide⟩
  exact ⟨m, r, hm, hr, hafter, halike, htyped, ((hiff 0).mpr halike).symm.trans htyped⟩

/-- Behind a payee, the comment of the line is read as a part of it when it is typed; and of two
status markers, the first is read as a part of the payee. -/
theorem typedPayee_keeps_comment_and_status :
    (afterDatePattern.match? "2024-01-05 x ; c".toList).map typedPayee = some "x ; c" ∧
      (readLine? "2024-01-05 x ; c".toList).map (fun r => payeeText (r.tokens 0)) = some "x" ∧
      (afterDatePattern.match? "2024-01-05 * !".toList).map typedPayee = some "* !" ∧
      (readLine? "2024-01-05 * !".toList).map (fun r => payeeText (r.tokens 0)) = some "!" := by
  decide +kernel

end Completion

end Daybook
