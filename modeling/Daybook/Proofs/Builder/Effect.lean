import Daybook.Proofs.Builder.Safety
import Mathlib.Data.List.Forall2

/-!
# What one line does to transactions

A line ends the transaction before it, starts one, goes on with one or does nothing to it.  Which of
these it does depends on its form and on whether a transaction is being read; what it does beside is
of no account here.

* `Snapshot.skippedLines`: the lines that were passed over because of their dates, as the warnings
  have them.
* `Builder.Leaves`: a step that does nothing to transactions; directives are such steps.
* `Builder.Extends`, `Builder.Continues`: postings and transactions that only gain tags.
* `Builder.Effect`, `Builder.effect_of_handleLine`: what a line does.
-/

namespace Daybook

open Calendar Journal Text

/-! ## Warnings about passed over transactions -/

/-- Whether a message says that a transaction was passed over because of its date. -/
def isSkipMessage (message : String) : Bool :=
  "invalid date ".toList.isPrefixOf message.toList &&
    "; transaction skipped".toList.isSuffixOf message.toList

theorem isSkipMessage_skip (raw : String) :
    isSkipMessage ("invalid date " ++ quoted raw ++ "; transaction skipped") = true := by
  rw [isSkipMessage, Bool.and_eq_true, List.isPrefixOf_iff_prefix, List.isSuffixOf_iff_suffix]
  simp only [String.toList_append]
  refine ⟨?_, List.suffix_append _ _⟩
  rw [List.append_assoc]
  exact List.prefix_append _ _

/-- A message that starts in another way says something else. -/
theorem isSkipMessage_append {start : String}
    (h : ∀ more, "invalid date ".toList.isPrefixOf (start.toList ++ more) = false) (x : String) :
    isSkipMessage (start ++ x) = false := by
  rw [isSkipMessage, String.toList_append, h, Bool.false_and]

theorem isSkipMessage_append_append {start : String}
    (h : ∀ more, "invalid date ".toList.isPrefixOf (start.toList ++ more) = false)
    (x y : String) : isSkipMessage (start ++ x ++ y) = false := by
  rw [String.append_assoc]
  exact isSkipMessage_append h (x ++ y)

namespace Snapshot

/-- The lines whose transactions were passed over because of their dates, as the warnings have
them. -/
def skippedLines (s : Snapshot) : List Int :=
  (s.warnings.filter (isSkipMessage ·.message)).map (·.line)

theorem skippedLines_warn_skip (s : Snapshot) (line : Int) (raw : String)
    (source : Option String) :
    (s.warn ⟨line, "invalid date " ++ quoted raw ++ "; transaction skipped", source⟩).skippedLines =
      s.skippedLines ++ [line] := by
  simp [skippedLines, warn, isSkipMessage_skip]

theorem skippedLines_warn_other (s : Snapshot) {w : Warning} (h : isSkipMessage w.message = false) :
    (s.warn w).skippedLines = s.skippedLines := by
  simp [skippedLines, warn, h]

theorem skippedLines_eq {s s' : Snapshot} (h : s'.warnings = s.warnings) :
    s'.skippedLines = s.skippedLines := by
  rw [skippedLines, skippedLines, h]

/-- Recording a transaction passes none over. -/
theorem skippedLines_recordTransaction (day : String → Option Date) {complaint : String → Warning}
    (hcomplaint : ∀ value, isSkipMessage (complaint value).message = false) (t : Transaction)
    (s : Snapshot) :
    (s.recordTransaction day complaint t).skippedLines = s.skippedLines := by
  have henter : (s.enter day complaint t).skippedLines = s.skippedLines := by
    refine foldl_record_induction (P := fun s' => s'.skippedLines = s.skippedLines)
      (fun e s' h => ?_) _ rfl
    cases e with
    | badDate value => exact (skippedLines_warn_other s' (hcomplaint value)).trans h
    | tag tag =>
      rw [BookEntry.record, useTag_eq]
      exact h
    | _ => exact h
  rw [recordTransaction_eq]
  split
  · exact henter
  · exact henter

end Snapshot

/-! ## What a line does -/

namespace Builder

open BuildM

variable {b b' : Builder}

/-- What is recorded and passed over in a state. -/
theorem transactions_closed (b : Builder) :
    b.closed.snapshot.transactions =
      b.snapshot.transactions ++ b.openTransaction.toList.map OpenTransaction.close := by
  cases ht : b.openTransaction with
  | none =>
    rw [closed_of_none ht]
    exact (List.append_nil _).symm
  | some t =>
    have hwarned : (b.idle.warnUnread t).snapshot.transactions = b.snapshot.transactions :=
      warnUnread_induction (motive := (·.snapshot.transactions = b.snapshot.transactions)) rfl rfl
    rw [closed_of_some ht, ← hwarned]
    exact Snapshot.transactions_recordTransaction _ _ _ _

theorem isSkipMessage_complaint (b : Builder) (line : Int) (value : String) :
    isSkipMessage (b.complaint line value).message = false := by
  dsimp only [complaint]
  exact isSkipMessage_append (fun _ => rfl) (quoted value)

theorem isSkipMessage_badLinesMessage (lines : List Int) :
    isSkipMessage (badLinesMessage lines) = false := by
  unfold badLinesMessage
  exact isSkipMessage_append_append (fun _ => rfl) _ _

theorem skippedLines_closed (b : Builder) :
    b.closed.snapshot.skippedLines = b.snapshot.skippedLines := by
  cases ht : b.openTransaction with
  | none => rw [closed_of_none ht, idle]
  | some t =>
    have hwarned : (b.idle.warnUnread t).snapshot.skippedLines = b.snapshot.skippedLines :=
      warnUnread_induction (motive := (·.snapshot.skippedLines = b.snapshot.skippedLines)) rfl
        (Snapshot.skippedLines_warn_other _ (isSkipMessage_badLinesMessage t.badLines))
    rw [closed_of_some ht, ← hwarned]
    exact Snapshot.skippedLines_recordTransaction _ (isSkipMessage_complaint b t.line) _ _

/-- Whether a step leaves the transactions as they are. -/
structure Leaves (b b' : Builder) : Prop where
  transactions : b'.snapshot.transactions = b.snapshot.transactions
  skippedLines : b'.snapshot.skippedLines = b.snapshot.skippedLines
  openTransaction : b'.openTransaction = b.openTransaction
  skipping : b'.skipping = b.skipping

theorem Leaves.refl (b : Builder) : Leaves b b :=
  ⟨rfl, rfl, rfl, rfl⟩

theorem leaves_warn (b : Builder) (line : Int) {message : String}
    (h : isSkipMessage message = false) : Leaves b (b.warn line message) :=
  ⟨rfl, Snapshot.skippedLines_warn_other _ h, rfl, rfl⟩

theorem leaves_of_directed {name : String} {args : List Token} {line : Int}
    (h : Directed name args line b b') : Leaves b b' := by
  cases h with
  | warn message hmessage =>
    refine leaves_warn b line ?_
    rcases hmessage with rfl | rfl
    · exact isSkipMessage_append_append (fun _ => rfl) _ _
    · decide
  | price symbols =>
    have hfold : ∀ s : Snapshot,
        (symbols.foldl Snapshot.mentionCommodity s).transactions = s.transactions ∧
          (symbols.foldl Snapshot.mentionCommodity s).warnings = s.warnings := by
      intro s
      induction symbols generalizing s with
      | nil => exact ⟨rfl, rfl⟩
      | cons symbol rest ih => exact ih _
    exact ⟨(hfold _).1, Snapshot.skippedLines_eq (hfold _).2, rfl, rfl⟩
  | _ => exact ⟨rfl, rfl, rfl, rfl⟩

/-- Whether a posting is another one with perhaps some more tags. -/
structure Extends (p q : Posting) : Prop where
  account : q.account = p.account
  amount : q.amount = p.amount
  commodity : q.commodity = p.commodity
  sideCommodities : q.sideCommodities = p.sideCommodities
  tags : p.tags <+: q.tags

theorem Extends.refl (p : Posting) : Extends p p :=
  ⟨rfl, rfl, rfl, rfl, List.prefix_rfl⟩

theorem Extends.trans {p q r : Posting} (h : Extends p q) (h' : Extends q r) : Extends p r :=
  ⟨h'.account.trans h.account, h'.amount.trans h.amount, h'.commodity.trans h.commodity,
    h'.sideCommodities.trans h.sideCommodities, h.tags.trans h'.tags⟩

theorem forall₂_extends_trans {ps qs rs : List Posting} (h : List.Forall₂ Extends ps qs)
    (h' : List.Forall₂ Extends qs rs) : List.Forall₂ Extends ps rs := by
  induction h generalizing rs with
  | nil =>
    cases h'
    exact .nil
  | cons hp _ ih =>
    cases h' with
    | cons hq hqs => exact .cons (hp.trans hq) (ih hqs)

/-- Whether an open transaction is another one with perhaps some more tags. -/
structure Continues (t t' : OpenTransaction) : Prop where
  line : t'.line = t.line
  postings : List.Forall₂ Extends t.postings t'.postings
  badLines : t'.badLines = t.badLines

theorem continues_refl (t : OpenTransaction) : Continues t t :=
  ⟨rfl, List.forall₂_same.mpr fun p _ => Extends.refl p, rfl⟩

theorem continues_addTags (t : OpenTransaction) (tags : List TagPair) :
    Continues t (OpenTransaction.addTags t tags) := by
  unfold OpenTransaction.addTags
  split
  · exact ⟨rfl, List.forall₂_same.mpr fun p _ => Extends.refl p, rfl⟩
  · rename_i p hlast
    refine ⟨rfl, ?_, rfl⟩
    obtain ⟨init, hinit⟩ := List.getLast?_eq_some_iff.mp hlast
    have hdrop : t.postings.dropLast = init := by rw [hinit, List.dropLast_concat]
    dsimp only
    rw [hdrop, hinit]
    exact List.rel_append (List.forall₂_same.mpr fun q _ => Extends.refl q)
      (.cons ⟨rfl, rfl, rfl, rfl, List.prefix_append _ _⟩ .nil)

/-- The open transaction after a line with a posting: with the posting, or with the line among those
that could not be read. -/
def OpenTransaction.take (t : OpenTransaction) (line : Int) : Option Posting → OpenTransaction
  | none => { t with badLines := t.badLines ++ [line] }
  | some p => { t with postings := t.postings ++ [p] }

/-- What a line does to the transactions of a build. -/
inductive Effect (r : ReadLine) (line : Int) (b b' : Builder) : Prop where
  /-- The line ends the transaction before it. -/
  | ends (hgoes : goesOn (r.tokens line) = false) (hkind : r.rule.kind ≠ .transaction)
    (hleaves : Leaves b.closed b')
  /-- The line ends the transaction before it, and starts one without a valid date. -/
  | skips (hgoes : goesOn (r.tokens line) = false) (hkind : r.rule.kind = .transaction)
    (htransactions : b'.snapshot.transactions = b.closed.snapshot.transactions)
    (hskipped : b'.snapshot.skippedLines = b.closed.snapshot.skippedLines ++ [line])
    (hopen : b'.openTransaction = none)
  /-- The line ends the transaction before it, and starts another one. -/
  | starts (hgoes : goesOn (r.tokens line) = false) (hkind : r.rule.kind = .transaction)
    (htransactions : b'.snapshot.transactions = b.closed.snapshot.transactions)
    (hskipped : b'.snapshot.skippedLines = b.closed.snapshot.skippedLines)
    (hskipping : b'.skipping = false) {t : OpenTransaction} (hopen : b'.openTransaction = some t)
    (hline : t.line = line) (hpostings : t.postings = []) (hbad : t.badLines = [])
  /-- The line goes on with what stands before it, without a posting. -/
  | remarks (hgoes : goesOn (r.tokens line) = true)
    (hkind : r.rule.kind ≠ .transaction ∧ r.rule.kind ≠ .posting)
    (htransactions : b'.snapshot.transactions = b.snapshot.transactions)
    (hskipped : b'.snapshot.skippedLines = b.snapshot.skippedLines)
    (hskipping : b'.skipping = b.skipping)
    (hopen : Option.Rel Continues b.openTransaction b'.openTransaction)
  /-- The line has a posting that belongs to no transaction. -/
  | strays (hgoes : goesOn (r.tokens line) = true) (hkind : r.rule.kind = .posting)
    (hstray : b.skipping = true ∨ b.openTransaction = none) (hleaves : Leaves b b')
  /-- The line has a posting, which may or may not be read. -/
  | posts (hgoes : goesOn (r.tokens line) = true) (hkind : r.rule.kind = .posting)
    (htransactions : b'.snapshot.transactions = b.snapshot.transactions)
    (hskipped : b'.snapshot.skippedLines = b.snapshot.skippedLines)
    (hskipping : b'.skipping = b.skipping) {t : OpenTransaction} (hopen : b.openTransaction = some t)
    {p : Option Posting} (hread : b.readPosting (r.tokens line).tail = .ok p)
    (hopen' : b'.openTransaction = some (OpenTransaction.take t line p))

theorem readHeader_frame {t t' : OpenTransaction} {tokens : List Token}
    (h : readHeader t tokens = .ok t') :
    t'.line = t.line ∧ t'.postings = t.postings ∧ t'.badLines = t.badLines ∧
      t'.date = t.date := by
  induction tokens generalizing t with
  | nil =>
    cases h
    exact ⟨rfl, rfl, rfl, rfl⟩
  | cons tok rest ih =>
    rw [readHeader] at h
    split at h
    · rename_i t₁ ht₁
      have htok : t₁.line = t.line ∧ t₁.postings = t.postings ∧ t₁.badLines = t.badLines ∧
          t₁.date = t.date := by
        unfold readHeaderToken at ht₁
        split at ht₁
        · split at ht₁
          · cases ht₁
            exact ⟨rfl, rfl, rfl, rfl⟩
          · cases ht₁
        all_goals
          cases ht₁
          exact ⟨rfl, rfl, rfl, rfl⟩
      obtain ⟨hline, hpostings, hbad, hdate⟩ := ih h
      exact ⟨hline.trans htok.1, hpostings.trans htok.2.1, hbad.trans htok.2.2.1,
        hdate.trans htok.2.2.2⟩
    · cases h

/-- A posting is made of the parts that are read behind its account. -/
theorem exists_parts_of_readPosting {body : List Token} {p : Posting}
    (h : b.readPosting body = .ok (some p)) :
    ∃ behind account parts, behind ⊆ body ∧
      readPostingParts ⟨none, none, false, [], []⟩ behind = some parts ∧
      p = ⟨account, parts.amount, parts.commodity, parts.tags, parts.side⟩ := by
  have hsubset : (if body.head?.any (·.kind = .status) then body.tail else body) ⊆ body :=
    iteInduction (motive := (· ⊆ body)) (fun _ => List.tail_subset body) fun _ => List.Subset.refl body
  unfold readPosting at h
  dsimp only at h
  generalize (if body.head?.any (·.kind = .status) then body.tail else body) = tokens at h hsubset
  split at h
  · cases h
  split at h
  · cases h
  rename_i tok behind _
  split at h
  · rename_i account parts _ hparts
    refine ⟨behind, account, parts,
      List.Subset.trans (List.subset_cons_self tok behind) hsubset, hparts, ?_⟩
    split at h
    · exact (Option.some.inj (Except.ok.inj h)).symm
    · split at h
      · exact (Option.some.inj (Except.ok.inj h)).symm
      · cases h
      · cases h
  · cases h

theorem goesOn_flush {head : Token} (h : head.kind ≠ .indent) (rest : List Token) :
    goesOn (head :: rest) = false := by
  cases rest with
  | nil => rfl
  | cons _ _ => exact decide_eq_false h

theorem goesOn_indented {indent : Token} (h : indent.kind = .indent) (head : Token)
    (rest : List Token) : goesOn (indent :: head :: rest) = true :=
  decide_eq_true h

/-- Between two transactions, a line with a date starts one. -/
theorem outcome_handleLine_dated {date : Token} (hdate : date.kind = .date) (rest : List Token)
    (hopen : b.openTransaction = none) (n : Int) :
    outcome (handleLine (date :: rest) n) b =
      outcome (openTransactionAt date.text rest n) b.idle := by
  have hindent : date.kind ≠ .indent := by
    rw [hdate]
    decide
  have hstop : b.stopsClosing = false := by rw [stopsClosing, hopen, Option.any_none]
  rw [handleLine_flush hindent, outcome_handleFlush, hstop, closed_of_none hopen, begin, hdate,
    if_neg Bool.false_ne_true]

/-- What a dated line does once the transaction before it is closed. -/
theorem effect_of_openTransactionAt {r : ReadLine} {line : Int} {raw : String} {rest : List Token}
    (hgoes : goesOn (r.tokens line) = false) (hkind : r.rule.kind = .transaction)
    (h : outcome (openTransactionAt raw rest line) b.closed = .ok ((), b')) :
    Effect r line b b' := by
  obtain ⟨hopen, hskipping, -⟩ := closed_frame b
  rw [outcome_openTransactionAt] at h
  split at h
  · cases h
  · cases h
    exact .skips hgoes hkind rfl (Snapshot.skippedLines_warn_skip _ _ _ _) hopen
  · split at h
    · cases h
    · rename_i t ht
      cases h
      obtain ⟨hline, hpostings, hbad, -⟩ := readHeader_frame ht
      exact .starts hgoes hkind rfl rfl hskipping rfl hline hpostings hbad

/-- What an indented line does that is no posting. -/
theorem effect_of_remark {r : ReadLine} {line : Int} {head : Token} {rest : List Token}
    (hgoes : goesOn (r.tokens line) = true)
    (hkind : r.rule.kind ≠ .transaction ∧ r.rule.kind ≠ .posting)
    (hhead : head.kind = .directive ∨ head.kind = .comment)
    (h : outcome (handleIndented head rest line) b = .ok ((), b')) : Effect r line b b' := by
  have hrel : ∀ {b' : Builder}, Leaves b b' → Effect r line b b' := fun hleaves =>
    .remarks hgoes hkind hleaves.transactions hleaves.skippedLines hleaves.skipping (by
      rw [hleaves.openTransaction]
      cases b.openTransaction with
      | none => exact .none
      | some t => exact .some (continues_refl t))
  rw [outcome_handleIndented] at h
  split at h
  · exact hrel (leaves_of_directed (directed_of_outcome h))
  rename_i hdirective
  have hcomment := hhead.resolve_left hdirective
  split at h
  · cases h
    exact hrel (.refl b)
  split at h
  · cases h
    exact hrel (.refl b)
  · rename_i t hopen
    cases h
    refine .remarks hgoes hkind rfl rfl rfl ?_
    rw [hopen]
    exact .some (continues_addTags t _)

/-- What an indented line with a posting does. -/
theorem effect_of_posting {r : ReadLine} {line : Int} {indent head : Token} {rest : List Token}
    (htokens : r.tokens line = indent :: head :: rest)
    (hgoes : goesOn (r.tokens line) = true) (hkind : r.rule.kind = .posting)
    (hhead : head.kind ≠ .directive ∧ head.kind ≠ .comment)
    (h : outcome (handleIndented head rest line) b = .ok ((), b')) : Effect r line b b' := by
  rw [outcome_handleIndented, if_neg hhead.1] at h
  split at h
  · rename_i hskipping
    cases h
    exact .strays hgoes hkind (.inl hskipping) (.refl b)
  split at h
  · rename_i hopen
    cases h
    rw [if_neg hhead.2]
    exact .strays hgoes hkind (.inr hopen) (leaves_warn b line (by decide))
  · rename_i t hopen
    rw [if_neg hhead.2] at h
    have hread : ∀ p, b.readPosting (head :: rest) = .ok p →
        b.readPosting (r.tokens line).tail = .ok p := by
      intro p hp
      rw [htokens]
      exact hp
    split at h
    · cases h
    · rename_i hnone
      cases h
      exact .posts hgoes hkind rfl rfl rfl hopen (hread _ hnone) rfl
    · rename_i p hsome
      cases h
      exact .posts hgoes hkind rfl rfl rfl hopen (hread _ hsome) rfl

/-- **What a line does to the transactions of a build.** -/
theorem effect_of_handleLine {cs : List Char} {r : ReadLine} (hr : readLine? cs = some r)
    {line : Int} (h : outcome (handleLine (r.tokens line) line) b = .ok ((), b')) :
    Effect r line b b' := by
  have hform := lineForm_tokens hr line
  generalize htokens : r.tokens line = tokens at h hform
  generalize hkind : r.rule.kind = kind at hform
  have hgoes : goesOn (r.tokens line) = goesOn tokens := congrArg goesOn htokens
  have hother : kind ≠ .transaction → r.rule.kind ≠ .transaction := fun hne => hkind ▸ hne
  -- A line that is not indented closes the transaction before it and goes on from there.
  have hflush : ∀ {head rest}, head.kind ≠ .indent →
      outcome (handleLine (head :: rest) line) b = .ok ((), b') →
      outcome (begin head rest line) b.closed = .ok ((), b') := by
    intro head rest hindent h
    rw [handleLine_flush hindent, outcome_handleFlush] at h
    split at h
    · cases h
    · exact h
  cases hform with
  | blank | nothing =>
    have hclose : outcome closeTransaction b = .ok ((), b') := h
    rw [outcome_closeTransaction] at hclose
    split at hclose
    · cases hclose
    · cases hclose
      exact .ends (hgoes.trans rfl) (hother (by decide)) (.refl _)
  | @comment head rest hhead =>
    have hindent : head.kind ≠ .indent := by
      rw [hhead]
      decide
    have hbegin := hflush hindent h
    rw [begin, hhead] at hbegin
    cases hbegin
    exact .ends (hgoes.trans (goesOn_flush hindent rest)) (hother (by decide)) (.refl _)
  | @indentedComment indent head rest hindent hhead =>
    rw [handleLine_indented hindent] at h
    exact effect_of_remark (hgoes.trans (goesOn_indented hindent head rest))
      (by rw [hkind]; decide) (.inr hhead) h
  | @transaction head rest hhead =>
    have hindent : head.kind ≠ .indent := by
      rw [hhead]
      decide
    have hbegin := hflush hindent h
    rw [begin, hhead] at hbegin
    exact effect_of_openTransactionAt (hgoes.trans (goesOn_flush hindent rest)) hkind hbegin
  | @directive head rest hhead hyear =>
    have hindent : head.kind ≠ .indent := by
      rw [hhead]
      decide
    have hbegin := hflush hindent h
    rw [begin, hhead] at hbegin
    exact .ends (hgoes.trans (goesOn_flush hindent rest)) (hother (by decide))
      (leaves_of_directed (directed_of_outcome hbegin))
  | @format indent head rest hindent hhead hname =>
    rw [handleLine_indented hindent] at h
    exact effect_of_remark (hgoes.trans (goesOn_indented hindent head rest))
      (by rw [hkind]; decide) (.inl hhead) h
  | @posting indent head rest hindent hhead =>
    have hplain : head.kind ≠ .directive ∧ head.kind ≠ .comment := by
      rcases hhead with hhead | hhead <;> rw [hhead] <;> decide
    rw [handleLine_indented hindent] at h
    exact effect_of_posting htokens (hgoes.trans (goesOn_indented hindent head rest)) hkind hplain h
  | @unknown tok htok =>
    have hindent : tok.kind ≠ .indent := by
      rw [htok]
      decide
    have hbegin := hflush hindent h
    rw [begin, htok] at hbegin
    cases hbegin
    exact .ends (hgoes.trans (goesOn_flush hindent [])) (hother (by decide))
      (leaves_warn _ line (isSkipMessage_append (fun _ => rfl) _))

end Builder

end Daybook
