import Daybook.Proofs.Builder.Effect

/-!
# Blocks whose postings are withheld

A block is the first line of a transaction, the indented postings and comments below it, and a blank
line.  A block without a valid date leaves nothing behind but a warning.  If the date is valid but
one of the postings cannot be read, the transaction is recorded without postings, and so nothing
that is known from postings changes: the postings that could be read are withheld.

* `Journal.InBlock`: the lines of a block.
* `Builder.postingOf`, `Builder.unreadLines`, `Builder.leadingTags`: what the lines of a block say.
* `Snapshot.withhold`: what is recorded of a transaction without postings.
* `Builder.outcome_feedLineTokens_skipped`, `Builder.outcome_feedLineTokens_block`: the lines of a
  block that is passed over, and of one that is read.
* `Builder.outcome_block`: what a block comes to.
-/

namespace Daybook

open Calendar Journal Text

namespace Journal

/-- Whether a line is an indented posting or comment, as they stand in the block of a
transaction. -/
def InBlock (cs : List Char) (r : ReadLine) : Prop :=
  readLine? cs = some r ∧
    (r.rule.kind = .posting ∨ r.rule.kind = .comment ∧ Builder.isIndented cs = true)

/-- The first line of a transaction, any number of indented postings and comments, and a blank line,
with what they are read as. -/
structure Block where
  header : List Char
  headerRead : ReadLine
  lines : List (List Char)
  body : List ReadLine
  blank : List Char
  blankRead : ReadLine
  readLine?_header : readLine? header = some headerRead
  kind_headerRead : headerRead.rule.kind = .transaction
  inBlock : List.Forall₂ InBlock lines body
  readLine?_blank : readLine? blank = some blankRead
  kind_blankRead : blankRead.rule.kind = .blank

/-- The lines of a block, from the first to the blank one. -/
def Block.text (block : Block) : List (List Char) :=
  block.header :: (block.lines ++ [block.blank])

/-- The postings of a block. -/
def Block.postings (block : Block) : List ReadLine :=
  block.body.filter (·.rule.kind = .posting)

theorem Block.mem_postings {block : Block} {r : ReadLine} :
    r ∈ block.postings ↔ r ∈ block.body ∧ r.rule.kind = .posting := by
  rw [Block.postings, List.mem_filter, decide_eq_true_iff]

end Journal

namespace Snapshot

/-- What is recorded of a transaction without postings: the transaction itself with a warning, its
date, its payee and its tags.  Accounts, commodities, the accounts of payees and templates stay as
they are. -/
def withhold (t : Transaction) (w : Warning) (s : Snapshot) : Snapshot :=
  { s with
    transactions := s.transactions ++ [t]
    warnings := s.warnings ++ [w]
    lastDate := Option.merge Date.latest s.lastDate (some t.date)
    payees := if t.payee.isEmpty then s.payees else s.payees.insert t.payee
    payeeUsage := if t.payee.isEmpty then s.payeeUsage else s.payeeUsage.add t.payee 1
    tags := t.tags.foldl (fun keys tag => keys.insert tag.1) s.tags
    tagUsage := s.tagUsage.addEach (t.tags.map (·.1))
    tagValues := (t.tags.filter (!·.2.isEmpty)).foldl
      (fun values tag => values.alter tag.1 fun old => (old.getD []).insert tag.2) s.tagValues
    tagValueUsage := s.tagValueUsage.addEach (t.tags.filter (!·.2.isEmpty)) }

/-- The use of tags, field by field. -/
theorem foldl_useTag (tags : List TagPair) (s : Snapshot) :
    tags.foldl useTag s =
      { s with
        tags := tags.foldl (fun keys tag => keys.insert tag.1) s.tags
        tagUsage := s.tagUsage.addEach (tags.map (·.1))
        tagValues := (tags.filter (!·.2.isEmpty)).foldl
          (fun values tag => values.alter tag.1 fun old => (old.getD []).insert tag.2) s.tagValues
        tagValueUsage := s.tagValueUsage.addEach (tags.filter (!·.2.isEmpty)) } := by
  induction tags generalizing s with
  | nil => rfl
  | cons tag rest ih =>
    rw [List.foldl_cons, useTag_eq, ih]
    cases hvalue : tag.2.isEmpty with
    | true =>
      rw [List.filter_cons_of_neg (by simp [hvalue])]
      rfl
    | false =>
      rw [List.filter_cons_of_pos (by simp [hvalue])]
      rfl

/-- A transaction without postings is recorded with its header alone. -/
theorem recordTransaction_withheld (day : String → Option Date) (complaint : String → Warning)
    {t : Transaction} (h : t.postings = []) (w : Warning) (s : Snapshot) :
    (s.warn w).recordTransaction day complaint t = s.withhold t w := by
  have hreached : ∀ (u : Snapshot) (d : Date), u.reachDate d =
      { u with lastDate := Option.merge Date.latest u.lastDate (some d) } := by
    intro u d
    rw [← lastDate_reachDate]
    rfl
  have hfew : ¬(2 ≤ t.postings.length ∧ !t.payee.isEmpty) := by
    rw [h]
    exact fun htwo => absurd htwo.1 (by decide)
  unfold recordTransaction
  dsimp only
  rw [if_neg hfew, h, List.foldl_nil, Builder.recordHeader, hreached, foldl_useTag, withhold]
  split <;> rfl

end Snapshot

namespace Builder

open BuildM

variable {b : Builder}

/-! ## What the lines of a block say -/

/-- The posting on a line, if it can be read. -/
def postingOf (b : Builder) (r : ReadLine) : Except BuildError (Option Posting) :=
  b.readPosting (r.tokens 0).tail

/-- The numbers of the lines with postings that cannot be read. -/
def unreadLines (b : Builder) (n : Int) : List ReadLine → List Int
  | [] => []
  | r :: rest =>
    match r.rule.kind, b.postingOf r with
    | .posting, .ok none => n :: unreadLines b (n + 1) rest
    | _, _ => unreadLines b (n + 1) rest

/-- The tags of the comments before the first posting that can be read. -/
def leadingTags (b : Builder) : List ReadLine → List TagPair
  | [] => []
  | r :: rest =>
    if r.rule.kind = .comment then tagPairs (r.tokens 0).tail ++ leadingTags b rest
    else
      match b.postingOf r with
      | .ok (some _) => []
      | _ => leadingTags b rest

/-- The transaction that is being read after a line of its block. -/
def takeLine (b : Builder) (n : Int) (t : OpenTransaction) (r : ReadLine) :
    Except BuildError OpenTransaction :=
  if r.rule.kind = .comment then .ok (OpenTransaction.addTags t (tagPairs (r.tokens 0).tail))
  else (b.postingOf r).map (OpenTransaction.take t n)

theorem postingOf_congr {b' : Builder} (h : b'.snapshot = b.snapshot) (r : ReadLine) :
    b'.postingOf r = b.postingOf r := by
  have hsnapshot : b'.postingOf r = ({ b with snapshot := b'.snapshot } : Builder).postingOf r :=
    rfl
  rw [hsnapshot, h]

theorem readPosting_tail (b : Builder) (r : ReadLine) (n : Int) :
    b.readPosting (r.tokens n).tail = b.postingOf r := by
  rw [tokens_eq_relocate r n, ← List.map_tail]
  exact readPosting_relocate (fun _ => rfl) n (r.tokens 0).tail

theorem tagPairs_tail (r : ReadLine) (n : Int) :
    tagPairs (r.tokens n).tail = tagPairs (r.tokens 0).tail := by
  rw [tokens_eq_relocate r n, ← List.map_tail]
  exact tagPairs_relocate n (r.tokens 0).tail

/-- The first tokens of a line of a block. -/
theorem exists_tokens_inBlock {cs : List Char} {r : ReadLine} (h : InBlock cs r) (n : Int) :
    ∃ indent head rest, r.tokens n = indent :: head :: rest ∧ indent.kind = .indent ∧
      head.kind ≠ .directive ∧ (head.kind = .comment ↔ r.rule.kind = .comment) := by
  obtain ⟨hr, hkind⟩ := h
  have hform := lineForm_tokens hr n
  have hindented : r.rule.kind = .comment → goesOn (r.tokens n) = true := by
    intro hcomment
    rcases hkind with hposting | ⟨-, hindented⟩
    · rw [hcomment] at hposting
      cases hposting
    · rw [isIndented, hr, Option.any_some] at hindented
      rw [tokens_eq_relocate, goesOn_relocate, hindented]
  have hcases : r.rule.kind = .posting ∨ r.rule.kind = .comment :=
    hkind.imp_right And.left
  generalize r.tokens n = tokens at hform hindented
  generalize r.rule.kind = kind at hform hindented hcases
  cases hform with
  | posting hindent hhead =>
    refine ⟨_, _, _, rfl, hindent, ?_, ?_⟩ <;> rcases hhead with hhead | hhead <;> rw [hhead] <;>
      decide
  | indentedComment hindent hhead =>
    refine ⟨_, _, _, rfl, hindent, ?_, ?_⟩ <;> rw [hhead] <;> decide
  | comment hhead =>
    have hgoes := hindented rfl
    rw [goesOn_flush (by rw [hhead]; decide)] at hgoes
    cases hgoes
  | blank | transaction | directive | format | nothing | unknown =>
    rcases hcases with h | h <;> cases h

/-! ## The lines of a block -/

section Lines

variable {cs : List Char} {r : ReadLine} {t : OpenTransaction} {lines : List (List Char)}
  {body : List ReadLine}

/-- A line of a block that is passed over does nothing. -/
theorem outcome_handleLine_skipped (h : InBlock cs r) (hskipping : b.skipping = true) (n : Int) :
    outcome (handleLine (r.tokens n) n) b = .ok ((), b) := by
  obtain ⟨indent, head, rest, htokens, hindent, hdir, -⟩ := exists_tokens_inBlock h n
  rw [htokens, handleLine_indented hindent, outcome_handleIndented, if_neg hdir, if_pos hskipping]

/-- A line of a block that is read. -/
theorem outcome_handleLine_inBlock (h : InBlock cs r) (hskipping : b.skipping = false)
    (hopen : b.openTransaction = some t) (n : Int) :
    outcome (handleLine (r.tokens n) n) b =
      (b.takeLine n t r).map fun t' => ((), { b with openTransaction := some t' }) := by
  obtain ⟨indent, head, rest, htokens, hindent, hdir, hcomment⟩ := exists_tokens_inBlock h n
  have htail : (r.tokens n).tail = head :: rest := by rw [htokens, List.tail_cons]
  have hread := readPosting_tail b r n
  have htags := tagPairs_tail r n
  rw [htail] at hread htags
  rw [htokens, handleLine_indented hindent, outcome_handleIndented, if_neg hdir, hskipping,
    if_neg Bool.false_ne_true, hopen, takeLine, ← htags, ← hread]
  dsimp only
  by_cases hkind : head.kind = .comment
  · rw [if_pos hkind, if_pos (hcomment.mp hkind)]
    rfl
  · rw [if_neg hkind, if_neg (hcomment.not.mp hkind)]
    cases b.readPosting (head :: rest) with
    | error e => rfl
    | ok p => cases p <;> rfl

/-- The lines of a block that is passed over do nothing. -/
theorem outcome_feedLineTokens_skipped (hbody : List.Forall₂ InBlock lines body)
    (hskipping : b.skipping = true) (hpending : b.pending = []) (n : Int) :
    ∃ fingerprint, outcome (feedLineTokens n lines) b =
      .ok ((), { b with pending := [], fingerprint }) := by
  induction hbody generalizing b n with
  | nil =>
    have hstate : b = { b with pending := [] } := by rw [← hpending]
    exact ⟨b.fingerprint, congrArg (fun b₁ => Except.ok ((), b₁)) hstate⟩
  | @cons cs r rest body hr hrest ih =>
    have htaking : (b.taking r n cs.length).skipping = true := hskipping
    rw [outcome_feedLineTokens_cons n cs rest hpending, hr.1]
    dsimp only
    rw [outcome_handleLine_skipped hr htaking]
    exact ih (b := { b.taking r n cs.length with pending := [] }) hskipping rfl (n + 1)

/-- The transaction that is being read after the lines of its block. -/
def takeLines (b : Builder) (n : Int) (t : OpenTransaction) :
    List ReadLine → Except BuildError OpenTransaction
  | [] => .ok t
  | r :: rest => (b.takeLine n t r).bind fun t' => takeLines b (n + 1) t' rest

/-- The lines of a block that is read. -/
theorem outcome_feedLineTokens_block (hbody : List.Forall₂ InBlock lines body) {c : Builder}
    (hsame : c.snapshot = b.snapshot) (hskipping : c.skipping = false)
    (hopen : c.openTransaction = some t) (hpending : c.pending = []) (n : Int) :
    ∃ fingerprint, outcome (feedLineTokens n lines) c =
      (b.takeLines n t body).map fun t' =>
        ((), { c with pending := [], openTransaction := some t', fingerprint }) := by
  induction hbody generalizing c t n with
  | nil =>
    refine ⟨c.fingerprint, ?_⟩
    have hstate : c = { c with pending := [], openTransaction := some t } := by
      rw [← hopen, ← hpending]
    exact congrArg (fun b₁ => Except.ok ((), b₁)) hstate
  | @cons cs r rest body hr hrest ih =>
    have hread : (c.taking r n cs.length).takeLine n t r = b.takeLine n t r := by
      have hsame' : (c.taking r n cs.length).snapshot = b.snapshot := hsame
      rw [takeLine, postingOf_congr hsame', takeLine]
    have hskipping' : (c.taking r n cs.length).skipping = false := hskipping
    rw [outcome_feedLineTokens_cons n cs rest hpending, hr.1]
    dsimp only
    rw [outcome_handleLine_inBlock hr hskipping' hopen, hread, takeLines]
    cases b.takeLine n t r with
    | error e => exact ⟨c.fingerprint, rfl⟩
    | ok t' =>
      exact ih (c := { c.taking r n cs.length with
        pending := [], openTransaction := some t' }) hsame hskipping rfl rfl (n + 1)

/-! ## What a block comes to -/

theorem kinds_of_inBlock (hbody : List.Forall₂ InBlock lines body) :
    ∀ r ∈ body, r.rule.kind = .posting ∨ r.rule.kind = .comment := by
  induction hbody with
  | nil => exact List.forall_mem_nil _
  | cons hr _ ih => exact List.forall_mem_cons.mpr ⟨hr.2.imp_right And.left, ih⟩

/-- A posting with a quantity that is too large stops the build. -/
theorem takeLines_eq_error
    (hkinds : ∀ r ∈ body, r.rule.kind = .posting ∨ r.rule.kind = .comment)
    (h : ∃ r ∈ body, r.rule.kind = .posting ∧ ∃ e, b.postingOf r = .error e) (n : Int) :
    b.takeLines n t body = .error .quantityOverflow := by
  induction body generalizing t n with
  | nil =>
    obtain ⟨r, hr, -⟩ := h
    cases hr
  | cons r rest ih =>
    rw [List.forall_mem_cons] at hkinds
    rw [List.exists_mem_cons_iff] at h
    rw [takeLines, takeLine]
    rcases hkinds.1 with hposting | hcomment
    · rw [if_neg (by rw [hposting]; decide)]
      cases hread : b.postingOf r with
      | error e =>
        obtain ⟨rfl, -⟩ := overflow_of_readPosting hread
        rfl
      | ok p =>
        refine ih hkinds.2 (h.resolve_left ?_) (n + 1)
        rintro ⟨-, e, he⟩
        rw [hread] at he
        cases he
    · rw [if_pos hcomment]
      refine ih hkinds.2 (h.resolve_left ?_) (n + 1)
      rintro ⟨hposting, -⟩
      rw [hcomment] at hposting
      cases hposting

theorem unreadLines_ne_nil
    (h : ∃ r ∈ body, r.rule.kind = .posting ∧ b.postingOf r = .ok none) (n : Int) :
    b.unreadLines n body ≠ [] := by
  induction body generalizing n with
  | nil =>
    obtain ⟨r, hr, -⟩ := h
    cases hr
  | cons r rest ih =>
    rw [List.exists_mem_cons_iff] at h
    rw [unreadLines]
    rcases h with ⟨hposting, hnone⟩ | h
    · rw [hposting, hnone]
      exact List.cons_ne_nil _ _
    · split
      · exact List.cons_ne_nil _ _
      · exact ih h (n + 1)

theorem addTags_of_nil (h : t.postings = []) (tags : List TagPair) :
    OpenTransaction.addTags t tags = { t with tags := t.tags ++ tags } := by
  rw [OpenTransaction.addTags, h]
  rfl

theorem addTags_of_ne_nil (h : t.postings ≠ []) (tags : List TagPair) :
    ∃ postings, postings ≠ [] ∧ OpenTransaction.addTags t tags = { t with postings } := by
  rw [OpenTransaction.addTags]
  cases hlast : t.postings.getLast? with
  | none => exact absurd (List.getLast?_eq_none_iff.mp hlast) h
  | some p => exact ⟨_, List.concat_ne_nil _ _, rfl⟩

/-- The lines of a block note the lines that cannot be read, and leave the tags of the comments
before the first posting with the transaction. -/
theorem exists_takeLines_eq_ok
    (hkinds : ∀ r ∈ body, r.rule.kind = .posting ∨ r.rule.kind = .comment)
    (hread : ∀ r ∈ body, r.rule.kind = .posting → ∃ p, b.postingOf r = .ok p) (n : Int) :
    ∃ postings, b.takeLines n t body = .ok { t with
      tags := if t.postings = [] then t.tags ++ b.leadingTags body else t.tags
      postings
      badLines := t.badLines ++ b.unreadLines n body } := by
  induction body generalizing t n with
  | nil =>
    refine ⟨t.postings, ?_⟩
    simp [takeLines, leadingTags, unreadLines]
  | cons r rest ih =>
    rw [List.forall_mem_cons] at hkinds hread
    rw [takeLines, takeLine, leadingTags, unreadLines]
    rcases hkinds.1 with hposting | hcomment
    · obtain ⟨p, hp⟩ := hread.1 hposting
      have hne : ¬r.rule.kind = .comment := by rw [hposting]; decide
      rw [if_neg hne, if_neg hne, hposting, hp]
      cases p with
      | none =>
        obtain ⟨postings, hrest⟩ := ih (t := OpenTransaction.take t n none) hkinds.2 hread.2 (n + 1)
        refine ⟨postings, hrest.trans ?_⟩
        by_cases hnone : t.postings = [] <;> simp [OpenTransaction.take, hnone]
      | some p =>
        obtain ⟨postings, hrest⟩ :=
          ih (t := OpenTransaction.take t n (some p)) hkinds.2 hread.2 (n + 1)
        refine ⟨postings, hrest.trans ?_⟩
        simp [OpenTransaction.take]
    · have hne : r.rule.kind ≠ .posting := by rw [hcomment]; decide
      rw [if_pos hcomment, if_pos hcomment]
      obtain ⟨postings, hrest⟩ := ih (t := OpenTransaction.addTags t (tagPairs (r.tokens 0).tail))
        hkinds.2 hread.2 (n + 1)
      refine ⟨postings, hrest.trans ?_⟩
      by_cases hnone : t.postings = []
      · rw [addTags_of_nil hnone]
        simp [hnone, hcomment]
      · obtain ⟨postings', hsome, heq⟩ := addTags_of_ne_nil hnone (tagPairs (r.tokens 0).tail)
        rw [heq]
        simp [hnone, hsome, hcomment]

end Lines

/-! ## The first and the last line of a block -/

/-- The first line of a block starts with a date. -/
theorem exists_date_tokens (block : Block) (n : Int) :
    ∃ date rest, block.headerRead.tokens n = date :: rest ∧ date.kind = .date := by
  have hform := lineForm_tokens block.readLine?_header n
  rw [block.kind_headerRead] at hform
  generalize block.headerRead.tokens n = tokens at hform
  cases hform with
  | transaction hdate => exact ⟨_, _, rfl, hdate⟩

theorem tokens_blankRead (block : Block) (n : Int) : block.blankRead.tokens n = [] := by
  have hform := lineForm_tokens block.readLine?_blank n
  rw [block.kind_blankRead] at hform
  generalize block.blankRead.tokens n = tokens at hform
  cases hform with
  | blank => rfl

/-- The blank line of a block records the transaction that is being read. -/
theorem outcome_feedLineTokens_blank (block : Block) (hpending : b.pending = []) (n : Int) :
    ∃ fingerprint, outcome (feedLineTokens n [block.blank]) b =
      if b.stopsClosing then .error .dateOverflow
      else .ok ((), { b.closed with pending := [], fingerprint }) := by
  have hstop : (b.taking block.blankRead n block.blank.length).stopsClosing = b.stopsClosing := rfl
  rw [outcome_feedLineTokens_cons n block.blank [] hpending, block.readLine?_blank]
  dsimp only
  rw [tokens_blankRead, handleLine, outcome_closeTransaction, hstop]
  refine ⟨(b.taking block.blankRead n block.blank.length).closed.fingerprint, ?_⟩
  by_cases hstops : b.stopsClosing = true
  · rw [if_pos hstops, if_pos hstops]
    rfl
  · rw [if_neg hstops, if_neg hstops, feedLineTokens]
    refine congrArg (fun b₁ => Except.ok ((), b₁)) ?_
    rw [closed_taking]
    rfl

/-! ## The end of a block -/

/-- A transaction with lines that cannot be read is recorded without postings. -/
theorem closed_withheld {t : OpenTransaction} (hopen : b.openTransaction = some t)
    (hbad : t.badLines ≠ []) :
    b.stopsClosing = false ∧
      b.closed = b.idle.record (Snapshot.withhold { OpenTransaction.close t with postings := [] }
        ⟨t.line, badLinesMessage t.badLines, b.options.source⟩) := by
  have hempty : t.badLines.isEmpty = false := List.isEmpty_eq_false_iff.mpr hbad
  have hpostings : (OpenTransaction.close t).postings = [] := by
    rw [OpenTransaction.close, hempty]
    rfl
  have hclose : OpenTransaction.close t = { OpenTransaction.close t with postings := [] } := by
    rw [← hpostings]
  constructor
  · rw [stopsClosing, hopen, Option.any_some, stopsIn, hpostings, List.any_nil]
  · rw [closed_of_some hopen, ← hclose, warnUnread, hempty, if_neg Bool.false_ne_true]
    exact congrArg (fun s => ({ b.idle with snapshot := s } : Builder))
      (Snapshot.recordTransaction_withheld _ _ hpostings _ _)

/-- Whether lines take a build from between two transactions to there again, with another
snapshot. -/
def Leads (b : Builder) (first : Int) (lines : List (List Char)) (s : Snapshot) : Prop :=
  ∃ fingerprint, outcome (feedLineTokens first lines) b =
    .ok ((), { b with
      snapshot := s, pending := [], openTransaction := none, skipping := false, fingerprint })

/-! ## The whole block -/

section Block

variable {block : Block} {date : Token} {rest : List Token} {first : Int}

/-- The state in which the first line of a block starts its transaction. -/
def starting (b : Builder) (block : Block) (first : Int) : Builder :=
  (b.taking block.headerRead first block.header.length).idle

/-- A block is its first line, the lines below it and the blank line, one after another. -/
theorem outcome_feedLineTokens_text (hopen : b.openTransaction = none) (hpending : b.pending = [])
    (htokens : block.headerRead.tokens first = date :: rest) (hdate : date.kind = .date) :
    outcome (feedLineTokens first block.text) b =
      (outcome (openTransactionAt date.text rest first) (b.starting block first)).bind fun done =>
        (outcome (feedLineTokens (first + 1) block.lines) { done.2 with pending := [] }).bind
          fun done' =>
            outcome (feedLineTokens (first + 1 + block.lines.length) [block.blank]) done'.2 := by
  have hopen' : (b.taking block.headerRead first block.header.length).openTransaction = none :=
    hopen
  rw [Block.text, outcome_feedLineTokens_cons first _ _ hpending, block.readLine?_header]
  dsimp only
  rw [htokens, outcome_handleLine_dated hdate rest hopen', starting]
  simp only [feedLineTokens_append, outcome_bind]

/-- A year beyond all calendar arithmetic stops the build. -/
theorem outcome_of_year_overflow (hopen : b.openTransaction = none) (hpending : b.pending = [])
    (htokens : block.headerRead.tokens first = date :: rest) (hdate : date.kind = .date)
    {e : BuildError} (hread : b.readDate date.text = .error e) :
    outcome (feedLineTokens first block.text) b = .error .dateOverflow := by
  cases eq_dateOverflow_of_readDate hread
  have hread' : (b.starting block first).readDate date.text = .error .dateOverflow := hread
  rw [outcome_feedLineTokens_text hopen hpending htokens hdate, outcome_openTransactionAt, hread']
  rfl

/-- A block without a valid date is passed over. -/
theorem leads_of_invalid_date (hopen : b.openTransaction = none) (hpending : b.pending = [])
    (htokens : block.headerRead.tokens first = date :: rest) (hdate : date.kind = .date)
    (hread : b.readDate date.text = .ok none) :
    b.Leads first block.text (b.snapshot.warn ⟨first,
      "invalid date " ++ quoted date.text ++ "; transaction skipped", b.options.source⟩) := by
  have hread' : (b.starting block first).readDate date.text = .ok none := hread
  rw [Leads, outcome_feedLineTokens_text hopen hpending htokens hdate, outcome_openTransactionAt,
    hread']
  dsimp only [Except.bind]
  obtain ⟨fingerprint, hlines⟩ := outcome_feedLineTokens_skipped (b := {
    (b.starting block first).warn first
      ("invalid date " ++ quoted date.text ++ "; transaction skipped") with
    skipping := true, pending := [] }) block.inBlock rfl rfl (first + 1)
  rw [hlines]
  exact outcome_feedLineTokens_blank block rfl _

/-- A block with a valid date starts a transaction, takes the lines below it and records it. -/
theorem exists_outcome_of_date (hopen : b.openTransaction = none) (hpending : b.pending = [])
    (htokens : block.headerRead.tokens first = date :: rest) (hdate : date.kind = .date)
    {day : Date} (hread : b.readDate date.text = .ok (some day)) :
    ∃ t fingerprint,
      readHeader ⟨first, day, "", .unmarked, none, none, [], [], []⟩ rest = .ok t ∧
        outcome (feedLineTokens first block.text) b =
          (b.takeLines (first + 1) { t with tags := tagPairs rest } block.body).bind fun t' =>
            outcome (feedLineTokens (first + 1 + block.lines.length) [block.blank])
              { b.starting block first with
                pending := [], openTransaction := some t', fingerprint } := by
  have hstatus : ∀ tok ∈ rest, tok.kind = .status → (Status.ofMarker? tok.text).isSome := by
    intro tok htok hkind
    have hmem : tok ∈ block.headerRead.tokens first := by
      rw [htokens]
      exact List.mem_cons_of_mem _ htok
    exact isSome_ofMarker? (status_of_mem_tokens block.readLine?_header hmem hkind)
  obtain ⟨t, ht⟩ :=
    exists_readHeader ⟨first, day, "", .unmarked, none, none, [], [], []⟩ hstatus
  have hread' : (b.starting block first).readDate date.text = .ok (some day) := hread
  obtain ⟨fingerprint, hlines⟩ := outcome_feedLineTokens_block (b := b) block.inBlock (c := {
    b.starting block first with
    pending := [], openTransaction := some { t with tags := tagPairs rest } })
    rfl rfl rfl rfl (first + 1)
  refine ⟨t, fingerprint, ht, ?_⟩
  rw [outcome_feedLineTokens_text hopen hpending htokens hdate, outcome_openTransactionAt, hread']
  dsimp only
  rw [ht]
  dsimp only [Except.bind]
  rw [hlines]
  cases b.takeLines (first + 1) { t with tags := tagPairs rest } block.body with
  | error e => rfl
  | ok t' => rfl

/-- A posting with a quantity that is too large stops the build. -/
theorem outcome_of_quantity_overflow (hopen : b.openTransaction = none) (hpending : b.pending = [])
    (htokens : block.headerRead.tokens first = date :: rest) (hdate : date.kind = .date)
    {day : Date} (hread : b.readDate date.text = .ok (some day))
    (hlarge : ∃ r ∈ block.postings, ∃ e, b.postingOf r = .error e) :
    outcome (feedLineTokens first block.text) b = .error .quantityOverflow := by
  obtain ⟨t, fingerprint, -, houtcome⟩ := exists_outcome_of_date hopen hpending htokens hdate hread
  obtain ⟨r, hr, he⟩ := hlarge
  obtain ⟨hbody, hposting⟩ := Block.mem_postings.mp hr
  rw [houtcome, takeLines_eq_error (kinds_of_inBlock block.inBlock) ⟨r, hbody, hposting, he⟩]
  rfl

/-- A block with a valid date and a posting that cannot be read withholds all its postings. -/
theorem leads_of_unread_posting (hopen : b.openTransaction = none) (hpending : b.pending = [])
    (htokens : block.headerRead.tokens first = date :: rest) (hdate : date.kind = .date)
    {day : Date} (hread : b.readDate date.text = .ok (some day))
    (hpostings : ∀ r ∈ block.postings, ∃ p, b.postingOf r = .ok p)
    (hunread : ∃ r ∈ block.postings, b.postingOf r = .ok none) :
    ∃ t, readHeader ⟨first, day, "", .unmarked, none, none, [], [], []⟩ rest = .ok t ∧
      b.Leads first block.text (b.snapshot.withhold
        { date := day, payee := t.payee, postings := [], status := t.status
          code := t.code, note := t.note
          tags := tagPairs rest ++ b.leadingTags block.body, line := first }
        ⟨first, badLinesMessage (b.unreadLines (first + 1) block.body), b.options.source⟩) := by
  obtain ⟨t, fingerprint, ht, houtcome⟩ := exists_outcome_of_date hopen hpending htokens hdate hread
  obtain ⟨hline, hnone, hgood, hday⟩ := readHeader_frame ht
  dsimp only at hline hnone hgood hday
  obtain ⟨postings, htake⟩ := exists_takeLines_eq_ok (t := { t with tags := tagPairs rest })
    (kinds_of_inBlock block.inBlock)
    (fun r hr hposting => hpostings r (Block.mem_postings.mpr ⟨hr, hposting⟩)) (first + 1)
  dsimp only at htake
  rw [hnone, hgood, if_pos rfl, List.nil_append] at htake
  rw [hnone, hgood, htake] at houtcome
  refine ⟨t, ht, ?_⟩
  rw [Leads, houtcome]
  dsimp only [Except.bind]
  -- The last line records the transaction that the lines before it have left.
  generalize hlast : ({ b.starting block first with
    pending := []
    openTransaction := some { t with
      tags := tagPairs rest ++ b.leadingTags block.body
      postings
      badLines := b.unreadLines (first + 1) block.body }
    fingerprint } : Builder) = last
  have hbad : b.unreadLines (first + 1) block.body ≠ [] := by
    obtain ⟨r, hr, hnone⟩ := hunread
    obtain ⟨hbody, hposting⟩ := Block.mem_postings.mp hr
    exact unreadLines_ne_nil ⟨r, hbody, hposting, hnone⟩ _
  obtain ⟨hstop, hclosed⟩ := closed_withheld (b := last) (by rw [← hlast]) hbad
  obtain ⟨fingerprint', hblank⟩ := outcome_feedLineTokens_blank block (b := last) (by rw [← hlast])
    (first + 1 + block.lines.length)
  refine ⟨fingerprint', hblank.trans ?_⟩
  rw [hstop, hclosed, ← hlast, if_neg Bool.false_ne_true, ← hline, ← hday]
  rfl

/-- **What a block comes to** between two transactions.  Without a valid date it leaves a warning
and nothing else.  If its date is valid and one of its postings cannot be read, it leaves a
transaction without postings, with what the first line and the comments before the first posting say
of it, and a warning.  What stops the build is a year beyond all calendar arithmetic, or a quantity
that is too large. -/
theorem outcome_block (block : Block) (hopen : b.openTransaction = none) (hpending : b.pending = [])
    (first : Int) :
    ∃ date rest, block.headerRead.tokens first = date :: rest ∧ date.kind = .date ∧
      match b.readDate date.text with
      | .error _ => outcome (feedLineTokens first block.text) b = .error .dateOverflow
      | .ok none =>
        b.Leads first block.text (b.snapshot.warn ⟨first,
          "invalid date " ++ quoted date.text ++ "; transaction skipped", b.options.source⟩)
      | .ok (some day) =>
        ((∃ r ∈ block.postings, ∃ e, b.postingOf r = .error e) →
          outcome (feedLineTokens first block.text) b = .error .quantityOverflow) ∧
        ((∀ r ∈ block.postings, ∃ p, b.postingOf r = .ok p) →
          (∃ r ∈ block.postings, b.postingOf r = .ok none) →
            ∃ t, readHeader ⟨first, day, "", .unmarked, none, none, [], [], []⟩ rest = .ok t ∧
              b.Leads first block.text (b.snapshot.withhold
                { date := day, payee := t.payee, postings := [], status := t.status
                  code := t.code, note := t.note
                  tags := tagPairs rest ++ b.leadingTags block.body, line := first }
                ⟨first, badLinesMessage (b.unreadLines (first + 1) block.body),
                  b.options.source⟩)) := by
  obtain ⟨date, rest, htokens, hdate⟩ := exists_date_tokens block first
  refine ⟨date, rest, htokens, hdate, ?_⟩
  cases hread : b.readDate date.text with
  | error e => exact outcome_of_year_overflow hopen hpending htokens hdate hread
  | ok day? =>
    cases day? with
    | none => exact leads_of_invalid_date hopen hpending htokens hdate hread
    | some day =>
      exact ⟨outcome_of_quantity_overflow hopen hpending htokens hdate hread,
        leads_of_unread_posting hopen hpending htokens hdate hread⟩

end Block

/-- A block with a tag in each of its comments, whose last posting cannot be read. -/
def mixedBlock : Block where
  header := "2024-01-05 x  ; k:v".toList
  headerRead := (readLine? "2024-01-05 x  ; k:v".toList).get (by decide +kernel)
  lines := [" ; m:n".toList, " a  1".toList, " ; p:q".toList, " b  $$c".toList]
  body :=
    [(readLine? " ; m:n".toList).get (by decide +kernel),
      (readLine? " a  1".toList).get (by decide +kernel),
      (readLine? " ; p:q".toList).get (by decide +kernel),
      (readLine? " b  $$c".toList).get (by decide +kernel)]
  blank := []
  blankRead := (readLine? []).get (by decide +kernel)
  readLine?_header := (Option.some_get _).symm
  kind_headerRead := by decide +kernel
  inBlock :=
    .cons ⟨(Option.some_get _).symm, by decide +kernel⟩ <|
    .cons ⟨(Option.some_get _).symm, by decide +kernel⟩ <|
    .cons ⟨(Option.some_get _).symm, by decide +kernel⟩ <|
    .cons ⟨(Option.some_get _).symm, by decide +kernel⟩ .nil
  readLine?_blank := (Option.some_get _).symm
  kind_blankRead := by decide +kernel

/-- The tags of the comments before the first posting stay with the transaction; that of the comment
behind it is withheld with the posting. -/
theorem outcome_block_of_unread_posting :
    (start .plain).Leads 0 mixedBlock.text (Snapshot.empty.withhold
      { date := ⟨2024, 1, 5, by decide⟩, payee := "x", postings := [], status := .unmarked
        code := none, note := none, tags := [("k", "v"), ("m", "n")], line := 0 }
      ⟨0, "unparsable posting(s) on line(s) 5; postings dropped", none⟩) := by
  have htext : (mixedBlock.headerRead.tokens 0).head?.map (·.text) = some "2024-01-05" := by
    decide +kernel
  have hread : (start .plain).readDate "2024-01-05" = .ok (some ⟨2024, 1, 5, by decide⟩) := by
    decide +kernel
  have hheader : readHeader ⟨0, ⟨2024, 1, 5, by decide⟩, "", .unmarked, none, none, [], [], []⟩
      (mixedBlock.headerRead.tokens 0).tail =
        .ok ⟨0, ⟨2024, 1, 5, by decide⟩, "x", .unmarked, none, none, [], [], []⟩ := by
    decide +kernel
  have hpostings : mixedBlock.postings.map (start .plain).postingOf =
      [.ok (some ⟨"a", some "1", none, [], []⟩), .ok none] := by decide +kernel
  have htags : tagPairs (mixedBlock.headerRead.tokens 0).tail ++
      (start .plain).leadingTags mixedBlock.body = [("k", "v"), ("m", "n")] := by decide +kernel
  have hlines : badLinesMessage ((start .plain).unreadLines (0 + 1) mixedBlock.body) =
      "unparsable posting(s) on line(s) 5; postings dropped" := by decide +kernel
  obtain ⟨date, rest, htokens, -, h⟩ := outcome_block (b := start .plain) mixedBlock rfl rfl 0
  rw [htokens] at htext hheader htags
  have hdate : date.text = "2024-01-05" := Option.some.inj htext
  rw [hdate, hread] at h
  obtain ⟨t, ht, hleads⟩ := h.2
    (fun r hr => by
      have hmem := List.mem_map_of_mem (f := (start .plain).postingOf) hr
      rw [hpostings] at hmem
      rcases List.mem_pair.mp hmem with hgood | hbad
      · exact ⟨_, hgood⟩
      · exact ⟨_, hbad⟩)
    (List.mem_map.mp (hpostings ▸ List.mem_cons_of_mem _ (List.mem_singleton.mpr rfl)))
  cases ht.symm.trans hheader
  rw [List.tail_cons] at htags
  rw [htags, hlines] at hleads
  exact hleads

/-- A block without postings, whose date has no year. -/
def yearlessBlock : Block where
  header := "01-05 x".toList
  headerRead := (readLine? "01-05 x".toList).get (by decide +kernel)
  lines := []
  body := []
  blank := []
  blankRead := (readLine? []).get (by decide +kernel)
  readLine?_header := (Option.some_get _).symm
  kind_headerRead := by decide +kernel
  inBlock := .nil
  readLine?_blank := (Option.some_get _).symm
  kind_blankRead := by decide +kernel

/-- A block whose date has no year is not passed over if the year is beyond all calendar
arithmetic. -/
theorem outcome_block_of_huge_year :
    outcome (feedLineTokens 0 yearlessBlock.text)
      (start { BuildOptions.plain with defaultYear := some 99999999999 }) =
        .error .dateOverflow := by
  have htext : (yearlessBlock.headerRead.tokens 0).head?.map (·.text) = some "01-05" := by
    decide +kernel
  have hread : (start { BuildOptions.plain with defaultYear := some 99999999999 }).readDate
      "01-05" = .error .dateOverflow := by
    decide +kernel
  obtain ⟨date, rest, htokens, hkind⟩ := exists_date_tokens yearlessBlock 0
  rw [htokens] at htext
  have hdate : date.text = "01-05" := Option.some.inj htext
  exact outcome_of_year_overflow rfl rfl htokens hkind (hdate ▸ hread)

end Builder

end Daybook
