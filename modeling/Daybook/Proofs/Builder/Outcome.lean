import Daybook.Builder.Feed

/-!
# Outcomes of build steps

A step of a build either fails or gives a value and a new state.  `BuildM.outcome` reads a step that
way and forgets the state of a failed one; it turns sequences of steps into `Except.bind`, so what a
step does can be written as a plain equation.  The equations for the steps that deal with
transactions and with lines stand here, and everything else about builds is derived from them.

* `BuildM.outcome` with `outcome_bind`, `outcome_get`, `outcome_modify`, …
* `Snapshot.recordTransaction`: what a transaction does to a snapshot, all in one.
* `Builder.outcome_closeTransaction`, `Builder.outcome_openTransactionAt`,
  `Builder.outcome_handleIndented`, `Builder.outcome_handleFlush`: what the lines of a journal do.
* `Builder.directive_induction`, `Builder.directiveOutcome`: what a directive does.
* `Builder.Keeps`: a property that a step hands on from the state before to the state after.
-/

namespace Daybook

open Calendar Journal

/-! ## Reading a step -/

namespace BuildM

variable {α β : Type}

/-- What a step gives from a state: its value with the new state, or an error. -/
def outcome (m : BuildM α) (b : Builder) : Except BuildError (α × Builder) :=
  match m.run.run b with
  | (.ok a, b') => .ok (a, b')
  | (.error e, _) => .error e

@[simp] theorem outcome_pure (a : α) (b : Builder) :
    outcome (pure a : BuildM α) b = .ok (a, b) := rfl

theorem outcome_bind (m : BuildM α) (f : α → BuildM β) (b : Builder) :
    outcome (m >>= f) b = (outcome m b).bind fun r => outcome (f r.1) r.2 := by
  have hrun : (m >>= f).run.run b =
      match m.run.run b with
      | (.ok a, b') => (f a).run.run b'
      | (.error e, b') => (.error e, b') := by
    simp only [ExceptT.run_bind, StateT.run_bind]
    rcases m.run.run b with ⟨r, b'⟩
    cases r <;> rfl
  unfold outcome
  rw [hrun]
  rcases m.run.run b with ⟨r, b'⟩
  cases r <;> rfl

@[simp] theorem outcome_get (b : Builder) : outcome (get : BuildM Builder) b = .ok (b, b) := rfl

@[simp] theorem outcome_set (b b' : Builder) : outcome (set b' : BuildM PUnit) b = .ok ((), b') :=
  rfl

@[simp] theorem outcome_modify (f : Builder → Builder) (b : Builder) :
    outcome (modify f : BuildM PUnit) b = .ok ((), f b) := rfl

@[simp] theorem outcome_throw (e : BuildError) (b : Builder) :
    outcome (throw e : BuildM α) b = .error e := rfl

/-- The result of a build is the value of its outcome. -/
theorem result_eq (m : BuildM α) (options : BuildOptions) :
    m.result options = (outcome m (Builder.start options)).map (·.1) := by
  unfold result outcome
  rcases m.run.run (Builder.start options) with ⟨r, b'⟩
  cases r <;> rfl

/-- A step after another has an outcome if both have one. -/
theorem outcome_bind_eq_ok {m : BuildM α} {f : α → BuildM β} {b b' : Builder} {c : β}
    (h : outcome (m >>= f) b = .ok (c, b')) :
    ∃ a b₁, outcome m b = .ok (a, b₁) ∧ outcome (f a) b₁ = .ok (c, b') := by
  rw [outcome_bind] at h
  cases hm : outcome m b with
  | error e =>
    rw [hm] at h
    cases h
  | ok r =>
    rw [hm] at h
    exact ⟨r.1, r.2, rfl, h⟩

end BuildM

/-! ## What a transaction records -/

namespace Snapshot

/-- Records a tag of a posting.  A date tag moves the last date to the day that `day` reads in it;
one without a day is complained about. -/
def recordTag (day : String → Option Date) (complaint : String → Warning) (s : Snapshot)
    (tag : TagPair) : Snapshot :=
  let s := s.useTag tag
  if tag.1 = "date" ∧ !tag.2.isEmpty then
    match day tag.2 with
    | some date => s.reachDate date
    | none => s.warn (complaint tag.2)
  else s

/-- Records a posting with its tags. -/
def recordTagged (day : String → Option Date) (complaint : String → Warning) (payee : String)
    (s : Snapshot) (p : Posting) : Snapshot :=
  p.tags.foldl (recordTag day complaint) (s.recordPosting payee p)

/-- Records a transaction with its postings and its template. -/
def recordTransaction (day : String → Option Date) (complaint : String → Warning)
    (t : Transaction) (s : Snapshot) : Snapshot :=
  let s := t.postings.foldl (recordTagged day complaint t.payee) (Builder.recordHeader s t)
  if 2 ≤ t.postings.length ∧ !t.payee.isEmpty then s.recordTemplate t.payee t.date t.postings else s

end Snapshot

namespace Builder

open BuildM

/-- The day that a text stands for in the present state, if there is one. -/
def dayOf (b : Builder) (raw : String) : Option Date :=
  match b.readDate raw with
  | .ok day => day
  | .error _ => none

/-- The warning about a date tag that names no day. -/
def complaint (b : Builder) (line : Int) (value : String) : Warning :=
  ⟨line, "invalid posting date tag " ++ Text.quoted value, b.options.source⟩

/-- Whether a tag of a posting stops a build: a date beyond all calendar arithmetic. -/
def stopsAt (b : Builder) (tag : TagPair) : Bool :=
  tag.1 = "date" && !tag.2.isEmpty && (b.readDate tag.2).toOption.isNone

/-- Whether a transaction stops a build. -/
def stopsIn (b : Builder) (t : Transaction) : Bool :=
  t.postings.any fun p => p.tags.any b.stopsAt

theorem eq_dateOverflow_of_readDate {b : Builder} {raw : String} {e : BuildError}
    (h : b.readDate raw = .error e) : e = .dateOverflow := by
  unfold readDate at h
  split at h <;> cases h
  rfl

/-- One tag of a posting either stops the build or is recorded. -/
theorem outcome_recordPostingTags_cons (line : Int) (tag : TagPair) (rest : List TagPair)
    (b : Builder) :
    outcome (recordPostingTags line (tag :: rest)) b =
      if b.stopsAt tag then .error .dateOverflow
      else outcome (recordPostingTags line rest)
        (b.record (·.recordTag b.dayOf (b.complaint line) tag)) := by
  rw [recordPostingTags, outcome_bind, outcome_modify]
  by_cases hdate : tag.1 = "date" ∧ !tag.2.isEmpty
  · have hsame : (b.record (·.useTag tag)).readDate tag.2 = b.readDate tag.2 := rfl
    cases hread : b.readDate tag.2 with
    | error e =>
      have hstop : b.stopsAt tag := by simp [stopsAt, hdate.1, hdate.2, hread, Except.toOption]
      simp only [Except.bind, if_pos hdate, outcome_bind, outcome_get, hsame, hread, hstop,
        outcome_throw, eq_dateOverflow_of_readDate hread, if_true]
    | ok day =>
      have hstop : b.stopsAt tag = false := by simp [stopsAt, hread, Except.toOption]
      have hday : b.dayOf tag.2 = day := by simp [dayOf, hread]
      cases day with
      | none =>
        simp only [Except.bind, if_pos hdate, outcome_bind, outcome_get, hsame, hread, hstop,
          outcome_modify, Snapshot.recordTag, hday, Bool.false_eq_true, if_false]
        rfl
      | some date =>
        simp only [Except.bind, if_pos hdate, outcome_bind, outcome_get, hsame, hread, hstop,
          outcome_modify, Snapshot.recordTag, hday, Bool.false_eq_true, if_false]
        rfl
  · have hstop : ¬b.stopsAt tag := by
      intro h
      rw [stopsAt, Bool.and_eq_true, Bool.and_eq_true, decide_eq_true_eq] at h
      exact hdate h.1
    simp only [Except.bind, if_neg hdate, if_neg hstop, Snapshot.recordTag]

theorem outcome_recordPostingTags (line : Int) (tags : List TagPair) (b : Builder) :
    outcome (recordPostingTags line tags) b =
      if tags.any b.stopsAt then .error .dateOverflow
      else .ok ((), b.record (tags.foldl (Snapshot.recordTag b.dayOf (b.complaint line)))) := by
  induction tags generalizing b with
  | nil => rfl
  | cons tag rest ih =>
    rw [outcome_recordPostingTags_cons, ih, List.any_cons]
    by_cases hstop : b.stopsAt tag
    · rw [if_pos hstop, hstop, Bool.true_or, if_pos rfl]
    · -- Recording leaves the reading of dates as it is.
      rw [Bool.not_eq_true] at hstop
      simp only [hstop, Bool.false_or, Bool.false_eq_true, if_false]
      rfl

theorem outcome_recordPostings (line : Int) (payee : String) (postings : List Posting)
    (b : Builder) :
    outcome (recordPostings line payee postings) b =
      if postings.any fun p => p.tags.any b.stopsAt then .error .dateOverflow
      else .ok ((), b.record
        (postings.foldl (Snapshot.recordTagged b.dayOf (b.complaint line) payee))) := by
  induction postings generalizing b with
  | nil => rfl
  | cons p rest ih =>
    have hsame : (b.record (·.recordPosting payee p)).stopsAt = b.stopsAt := rfl
    rw [recordPostings, outcome_bind, outcome_modify]
    simp only [Except.bind, outcome_bind, outcome_recordPostingTags, hsame, List.any_cons]
    by_cases hstop : p.tags.any b.stopsAt
    · simp only [hstop, if_true, Bool.true_or]
    · simp only [hstop, Bool.false_or, ih]
      rfl

/-- A transaction either stops the build or is recorded as a whole. -/
theorem outcome_recordTransaction (t : Transaction) (b : Builder) :
    outcome (recordTransaction t) b =
      if b.stopsIn t then .error .dateOverflow
      else .ok ((), b.record (Snapshot.recordTransaction b.dayOf (b.complaint t.line) t)) := by
  have hsame : (b.record (recordHeader · t)).stopsIn t = b.stopsIn t := rfl
  rw [recordTransaction, outcome_bind, outcome_modify]
  simp only [Except.bind, outcome_bind, outcome_recordPostings]
  rw [← stopsIn, hsame]
  by_cases hstop : b.stopsIn t
  · rw [if_pos hstop, if_pos hstop]
  · rw [if_neg hstop, if_neg hstop]
    by_cases htemplate : 2 ≤ t.postings.length ∧ !t.payee.isEmpty
    · simp only [if_pos htemplate, outcome_modify, record, Snapshot.recordTransaction]
      rfl
    · simp only [if_neg htemplate, outcome_pure, record, Snapshot.recordTransaction]
      rfl

/-! ## The end and the start of a transaction -/

/-- The state with no transaction being read or passed over. -/
def idle (b : Builder) : Builder :=
  { b with skipping := false, openTransaction := none }

/-- Adds the warning about lines that could not be read as postings, if there are any. -/
def warnUnread (t : OpenTransaction) (b : Builder) : Builder :=
  if t.badLines.isEmpty then b else b.warn t.line (badLinesMessage t.badLines)

/-- The state after the transaction that is being read is recorded. -/
def closed (b : Builder) : Builder :=
  match b.openTransaction with
  | none => b.idle
  | some t =>
    (b.idle.warnUnread t).record
      (Snapshot.recordTransaction b.dayOf (b.complaint t.line) (OpenTransaction.close t))

/-- What holds with the warning about unread lines and without it holds in either case. -/
theorem warnUnread_induction {motive : Builder → Prop} {t : OpenTransaction} {b : Builder}
    (read : motive b) (unread : motive (b.warn t.line (badLinesMessage t.badLines))) :
    motive (b.warnUnread t) :=
  iteInduction (fun _ => read) fun _ => unread

theorem dayOf_warnUnread (t : OpenTransaction) (b : Builder) : (b.warnUnread t).dayOf = b.dayOf :=
  warnUnread_induction (motive := (·.dayOf = b.dayOf)) rfl rfl

theorem closed_of_none {b : Builder} (h : b.openTransaction = none) : b.closed = b.idle := by
  rw [closed, h]

theorem closed_of_some {b : Builder} {t : OpenTransaction} (h : b.openTransaction = some t) :
    b.closed = (b.idle.warnUnread t).record
      (Snapshot.recordTransaction b.dayOf (b.complaint t.line) (OpenTransaction.close t)) := by
  rw [closed, h]

/-- Whether the transaction that is being read stops the build when it ends. -/
def stopsClosing (b : Builder) : Bool :=
  b.openTransaction.any fun t => b.stopsIn (OpenTransaction.close t)

/-- The end of a transaction either stops the build or gives the closed state. -/
theorem outcome_closeTransaction (b : Builder) :
    outcome closeTransaction b =
      if b.stopsClosing then .error .dateOverflow else .ok ((), b.closed) := by
  rw [closeTransaction, outcome_bind, outcome_get]
  simp only [Except.bind, outcome_bind, outcome_set]
  cases ht : b.openTransaction with
  | none => simp only [outcome_pure, stopsClosing, closed_of_none ht, ht, Option.any_none]; rfl
  | some t =>
    rw [closed_of_some ht, stopsClosing, ht, Option.any_some]
    cases hbad : t.badLines.isEmpty with
    | false =>
      simp only [Bool.not_false, if_true, outcome_bind, outcome_modify, Except.bind,
        outcome_recordTransaction, warnUnread, hbad]
      rfl
    | true =>
      simp only [Bool.not_true, Bool.false_eq_true, if_false, outcome_recordTransaction,
        warnUnread, hbad, if_true]
      rfl

/-- A dated line stops the build, is passed over or starts a transaction. -/
theorem outcome_openTransactionAt (raw : String) (rest : List Token) (line : Int) (b : Builder) :
    outcome (openTransactionAt raw rest line) b =
      match b.readDate raw with
      | .error e => .error e
      | .ok none =>
        .ok ((), { b.warn line ("invalid date " ++ Text.quoted raw ++ "; transaction skipped") with
          skipping := true })
      | .ok (some date) =>
        match readHeader ⟨line, date, "", .unmarked, none, none, [], [], []⟩ rest with
        | .error e => .error e
        | .ok t =>
          .ok ((), { b with openTransaction := some { t with tags := tagPairs rest } }) := by
  rw [openTransactionAt, outcome_bind, outcome_get]
  simp only [Except.bind]
  cases b.readDate raw with
  | error e => rfl
  | ok day =>
    cases day with
    | none => rfl
    | some date =>
      simp only
      cases readHeader ⟨line, date, "", .unmarked, none, none, [], [], []⟩ rest with
      | error e => rfl
      | ok t => rfl

/-! ## Lines -/

/-- What an indented line does. -/
theorem outcome_handleIndented (head : Token) (rest : List Token) (line : Int) (b : Builder) :
    outcome (handleIndented head rest line) b =
      if head.kind = .directive then outcome (directive head.text rest line) b
      else if b.skipping then .ok ((), b)
      else
        match b.openTransaction with
        | none =>
          .ok ((), if head.kind = .comment then b
            else b.warn line "indented line outside a transaction")
        | some t =>
          if head.kind = .comment then
            .ok ((), { b with
              openTransaction := some (OpenTransaction.addTags t (tagPairs (head :: rest))) })
          else
            match b.readPosting (head :: rest) with
            | .error e => .error e
            | .ok none =>
              .ok ((), { b with
                openTransaction := some { t with badLines := t.badLines ++ [line] } })
            | .ok (some p) =>
              .ok ((), { b with
                openTransaction := some { t with postings := t.postings ++ [p] } }) := by
  rw [handleIndented, outcome_bind, outcome_get]
  simp only [Except.bind]
  by_cases hdir : head.kind = .directive
  · rw [if_pos hdir, if_pos hdir]
  rw [if_neg hdir, if_neg hdir]
  by_cases hskip : b.skipping
  · rw [if_pos hskip, if_pos hskip, outcome_pure]
  rw [if_neg hskip, if_neg hskip]
  cases b.openTransaction with
  | none =>
    by_cases hcomment : head.kind = .comment
    · simp [hcomment]
    · simp [hcomment]
  | some t =>
    simp only
    by_cases hcomment : head.kind = .comment
    · rw [if_pos hcomment, if_pos hcomment, outcome_set]
    · rw [if_neg hcomment, if_neg hcomment]
      cases b.readPosting (head :: rest) with
      | error e => rfl
      | ok p => cases p <;> rfl

/-- What a line that is not indented does once the transaction before it is closed. -/
def begin (head : Token) (rest : List Token) (line : Int) : BuildM Unit :=
  match head.kind with
  | .date => openTransactionAt head.text rest line
  | .directive => directive head.text rest line
  | .text => modify (·.warn line ("unrecognized line: " ++ Text.quoted head.text))
  | _ => pure ()

/-- A line that is not indented closes the transaction before it. -/
theorem outcome_handleFlush (head : Token) (rest : List Token) (line : Int) (b : Builder) :
    outcome (handleFlush head rest line) b =
      if b.stopsClosing then .error .dateOverflow else outcome (begin head rest line) b.closed := by
  have hbegin : handleFlush head rest line =
      closeTransaction >>= fun _ => begin head rest line := rfl
  rw [hbegin, outcome_bind, outcome_closeTransaction]
  by_cases hstop : b.stopsClosing
  · rw [if_pos hstop, if_pos hstop]
    rfl
  · rw [if_neg hstop, if_neg hstop]
    rfl

theorem handleLine_indented {indent : Token} (h : indent.kind = .indent) (head : Token)
    (rest : List Token) (line : Int) :
    handleLine (indent :: head :: rest) line = handleIndented head rest line := by
  unfold handleLine
  exact if_pos h

theorem handleLine_flush {head : Token} (h : head.kind ≠ .indent) (rest : List Token)
    (line : Int) : handleLine (head :: rest) line = handleFlush head rest line := by
  unfold handleLine
  exact if_neg h

/-! ## Directives -/

/-- Whether the format of a commodity, if it has one, is that of a sample. -/
def Sampled (b : Builder) (commodity : Commodity) : Prop :=
  ∀ f ∈ commodity.format, ∃ sample g,
    Amount.CommodityFormat.ofSample? b.snapshot.decimalMark sample = some g ∧
      f.decimalMark = g.decimalMark

/-- What a directive can do to the state of a build. -/
inductive Directed (name : String) (args : List Token) (line : Int) (b : Builder) :
    Builder → Prop where
  | nothing : Directed name args line b b
  | warn (message : String) (hmessage : message = "malformed " ++ name ++ " directive" ∨
      message = "decimal-mark must be '.' or ','") :
    Directed name args line b (b.warn line message)
  | commodity (hname : name = "commodity" ∨ name = "format" ∨ name = "D") (symbol : String)
    (commodity : Commodity) (last : Option String) (hsampled : b.Sampled commodity) :
    Directed name args line b
      { b.record (·.addCommodity symbol commodity) with lastCommodity := last }
  | defaultCommodity (hname : name = "commodity" ∨ name = "format" ∨ name = "D")
    (symbol : String) (commodity : Commodity) (hsampled : b.Sampled commodity) :
    Directed name args line b ((b.record (·.addCommodity symbol commodity)).record fun s =>
      { s with defaultCommodity := s.defaultCommodity <|> some symbol })
  | account (account : String) : Directed name args line b (b.record (·.declareAccount account))
  | accountAlias (source target : String) :
    Directed name args line b (b.record fun s =>
      (({ s with aliases := s.aliases.insertNew source target } : Snapshot).declareAccount
        source).declareAccount target)
  | decimalMark (hname : name = "decimal-mark") (mark : String) (hmark : mark = "." ∨ mark = ",") :
    Directed name args line b (b.record fun s => { s with decimalMark := some mark })
  | inclusion (hname : name = "include") (target : String) :
    Directed name args line b (b.record (·.addInclude target))
  | price (symbols : List String) :
    Directed name args line b (b.record fun s => symbols.foldl Snapshot.mentionCommodity s)
  | payee (payee : String) (hpayee : payee.isEmpty = false) :
    Directed name args line b (b.record (·.declarePayee payee))
  | tag (key : String) : Directed name args line b (b.record (·.declareTag key))
  | year (hname : name = "Y" ∨ name = "year") (year : Int)
    (hyear : ∃ tok, firstOf? .text args = some tok ∧ Number.readInteger tok.text = .ok year) :
    Directed name args line b { b with defaultYear := some year }

theorem directed_aliasDirective (name : String) (args : List Token) (line : Int) (b : Builder) :
    Directed name args line b (aliasDirective args b) := by
  unfold aliasDirective
  split
  · split
    · exact .nothing
    · split
      · exact .accountAlias _ _
      · exact .nothing
  · exact .nothing

/-- The format that a directive gives a commodity is that of its sample. -/
theorem sampled_of_formatSample? {args : List Token} {b : Builder}
    {format : Option Amount.CommodityFormat}
    (h : format = (formatSample? args).bind
      (Amount.CommodityFormat.ofSample? b.snapshot.decimalMark))
    {commodity : Commodity}
    (hcommodity : ∀ f ∈ commodity.format, ∃ g ∈ format, f.decimalMark = g.decimalMark) :
    b.Sampled commodity := by
  intro f hf
  obtain ⟨g, hg, hsame⟩ := hcommodity f hf
  rw [h] at hg
  obtain ⟨sample, -, hsample⟩ := Option.bind_eq_some_iff.mp hg
  exact ⟨sample, g, hsample, hsame⟩

theorem directed_formatDirective {name : String}
    (hname : name = "commodity" ∨ name = "format" ∨ name = "D") {args : List Token} (line : Int)
    {format : Option Amount.CommodityFormat} {b : Builder}
    (h : format = (formatSample? args).bind
      (Amount.CommodityFormat.ofSample? b.snapshot.decimalMark)) :
    Directed name args line b (formatDirective format b) := by
  cases format with
  | none => exact .nothing
  | some f =>
    unfold formatDirective
    dsimp only
    refine iteInduction (fun _ => .nothing) fun _ =>
      .commodity hname _ _ b.lastCommodity (sampled_of_formatSample? h fun f' hf' => ?_)
    cases hf'
    exact ⟨f, rfl, rfl⟩

theorem directed_commodityDirective {name : String}
    (hname : name = "commodity" ∨ name = "format" ∨ name = "D") (args : List Token) (line : Int)
    (b : Builder) : Directed name args line b (commodityDirective name args b) := by
  unfold commodityDirective
  dsimp only
  by_cases hformat : name = "format"
  · rw [if_pos hformat]
    exact directed_formatDirective hname line rfl
  rw [if_neg hformat]
  have hsampled : b.Sampled
      ⟨(formatSample? args).bind (Amount.CommodityFormat.ofSample? b.snapshot.decimalMark), true⟩ :=
    sampled_of_formatSample? rfl fun f hf => ⟨f, hf, rfl⟩
  cases firstOf? .commodity args with
  | none => exact .nothing
  | some tok =>
    dsimp only
    by_cases hcommodity : name = "commodity"
    · rw [if_pos hcommodity]
      exact .commodity hname _ _ _ hsampled
    · rw [if_neg hcommodity]
      exact .defaultCommodity hname _ _ hsampled

/-- **The steps that a directive can be.**  What holds of each of them holds of every directive. -/
theorem directive_induction {motive : BuildM Unit → Prop} {name : String} {args : List Token}
    {line : Int} (nothing : motive (pure ()))
    (warn : ∀ message : String, message = "malformed " ++ name ++ " directive" ∨
      message = "decimal-mark must be '.' or ','" → motive (modify (·.warn line message)))
    (commodity : name = "commodity" ∨ name = "format" ∨ name = "D" →
      motive (modify (commodityDirective name args)))
    (account : ∀ account : String, motive (modify (·.record (·.declareAccount account))))
    (accountAlias : motive (modify (aliasDirective args)))
    (decimalMark : ∀ mark : String, name = "decimal-mark" → mark = "." ∨ mark = "," →
      motive (modify (·.record fun s => { s with decimalMark := some mark })))
    (inclusion : ∀ target : String, name = "include" →
      motive (modify (·.record (·.addInclude target))))
    (price : ∀ symbols : List String,
      (∀ symbol ∈ symbols, ∃ tok ∈ args,
        tok.kind = .commodity ∧ Amount.unquoteSymbol tok.text = symbol) →
      motive (modify (·.record fun s => symbols.foldl Snapshot.mentionCommodity s)))
    (payee : ∀ payee : String, payee.isEmpty = false →
      motive (modify (·.record (·.declarePayee payee))))
    (tag : ∀ key : String, motive (modify (·.record (·.declareTag key))))
    (year : ∀ (tok : Token) (year : Int), name = "Y" ∨ name = "year" →
      firstOf? .text args = some tok → Number.readInteger tok.text = .ok year →
        motive (modify fun b => { b with defaultYear := some year }))
    (badYear : ∀ (tok : Token) (cause : Number.IntegerError), name = "Y" ∨ name = "year" →
      firstOf? .text args = some tok → Number.readInteger tok.text = .error cause →
        motive (throw (.badYear cause))) :
    motive (directive name args line) := by
  -- The names are tried one after another, as in the definition.
  unfold directive
  dsimp only
  by_cases hmalformed : (name = "commodity" ∨ name = "format" ∨ name = "D") ∧
      args.any (·.kind = .text)
  · rw [if_pos hmalformed]
    exact warn _ (.inl rfl)
  rw [if_neg hmalformed]
  by_cases hcommodity : name = "commodity" ∨ name = "format" ∨ name = "D"
  · rw [if_pos hcommodity]
    exact commodity hcommodity
  rw [if_neg hcommodity]
  by_cases haccount : name = "account"
  · rw [if_pos haccount]
    split
    · exact account _
    · exact nothing
  rw [if_neg haccount]
  by_cases halias : name = "alias"
  · rw [if_pos halias]
    exact accountAlias
  rw [if_neg halias]
  by_cases hmark : name = "decimal-mark"
  · rw [if_pos hmark]
    split
    · exact decimalMark _ hmark (.inl rfl)
    · exact decimalMark _ hmark (.inr rfl)
    · exact warn _ (.inr rfl)
  rw [if_neg hmark]
  by_cases hinclude : name = "include"
  · rw [if_pos hinclude]
    split
    · exact inclusion _ hinclude
    · exact nothing
  rw [if_neg hinclude]
  by_cases hprice : name = "P"
  · rw [if_pos hprice]
    refine price _ fun symbol hsymbol => ?_
    obtain ⟨tok, htok, rfl⟩ := List.mem_map.mp hsymbol
    obtain ⟨htok, hkind⟩ := List.mem_filter.mp htok
    exact ⟨tok, htok, by simpa using hkind, rfl⟩
  rw [if_neg hprice]
  by_cases hpayee : name = "payee"
  · rw [if_pos hpayee]
    split
    · split
      · rename_i hnamed
        exact payee _ (by simpa using hnamed)
      · exact nothing
    · exact nothing
  rw [if_neg hpayee]
  by_cases htag : name = "tag"
  · rw [if_pos htag]
    split
    · exact tag _
    · exact nothing
  rw [if_neg htag]
  by_cases hyear : name = "Y" ∨ name = "year"
  · rw [if_pos hyear]
    split
    · rename_i tok htok
      split
      · rename_i y hread
        exact year tok y hyear htok hread
      · rename_i cause hread
        exact badYear tok cause hyear htok hread
    · exact nothing
  · rw [if_neg hyear]
    exact nothing

/-- What a directive comes to: one of the things listed, or a year that cannot be read. -/
inductive DirectiveOutcome (name : String) (args : List Token) (line : Int) (b : Builder) :
    Except BuildError (Unit × Builder) → Prop where
  | done {b' : Builder} (h : Directed name args line b b') :
    DirectiveOutcome name args line b (.ok ((), b'))
  | badYear (hname : name = "Y" ∨ name = "year") {tok : Token}
    (htok : firstOf? .text args = some tok) {cause : Number.IntegerError}
    (hcause : Number.readInteger tok.text = .error cause) :
    DirectiveOutcome name args line b (.error (.badYear cause))

/-- **A directive does one of the things listed**, unless it stops the build at its year. -/
theorem directiveOutcome (name : String) (args : List Token) (line : Int) (b : Builder) :
    DirectiveOutcome name args line b (outcome (directive name args line) b) := by
  refine directive_induction (motive := fun m => DirectiveOutcome name args line b (outcome m b))
    ?nothing ?warn ?commodity ?account ?accountAlias ?decimalMark ?inclusion ?price ?payee ?tag
    ?year ?badYear
  case nothing => exact .done .nothing
  case warn => exact fun _ hmessage => .done (.warn _ hmessage)
  case commodity => exact fun hname => .done (directed_commodityDirective hname args line b)
  case account => exact fun _ => .done (.account _)
  case accountAlias => exact .done (directed_aliasDirective name args line b)
  case decimalMark => exact fun _ hname hmark => .done (.decimalMark hname _ hmark)
  case inclusion => exact fun _ hname => .done (.inclusion hname _)
  case price => exact fun _ _ => .done (.price _)
  case payee => exact fun _ hpayee => .done (.payee _ hpayee)
  case tag => exact fun _ => .done (.tag _)
  case year => exact fun tok _ hname htok hread => .done (.year hname _ ⟨tok, htok, hread⟩)
  case badYear => exact fun _ _ hname htok hread => .badYear hname htok hread

/-- A directive that does not stop the build does one of the things listed. -/
theorem directed_of_outcome {name : String} {args : List Token} {line : Int} {b b' : Builder}
    {u : Unit} (h : outcome (directive name args line) b = .ok (u, b')) :
    Directed name args line b b' := by
  have houtcome := directiveOutcome name args line b
  rw [h] at houtcome
  cases houtcome with
  | done hdone => exact hdone

/-- The directive on a line, with its arguments, if there is one. -/
def lineDirective? (tokens : List Token) : Option (String × List Token) :=
  match if tokens.head?.any (·.kind = .indent) then tokens.tail else tokens with
  | [] => none
  | head :: rest => if head.kind = .directive then some (head.text, rest) else none

/-! ## Properties that steps hand on -/

/-- Whether a step hands a property on from the state before to the state after. -/
def Keeps {α : Type} (P : Builder → Prop) (m : BuildM α) : Prop :=
  ∀ ⦃b a b'⦄, outcome m b = .ok (a, b') → P b → P b'

/-- A property that the lines of a transaction hand on: it survives warnings, changes of what is being
read, and the recording of a transaction whose date tags are read in the same state. -/
structure Handling (P : Builder → Prop) : Prop where
  warn : ∀ {b : Builder} (line : Int) (message : String), P b → P (b.warn line message)
  reading : ∀ {b : Builder} (t : Option OpenTransaction) (skipping : Bool), P b →
    P { b with openTransaction := t, skipping }
  record : ∀ {b : Builder} (complaint : String → Warning) (t : Transaction), P b →
    P (b.record (Snapshot.recordTransaction b.dayOf complaint t))

/-- A property that transactions hand on and that does not look at the tokens themselves. -/
structure Reading (P : Builder → Prop) : Prop extends Handling P where
  tokens : ∀ {b : Builder} (pending : List Token) (fingerprint : String), P b →
    P { b with pending, fingerprint }

namespace Handling

variable {P : Builder → Prop}

theorem closed (hP : Handling P) {b : Builder} (hb : P b) : P b.closed := by
  have hidle : P b.idle := hP.reading none false hb
  cases ht : b.openTransaction with
  | none => rwa [closed_of_none ht]
  | some t =>
    have hday : (b.idle.warnUnread t).dayOf = b.dayOf := dayOf_warnUnread t b.idle
    rw [closed_of_some ht, ← hday]
    exact hP.record _ _ (warnUnread_induction hidle (hP.warn _ _ hidle))

theorem keeps_closeTransaction (hP : Handling P) : Keeps P closeTransaction := by
  intro b a b' h hb
  rw [outcome_closeTransaction] at h
  split at h
  · cases h
  · cases h
    exact hP.closed hb

theorem keeps_openTransactionAt (hP : Handling P) (raw : String) (rest : List Token) (line : Int) :
    Keeps P (openTransactionAt raw rest line) := by
  intro b a b' h hb
  rw [outcome_openTransactionAt] at h
  split at h
  · cases h
  · cases h
    exact hP.reading (b.warn line _).openTransaction true (hP.warn line _ hb)
  · split at h
    · cases h
    · cases h
      exact hP.reading _ b.skipping hb

theorem keeps_handleIndented (hP : Handling P) {head : Token} {rest : List Token} {line : Int}
    (hdir : head.kind = .directive → Keeps P (directive head.text rest line)) :
    Keeps P (handleIndented head rest line) := by
  intro b a b' h hb
  rw [outcome_handleIndented] at h
  split at h
  · rename_i hkind
    exact hdir hkind h hb
  split at h
  · cases h
    exact hb
  split at h
  · cases h
    split
    · exact hb
    · exact hP.warn _ _ hb
  split at h
  · cases h
    exact hP.reading _ b.skipping hb
  split at h
  · cases h
  · cases h
    exact hP.reading _ b.skipping hb
  · cases h
    exact hP.reading _ b.skipping hb

theorem keeps_handleFlush (hP : Handling P) {head : Token} {rest : List Token} {line : Int}
    (hdir : head.kind = .directive → Keeps P (directive head.text rest line)) :
    Keeps P (handleFlush head rest line) := by
  intro b a b' h hb
  rw [outcome_handleFlush] at h
  split at h
  · cases h
  have hclosed := hP.closed hb
  unfold begin at h
  split at h
  · exact hP.keeps_openTransactionAt _ _ _ h hclosed
  · rename_i hkind
    exact hdir hkind h hclosed
  · cases h
    exact hP.warn _ _ hclosed
  · cases h
    exact hclosed

/-- A line hands on what transactions hand on, if its directive does so too. -/
theorem keeps_handleLine (hP : Handling P) {tokens : List Token} {line : Int}
    (hdir : ∀ name args, lineDirective? tokens = some (name, args) →
      Keeps P (directive name args line)) : Keeps P (handleLine tokens line) := by
  unfold handleLine
  split
  · exact hP.keeps_closeTransaction
  · rename_i first others
    split
    · rename_i hindent
      split
      · exact hP.keeps_closeTransaction
      · rename_i head rest
        exact hP.keeps_handleIndented fun hkind =>
          hdir _ _ (by simp [lineDirective?, hindent, hkind])
    · rename_i hindent
      exact hP.keeps_handleFlush fun hkind =>
        hdir _ _ (by simp [lineDirective?, hkind])

end Handling

namespace Reading

variable {P : Builder → Prop}

theorem keeps_feedToken (hP : Reading P)
    (hdir : ∀ name args line, Keeps P (directive name args line)) (tok : Token) :
    Keeps P (feedToken tok) := by
  intro b a b' h hb
  rw [feedToken, outcome_bind, outcome_modify] at h
  simp only [Except.bind] at h
  have hmarked : P { b with fingerprint := b.fingerprint ++ tokenMark tok } :=
    hP.tokens b.pending _ hb
  split at h
  · obtain ⟨_, b₁, hget, h⟩ := outcome_bind_eq_ok h
    cases hget
    obtain ⟨_, b₂, hline, h⟩ := outcome_bind_eq_ok h
    cases h
    exact hP.tokens [] b₂.fingerprint
      (hP.keeps_handleLine (fun name args _ => hdir name args tok.line) hline hmarked)
  · cases h
    exact hP.tokens _ _ hmarked

theorem keeps_feedTokens (hP : Reading P)
    (hdir : ∀ name args line, Keeps P (directive name args line)) (tokens : List Token) :
    Keeps P (feedTokens tokens) := by
  induction tokens with
  | nil =>
    intro b a b' h hb
    cases h
    exact hb
  | cons tok rest ih =>
    intro b a b' h hb
    obtain ⟨_, b₁, htok, hrest⟩ := outcome_bind_eq_ok h
    exact ih hrest (hP.keeps_feedToken hdir tok htok hb)

theorem keeps_feedLineTokens (hP : Reading P)
    (hdir : ∀ name args line, Keeps P (directive name args line)) (first : Int)
    (lines : List (List Char)) : Keeps P (feedLineTokens first lines) := by
  induction lines generalizing first with
  | nil =>
    intro b a b' h hb
    cases h
    exact hb
  | cons cs rest ih =>
    intro b a b' h hb
    rw [feedLineTokens] at h
    split at h
    · cases h
    · obtain ⟨_, b₁, htokens, hrest⟩ := outcome_bind_eq_ok h
      exact ih (first + 1) hrest (hP.keeps_feedTokens hdir _ htokens hb)

end Reading

end Builder

end Daybook
