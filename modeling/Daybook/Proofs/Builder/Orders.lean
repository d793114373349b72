import Daybook.Proofs.Builder.Lines
import Daybook.Proofs.Snapshot.Redated

/-!
# Builds in both orders of day and month

A build reads dates in one order of day and month.  The order shows only in the days themselves: a
text that names a day in one order names one in the other, so the same blocks are recorded and the
same ones are passed over.  Every step of a build is therefore blind to the order, and a text has
the same snapshot in both orders, but for the days.

* `Builder.folded`: what builds in both orders have in common.
* `Builder.Blind`: a step that does the same in builds with that in common, with `Blind.bind`,
  `Blind.directive`, `Blind.handleLine`, …
* `Snapshot.map_folded_ofText`: what the snapshots of a text in both orders have in common.
* `Snapshot.read_and_ofText_of_orders`: what is read and what is built in both orders.
-/

namespace Daybook

open Calendar Journal

/-- The transaction on the fold of its day. -/
def OpenTransaction.folded (t : OpenTransaction) : OpenTransaction :=
  { t with date := t.date.folded }

namespace Builder

open BuildM

/-- What is left of the state of a build without the order of dates. -/
def folded (b : Builder) : Builder :=
  { b with
    options := { b.options with dateOrder := b.options.dateOrder.folded }
    snapshot := b.snapshot.folded
    openTransaction := b.openTransaction.map OpenTransaction.folded }

/-- Whether a step does the same in builds that differ in nothing but the order of dates. -/
def Blind (m : BuildM Unit) : Prop :=
  ∀ ⦃b b' : Builder⦄, b.folded = b'.folded →
    (outcome m b).map (·.2.folded) = (outcome m b').map (·.2.folded)

/-! ## Steps one after another -/

section Blind

variable {m : BuildM Unit} {b b' : Builder}

/-- What a blind step comes to in both builds. -/
theorem Blind.cases (hm : Blind m) (h : b.folded = b'.folded) :
    (∃ e, outcome m b = .error e ∧ outcome m b' = .error e) ∨
      ∃ b₁ b₁', outcome m b = .ok ((), b₁) ∧ outcome m b' = .ok ((), b₁') ∧
        b₁.folded = b₁'.folded := by
  have houtcome := hm h
  cases hb : outcome m b with
  | error e =>
    rw [hb] at houtcome
    cases hb' : outcome m b' with
    | error e' =>
      rw [hb'] at houtcome
      cases houtcome
      exact .inl ⟨e, rfl, rfl⟩
    | ok r' =>
      rw [hb'] at houtcome
      cases houtcome
  | ok r =>
    rw [hb] at houtcome
    cases hb' : outcome m b' with
    | error e' =>
      rw [hb'] at houtcome
      cases houtcome
    | ok r' =>
      rw [hb'] at houtcome
      exact .inr ⟨r.2, r'.2, rfl, rfl, Except.ok.inj houtcome⟩

theorem Blind.bind (hm : Blind m) {f : Unit → BuildM Unit} (hf : Blind (f ())) :
    Blind (m >>= f) := by
  intro b b' h
  rw [outcome_bind, outcome_bind]
  rcases hm.cases h with ⟨e, hb, hb'⟩ | ⟨b₁, b₁', hb, hb', h₁⟩
  · rw [hb, hb']
  · rw [hb, hb']
    exact hf h₁

theorem Blind.pure : Blind (pure ()) :=
  fun _ _ h => congrArg Except.ok h

theorem Blind.throw (e : BuildError) : Blind (throw e) :=
  fun _ _ _ => rfl

/-- A change that does not look at the order is blind. -/
theorem Blind.modify {f : Builder → Builder} (hf : ∀ b, (f b).folded = f b.folded) :
    Blind (modify f) := by
  intro b b' h
  have hsame : (f b).folded = (f b').folded := by rw [hf, hf, h]
  exact congrArg Except.ok hsame

end Blind

/-! ## Days -/

section Days

variable {b b' : Builder} (h : b.folded = b'.folded)

include h

/-- Dates are read alike, but for the exchange of month and number. -/
theorem readDate_cases (raw : String) :
    (∃ e, b.readDate raw = .error e ∧ b'.readDate raw = .error e) ∨
      (b.readDate raw = .ok none ∧ b'.readDate raw = .ok none) ∨
      ∃ d d', b.readDate raw = .ok (some d) ∧ b'.readDate raw = .ok (some d') ∧
        d.folded = d'.folded := by
  have horder : b.options.dateOrder.folded = b'.options.dateOrder.folded :=
    congrArg (·.options.dateOrder) h
  have hyear : b.defaultYear = b'.defaultYear := congrArg (·.defaultYear) h
  have htoday : b.options.today = b'.options.today := congrArg (·.options.today) h
  have hread := Date.map_folded_read horder b.defaultYear b.options.today (some raw)
  unfold readDate
  rw [← hyear, ← htoday]
  generalize Date.read b.options.dateOrder b.defaultYear b.options.today (some raw) = r at hread ⊢
  generalize Date.read b'.options.dateOrder b.defaultYear b.options.today (some raw) = r' at hread ⊢
  cases r with
  | error e =>
    cases r' with
    | error e' =>
      cases hread
      cases e with
      | overflow => exact .inl ⟨_, rfl, rfl⟩
      | _ => exact .inr (.inl ⟨rfl, rfl⟩)
    | ok d' => cases hread
  | ok d =>
    cases r' with
    | error e' => cases hread
    | ok d' => exact .inr (.inr ⟨d, d', rfl, rfl, Except.ok.inj hread⟩)

theorem isSome_dayOf (raw : String) : (b.dayOf raw).isSome = (b'.dayOf raw).isSome := by
  unfold dayOf
  rcases readDate_cases h raw with ⟨e, hb, hb'⟩ | ⟨hb, hb'⟩ | ⟨d, d', hb, hb', -⟩
  · rw [hb, hb']
  · rw [hb, hb']
  · rw [hb, hb']
    rfl

theorem stopsAt_eq : b.stopsAt = b'.stopsAt := by
  funext tag
  unfold stopsAt
  rcases readDate_cases h tag.2 with ⟨e, hb, hb'⟩ | ⟨hb, hb'⟩ | ⟨d, d', hb, hb', -⟩
  · rw [hb, hb']
  · rw [hb, hb']
  · rw [hb, hb']
    rfl

/-! ## The transaction that is being read -/

theorem folded_open {t t' : OpenTransaction} (ht : t.folded = t'.folded) :
    ({ b with openTransaction := some t } : Builder).folded =
      ({ b' with openTransaction := some t' } : Builder).folded := by
  have hset : ∀ (b₁ : Builder) (t₁ : OpenTransaction),
      ({ b₁ with openTransaction := some t₁ } : Builder).folded =
        { b₁.folded with openTransaction := some t₁.folded } := fun _ _ => rfl
  rw [hset, hset, h, ht]

theorem stopsClosing_eq : b.stopsClosing = b'.stopsClosing := by
  have hopen : b.openTransaction.map OpenTransaction.folded =
      b'.openTransaction.map OpenTransaction.folded := congrArg (·.openTransaction) h
  have hfolded : ∀ b₁ : Builder, b₁.stopsClosing =
      (b₁.openTransaction.map OpenTransaction.folded).any fun t =>
        b₁.stopsIn (OpenTransaction.close t) := by
    intro b₁
    rw [stopsClosing, Option.any_map]
    rfl
  rw [hfolded, hfolded, hopen]
  unfold stopsIn
  rw [stopsAt_eq h]

/-- The end of a transaction is blind to the order. -/
theorem folded_closed : b.closed.folded = b'.closed.folded := by
  have hopen : b.openTransaction.map OpenTransaction.folded =
      b'.openTransaction.map OpenTransaction.folded := congrArg (·.openTransaction) h
  have hidle : b.idle.folded = b'.idle.folded := congrArg idle h
  cases ht : b.openTransaction with
  | none =>
    rw [ht] at hopen
    rw [closed_of_none ht, closed_of_none (Option.map_eq_none_iff.mp hopen.symm)]
    exact hidle
  | some t =>
    rw [ht, Option.map_some] at hopen
    obtain ⟨t', ht', hfolded⟩ := Option.map_eq_some_iff.mp hopen.symm
    have hline : t.line = t'.line := (congrArg (·.line) hfolded).symm
    have hbad : t.badLines = t'.badLines := (congrArg (·.badLines) hfolded).symm
    have hcomplaint : b.complaint t.line = b'.complaint t'.line := by
      have hsource : b.options.source = b'.options.source := congrArg (·.options.source) h
      funext value
      rw [complaint, complaint, hline, hsource]
    have hwarned : (b.idle.warnUnread t).folded = (b'.idle.warnUnread t').folded := by
      unfold warnUnread
      rw [← hline, ← hbad]
      split
      · exact hidle
      · exact congrArg (·.warn t.line (badLinesMessage t.badLines)) hidle
    have hclose : (OpenTransaction.close t).folded = (OpenTransaction.close t').folded :=
      congrArg OpenTransaction.close hfolded.symm
    have hrecorded := Snapshot.folded_recordTransaction (b.complaint t.line) (isSome_dayOf h)
      (congrArg (·.snapshot) hwarned) hclose
    have hrecord : ∀ (b₁ : Builder) (f : Snapshot → Snapshot),
        (b₁.record f).folded = { b₁.folded with snapshot := (f b₁.snapshot).folded } :=
      fun _ _ => rfl
    rw [closed_of_some ht, closed_of_some ht', hrecord, hrecord, hwarned, hrecorded, hcomplaint]

end Days

theorem Blind.closeTransaction : Blind closeTransaction := by
  intro b b' h
  rw [outcome_closeTransaction, outcome_closeTransaction, stopsClosing_eq h]
  split
  · rfl
  · exact congrArg Except.ok (folded_closed h)

/-! ## Directives -/

theorem folded_formatDirective (format : Option Amount.CommodityFormat) (b : Builder) :
    (formatDirective format b).folded = formatDirective format b.folded := by
  have hlast : b.folded.lastCommodity = b.lastCommodity := rfl
  unfold formatDirective
  rw [hlast]
  cases format with
  | none => rfl
  | some f => exact apply_ite folded _ b _

theorem folded_commodityDirective (name : String) (args : List Token) (b : Builder) :
    (commodityDirective name args b).folded = commodityDirective name args b.folded := by
  have hmark : b.folded.snapshot.decimalMark = b.snapshot.decimalMark := rfl
  unfold commodityDirective
  rw [hmark]
  dsimp only
  split
  · exact folded_formatDirective _ b
  · cases firstOf? .commodity args with
    | none => rfl
    | some tok =>
      dsimp only
      split <;> rfl

theorem folded_aliasDirective (args : List Token) (b : Builder) :
    (aliasDirective args b).folded = aliasDirective args b.folded := by
  unfold aliasDirective
  split
  · split
    · rfl
    · split <;> rfl
  · rfl

theorem folded_foldl_mentionCommodity (symbols : List String) (s : Snapshot) :
    (symbols.foldl Snapshot.mentionCommodity s).folded =
      symbols.foldl Snapshot.mentionCommodity s.folded := by
  induction symbols generalizing s with
  | nil => rfl
  | cons symbol rest ih => exact ih (s.mentionCommodity symbol)

/-- A directive is blind to the order. -/
theorem Blind.directive (name : String) (args : List Token) (line : Int) :
    Blind (directive name args line) := by
  refine directive_induction (motive := Blind) .pure ?warn ?commodity ?account ?accountAlias
    ?decimalMark ?inclusion ?price ?payee ?tag ?year ?badYear
  case warn => exact fun _ _ => .modify fun _ => rfl
  case commodity => exact fun _ => .modify (folded_commodityDirective name args)
  case account => exact fun _ => .modify fun _ => rfl
  case accountAlias => exact .modify (folded_aliasDirective args)
  case decimalMark => exact fun _ _ _ => .modify fun _ => rfl
  case inclusion => exact fun _ _ => .modify fun _ => rfl
  case price =>
    intro symbols _
    refine .modify fun b => ?_
    have hprices := folded_foldl_mentionCommodity symbols b.snapshot
    exact congrArg (fun s => { b.folded with snapshot := s }) hprices
  case payee => exact fun _ _ => .modify fun _ => rfl
  case tag => exact fun _ => .modify fun _ => rfl
  case year => exact fun _ _ _ _ _ => .modify fun _ => rfl
  case badYear => exact fun _ _ _ _ _ => .throw _

/-! ## Lines -/

theorem readHeader_folded (t : OpenTransaction) (tokens : List Token) :
    readHeader t.folded tokens = (readHeader t tokens).map OpenTransaction.folded := by
  have htoken : ∀ (t : OpenTransaction) (tok : Token),
      readHeaderToken t.folded tok = (readHeaderToken t tok).map OpenTransaction.folded := by
    intro t tok
    unfold readHeaderToken
    cases tok.kind with
    | status => cases Status.ofMarker? tok.text <;> rfl
    | _ => rfl
  induction tokens generalizing t with
  | nil => rfl
  | cons tok rest ih =>
    rw [readHeader, readHeader, htoken]
    cases readHeaderToken t tok with
    | error e => rfl
    | ok t' => exact ih t'

theorem Blind.openTransactionAt (raw : String) (rest : List Token) (line : Int) :
    Blind (openTransactionAt raw rest line) := by
  intro b b' h
  rw [outcome_openTransactionAt, outcome_openTransactionAt]
  rcases readDate_cases h raw with ⟨e, hb, hb'⟩ | ⟨hb, hb'⟩ | ⟨d, d', hb, hb', hfolded⟩
  · rw [hb, hb']
  · rw [hb, hb']
    exact congrArg (fun b₁ : Builder => Except.ok { b₁.warn line ("invalid date " ++
      Text.quoted raw ++ "; transaction skipped") with skipping := true }) h
  · rw [hb, hb']
    -- the header is read into the same transaction on another day
    have hheader : ∀ d₁ : Date, d₁.folded = d.folded →
        (readHeader ⟨line, d₁, "", .unmarked, none, none, [], [], []⟩ rest).map
          OpenTransaction.folded =
        readHeader ⟨line, d.folded, "", .unmarked, none, none, [], [], []⟩ rest := by
      intro d₁ hd₁
      rw [← readHeader_folded, OpenTransaction.folded, hd₁]
    have hsame := (hheader d rfl).trans (hheader d' hfolded.symm).symm
    dsimp only
    generalize readHeader ⟨line, d, "", .unmarked, none, none, [], [], []⟩ rest = r at hsame ⊢
    generalize readHeader ⟨line, d', "", .unmarked, none, none, [], [], []⟩ rest = r' at hsame ⊢
    cases r with
    | error e =>
      cases r' with
      | error e' =>
        cases hsame
        rfl
      | ok t' => cases hsame
    | ok t =>
      cases r' with
      | error e' => cases hsame
      | ok t' =>
        exact congrArg Except.ok (folded_open h (congrArg (fun t₁ : OpenTransaction =>
          { t₁ with tags := tagPairs rest }) (Except.ok.inj hsame)))

theorem folded_addTags (t : OpenTransaction) (tags : List TagPair) :
    (OpenTransaction.addTags t tags).folded = OpenTransaction.addTags t.folded tags := by
  have hpostings : t.folded.postings = t.postings := rfl
  unfold OpenTransaction.addTags
  rw [hpostings]
  cases t.postings.getLast? <;> rfl

theorem Blind.handleIndented (head : Token) (rest : List Token) (line : Int) :
    Blind (handleIndented head rest line) := by
  intro b b' h
  have hskipping : b.skipping = b'.skipping := congrArg (·.skipping) h
  have hopen : b.openTransaction.map OpenTransaction.folded =
      b'.openTransaction.map OpenTransaction.folded := congrArg (·.openTransaction) h
  have hposting : b.readPosting (head :: rest) = b'.readPosting (head :: rest) :=
    congrArg (·.readPosting (head :: rest)) h
  rw [outcome_handleIndented, outcome_handleIndented, ← hposting]
  by_cases hdir : head.kind = .directive
  · rw [if_pos hdir, if_pos hdir]
    exact Blind.directive _ _ _ h
  rw [if_neg hdir, if_neg hdir]
  by_cases hskip : b.skipping
  · have hskip' : b'.skipping = true := hskipping ▸ hskip
    rw [if_pos hskip, if_pos hskip']
    exact congrArg Except.ok h
  have hskip' : ¬b'.skipping = true := hskipping ▸ hskip
  rw [if_neg hskip, if_neg hskip']
  cases ht : b.openTransaction with
  | none =>
    rw [ht] at hopen
    rw [Option.map_eq_none_iff.mp hopen.symm]
    by_cases hcomment : head.kind = .comment
    · simp only [if_pos hcomment]
      exact congrArg Except.ok h
    · simp only [if_neg hcomment]
      exact congrArg (fun b₁ : Builder =>
        Except.ok (b₁.warn line "indented line outside a transaction")) h
  | some t =>
    rw [ht, Option.map_some] at hopen
    obtain ⟨t', ht', hfolded⟩ := Option.map_eq_some_iff.mp hopen.symm
    rw [ht']
    by_cases hcomment : head.kind = .comment
    · simp only [if_pos hcomment]
      refine congrArg Except.ok (folded_open h ?_)
      rw [folded_addTags, folded_addTags, hfolded]
    · simp only [if_neg hcomment]
      cases b.readPosting (head :: rest) with
      | error e => rfl
      | ok p =>
        cases p with
        | none =>
          exact congrArg Except.ok (folded_open h (congrArg (fun t₁ : OpenTransaction =>
            { t₁ with badLines := t₁.badLines ++ [line] }) hfolded.symm))
        | some p =>
          exact congrArg Except.ok (folded_open h (congrArg (fun t₁ : OpenTransaction =>
            { t₁ with postings := t₁.postings ++ [p] }) hfolded.symm))

theorem Blind.handleFlush (head : Token) (rest : List Token) (line : Int) :
    Blind (handleFlush head rest line) := by
  have hbegin : Blind (begin head rest line) := by
    unfold begin
    split
    · exact .openTransactionAt _ _ _
    · exact .directive _ _ _
    · exact .modify fun _ => rfl
    · exact .pure
  exact Blind.closeTransaction.bind hbegin

/-- **A line is blind to the order of dates.** -/
theorem Blind.handleLine (tokens : List Token) (line : Int) : Blind (handleLine tokens line) := by
  unfold Builder.handleLine
  split
  · exact .closeTransaction
  · split
    · split
      · exact .closeTransaction
      · exact .handleIndented _ _ _
    · exact .handleFlush _ _ _

/-- **Lines are blind to the order of dates.** -/
theorem map_folded_feedLineTokens {first : Int} {lines : List (List Char)} {b b' : Builder}
    (h : b.folded = b'.folded) (hpending : b.pending = []) :
    (outcome (feedLineTokens first lines) b).map (·.2.folded) =
      (outcome (feedLineTokens first lines) b').map (·.2.folded) := by
  induction lines generalizing first b b' with
  | nil => exact congrArg Except.ok h
  | cons cs rest ih =>
    have hpending' : b'.pending = [] := (congrArg (·.pending) h).symm.trans hpending
    rw [outcome_feedLineTokens_cons first cs rest hpending,
      outcome_feedLineTokens_cons first cs rest hpending']
    cases readLine? cs with
    | none => rfl
    | some r =>
      have htaking : (b.taking r first cs.length).folded = (b'.taking r first cs.length).folded :=
        congrArg (·.taking r first cs.length) h
      dsimp only
      rcases (Blind.handleLine (r.tokens first) first).cases htaking with
        ⟨e, hb, hb'⟩ | ⟨b₁, b₁', hb, hb', h₁⟩
      · rw [hb, hb']
      · rw [hb, hb']
        exact ih (congrArg (fun b₂ : Builder => { b₂ with pending := [] }) h₁) rfl

end Builder

/-! ## Texts -/

namespace Snapshot

open Builder BuildM

/-- **The snapshots of a text in both orders** have in common what does not depend on the order. -/
theorem map_folded_ofText {options options' : BuildOptions}
    (h : (Builder.start options).folded = (Builder.start options').folded) (text : String) :
    (ofText options text).map folded = (ofText options' text).map folded := by
  have hlines : (outcome (feedLineTokens 0 (textLines text)) (Builder.start options)).map
      (·.2.folded) =
      (outcome (feedLineTokens 0 (textLines text)) (Builder.start options')).map (·.2.folded) :=
    map_folded_feedLineTokens h rfl
  rw [ofText_eq, ofText_eq]
  generalize outcome (feedLineTokens 0 (textLines text)) (Builder.start options) = r at hlines ⊢
  generalize outcome (feedLineTokens 0 (textLines text)) (Builder.start options') = r' at hlines ⊢
  cases r with
  | error e =>
    cases r' with
    | error e' =>
      cases hlines
      rfl
    | ok r' => cases hlines
  | ok r =>
    cases r' with
    | error e' => cases hlines
    | ok r' =>
      have hstate : r.2.folded = r'.2.folded := Except.ok.inj hlines
      simp only [Except.bind]
      rw [stopsClosing_eq hstate]
      split
      · rfl
      · exact congrArg (fun b : Builder =>
          Except.ok (b.snapshot.addSource b.fingerprint)) (folded_closed hstate)

/-- **The order of day and month decides no more than which days are meant.**  A text names a day in
one order if and only if it names one in the other, and both are the same unless the order decides
which component is the day; then month and number are exchanged.  A text of a journal has the same
snapshot in both orders, with the same number of transactions, but for such days and what is
computed from them. -/
theorem read_and_ofText_of_orders :
    (∀ (defaultYear : Option Int) (today : Date) (raw : Option String),
      ((∃ d, Date.read .dayFirst defaultYear today raw = .ok d) ↔
        ∃ d, Date.read .monthFirst defaultYear today raw = .ok d) ∧
      (¬IsAmbiguous (Text.trimChars (raw.getD "").toList) →
        Date.read .dayFirst defaultYear today raw = Date.read .monthFirst defaultYear today raw) ∧
      (IsAmbiguous (Text.trimChars (raw.getD "").toList) →
        ∀ d d', Date.read .dayFirst defaultYear today raw = .ok d →
          Date.read .monthFirst defaultYear today raw = .ok d' →
            d'.year = d.year ∧ d'.month = d.day ∧ d'.day = d.month)) ∧
    ∀ (options : BuildOptions) (text : String),
      (∃ e, ofText { options with dateOrder := .dayFirst } text = .error e ∧
        ofText { options with dateOrder := .monthFirst } text = .error e) ∨
      ∃ s s', ofText { options with dateOrder := .dayFirst } text = .ok s ∧
        ofText { options with dateOrder := .monthFirst } text = .ok s' ∧
        s.transactions.length = s'.transactions.length ∧ Redated s s' := by
  refine ⟨fun defaultYear today raw => ?_, fun options text => ?_⟩
  · obtain ⟨hexchanged, hsame⟩ := Date.read_monthFirst defaultYear today raw
    refine ⟨?_, fun hambiguous => (hsame hambiguous).symm, fun hambiguous d d' hd hd' => ?_⟩
    · by_cases hambiguous : IsAmbiguous (Text.trimChars (raw.getD "").toList)
      · rw [hexchanged hambiguous]
        cases Date.read .dayFirst defaultYear today raw with
        | error e => exact ⟨nofun, nofun⟩
        | ok d => exact ⟨fun _ => ⟨d.exchange, rfl⟩, fun _ => ⟨d, rfl⟩⟩
      · rw [hsame hambiguous]
    · rw [hexchanged hambiguous, hd] at hd'
      cases hd'
      exact Date.components_exchange (Date.day_le_of_isAmbiguous (.inl rfl) hambiguous hd)
  · have hstart : (Builder.start { options with dateOrder := .dayFirst }).folded =
        (Builder.start { options with dateOrder := .monthFirst }).folded := rfl
    have hfolded := map_folded_ofText hstart text
    cases hs : ofText { options with dateOrder := .dayFirst } text with
    | error e =>
      rw [hs] at hfolded
      cases hs' : ofText { options with dateOrder := .monthFirst } text with
      | error e' =>
        rw [hs'] at hfolded
        cases hfolded
        exact .inl ⟨e, rfl, rfl⟩
      | ok s' =>
        rw [hs'] at hfolded
        cases hfolded
    | ok s =>
      rw [hs] at hfolded
      cases hs' : ofText { options with dateOrder := .monthFirst } text with
      | error e' =>
        rw [hs'] at hfolded
        cases hfolded
      | ok s' =>
        rw [hs'] at hfolded
        have hredated := redated_of_folded_eq (.ofText hs) (.ofText hs') (Except.ok.inj hfolded)
        exact .inr ⟨s, s', rfl, rfl, hredated.transactions.length_eq, hredated⟩

/-- A date whose components can both be months. -/
theorem read_and_ofText_of_third_and_fourth :
    (∀ d d', Date.read .dayFirst none BuildOptions.plain.today (some "03/04/2024") = .ok d →
      Date.read .monthFirst none BuildOptions.plain.today (some "03/04/2024") = .ok d' →
        d'.year = d.year ∧ d'.month = d.day ∧ d'.day = d.month) ∧
    ∃ s s', ofText { BuildOptions.plain with dateOrder := .dayFirst }
        "03/04/2024 x\n a  1\n b\n" = .ok s ∧
      ofText { BuildOptions.plain with dateOrder := .monthFirst }
        "03/04/2024 x\n a  1\n b\n" = .ok s' ∧
      s.transactions.length = 1 ∧ s'.transactions.length = 1 ∧ Redated s s' := by
  obtain ⟨hread, hbuild⟩ := read_and_ofText_of_orders
  have hambiguous : IsAmbiguous (Text.trimChars "03/04/2024".toList) :=
    ⟨3, '/', 4, 2024, WrittenDate.ofChars?_eq_some_iff.mp (by decide +kernel), by decide⟩
  refine ⟨(hread none BuildOptions.plain.today (some "03/04/2024")).2.2 hambiguous, ?_⟩
  have hone : (ofText { BuildOptions.plain with dateOrder := .dayFirst }
      "03/04/2024 x\n a  1\n b\n").map (·.transactions.length) = .ok 1 := by
    decide +kernel
  rcases hbuild .plain "03/04/2024 x\n a  1\n b\n" with ⟨e, hs, -⟩ | ⟨s, s', hs, hs', hlength, hboth⟩
  · rw [hs] at hone
    cases hone
  · rw [hs] at hone
    have hs₁ : s.transactions.length = 1 := Except.ok.inj hone
    exact ⟨s, s', hs, hs', hs₁, hlength ▸ hs₁, hboth⟩

end Snapshot

end Daybook
