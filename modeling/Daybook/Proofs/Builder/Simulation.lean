import Daybook.Proofs.Builder.Lines
import Daybook.Proofs.Snapshot.Joined

/-!
# A text alone and after other lines

The lines of a text are handled in the same way whether they stand alone or after other lines, as
long as nothing of the other lines is still open and they left no commodity format, no decimal mark
and no year behind.  Two builds that take the same lines, one of them some lines further down, stay
in step.

* `Builder.tagPairs_relocate`, `Builder.readHeader_relocate`, `Builder.readPosting_relocate`, …:
  what is read from tokens does not depend on their lines.
* `Builder.Follows`: one build is where another one is, with what was there before.
* `Builder.Simulates`: a step of one build is matched by a step of the other.
* `Builder.Follows.feedLineTokens`: lines one after another keep two builds in step.
-/

namespace Daybook

open Calendar Journal Text

/-- The same transaction some lines further down. -/
def OpenTransaction.relocate (n : Int) (t : OpenTransaction) : OpenTransaction :=
  { t with line := t.line + n, badLines := t.badLines.map (· + n) }

namespace Builder

open BuildM

/-! ## Reading tokens on other lines -/

theorem tagPairsAfter_relocate (n : Int) (key : Option String) (tokens : List Token) :
    tagPairsAfter key (tokens.map (Token.relocate n)) = tagPairsAfter key tokens := by
  induction tokens generalizing key with
  | nil => rfl
  | cons tok rest ih =>
    simp only [List.map_cons, tagPairsAfter, Token.kind_relocate, Token.text_relocate, ih]

theorem tagPairs_relocate (n : Int) (tokens : List Token) :
    tagPairs (tokens.map (Token.relocate n)) = tagPairs tokens :=
  tagPairsAfter_relocate n none tokens

theorem readHeaderToken_relocate (n : Int) (t : OpenTransaction) (tok : Token) :
    readHeaderToken (t.relocate n) (tok.relocate n) =
      (readHeaderToken t tok).map (OpenTransaction.relocate n) := by
  unfold readHeaderToken
  simp only [Token.kind_relocate, Token.text_relocate]
  cases tok.kind with
  | status => cases Status.ofMarker? tok.text <;> rfl
  | _ => rfl

theorem readHeader_relocate (n : Int) (t : OpenTransaction) (tokens : List Token) :
    readHeader (t.relocate n) (tokens.map (Token.relocate n)) =
      (readHeader t tokens).map (OpenTransaction.relocate n) := by
  induction tokens generalizing t with
  | nil => rfl
  | cons tok rest ih =>
    rw [List.map_cons, readHeader, readHeader, readHeaderToken_relocate]
    cases readHeaderToken t tok with
    | error e => rfl
    | ok t' => exact ih t'

theorem readPostingParts_relocate (n : Int) (parts : PostingParts) (tokens : List Token) :
    readPostingParts parts (tokens.map (Token.relocate n)) = readPostingParts parts tokens := by
  induction tokens generalizing parts with
  | nil => rfl
  | cons tok rest ih =>
    have htags : tagPairs (tok.relocate n :: rest.map (Token.relocate n)) =
        tagPairs (tok :: rest) := tagPairs_relocate n (tok :: rest)
    rw [List.map_cons, readPostingParts, readPostingParts]
    simp only [Token.kind_relocate, Token.text_relocate, ih, htags]

/-- Tokens without a first one of some kind. -/
theorem dropFirst_relocate (n : Int) (kind : TokenKind) (tokens : List Token) :
    (if (tokens.map (Token.relocate n)).head?.any (·.kind = kind) then
        (tokens.map (Token.relocate n)).tail
      else tokens.map (Token.relocate n)) =
      (if tokens.head?.any (·.kind = kind) then tokens.tail else tokens).map
        (Token.relocate n) := by
  have hhead : (tokens.map (Token.relocate n)).head?.any (·.kind = kind) =
      tokens.head?.any (·.kind = kind) := by
    cases tokens <;> rfl
  rw [hhead]
  split
  · exact List.map_tail.symm
  · rfl

/-- A posting is read alike where quantities are read alike. -/
theorem readPosting_relocate {b b' : Builder}
    (hmark : ∀ commodity, b'.decimalMarkFor commodity = b.decimalMarkFor commodity) (n : Int)
    (body : List Token) :
    b'.readPosting (body.map (Token.relocate n)) = b.readPosting body := by
  unfold readPosting
  simp only [dropFirst_relocate]
  cases (if body.head?.any (·.kind = .status) then body.tail else body) with
  | nil => rfl
  | cons tok rest =>
    simp only [List.map_cons, Token.kind_relocate, Token.text_relocate,
      readPostingParts_relocate, hmark]

theorem firstOf?_relocate (n : Int) (kind : TokenKind) (tokens : List Token) :
    firstOf? kind (tokens.map (Token.relocate n)) =
      (firstOf? kind tokens).map (Token.relocate n) := by
  rw [firstOf?, List.find?_map, firstOf?]
  rfl

theorem formatSample?_relocate (n : Int) (tokens : List Token) :
    formatSample? (tokens.map (Token.relocate n)) = formatSample? tokens := by
  rw [formatSample?, firstOf?_relocate, firstOf?_relocate, formatSample?]
  cases firstOf? .amount tokens with
  | none => rfl
  | some amount =>
    cases firstOf? .commodity tokens with
    | none => rfl
    | some symbol => rfl

/-! ## Builds in step -/

/-- Whether a snapshot has no decimal mark and no commodity with a format. -/
structure Unformatted (s : Snapshot) : Prop where
  decimalMark : s.decimalMark = none
  format : ∀ ⦃symbol c⦄, s.commodities.get? symbol = some c → c.format = none

/-- Whether a build is where another one is, `n` lines further down and with what was there before
in its snapshot. -/
structure Follows (base : Snapshot) (n : Int) (b b' : Builder) : Prop where
  dateOrder : b'.options.dateOrder = b.options.dateOrder
  today : b'.options.today = b.options.today
  defaultYear : b'.defaultYear = b.defaultYear
  openTransaction : b'.openTransaction = b.openTransaction.map (·.relocate n)
  skipping : b'.skipping = b.skipping
  lastCommodity : b'.lastCommodity = b.lastCommodity
  snapshot : Snapshot.Joined base n b.snapshot b'.snapshot

namespace Follows

variable {base : Snapshot} {n : Int} {b b' : Builder}

theorem record (h : Follows base n b b') {f f' : Snapshot → Snapshot}
    (hf : Snapshot.Joined base n (f b.snapshot) (f' b'.snapshot)) :
    Follows base n (b.record f) (b'.record f') :=
  { h with snapshot := hf }

theorem warn (h : Follows base n b b') (line line' : Int) (message message' : String) :
    Follows base n (b.warn line message) (b'.warn line' message') :=
  h.record (h.snapshot.warn _ _)

theorem readDate (h : Follows base n b b') (raw : String) : b'.readDate raw = b.readDate raw := by
  rw [Builder.readDate, h.dateOrder, h.defaultYear, h.today, Builder.readDate]

theorem dayOf (h : Follows base n b b') : b'.dayOf = b.dayOf := by
  funext raw
  rw [Builder.dayOf, h.readDate, Builder.dayOf]

theorem stopsIn (h : Follows base n b b') (t : Transaction) :
    b'.stopsIn (t.relocate n) = b.stopsIn t := by
  have hstops : b'.stopsAt = b.stopsAt := by
    funext tag
    rw [stopsAt, h.readDate, stopsAt]
  rw [Builder.stopsIn, hstops, Builder.stopsIn]
  rfl

theorem close_relocate (n : Int) (t : OpenTransaction) :
    OpenTransaction.close (t.relocate n) = (OpenTransaction.close t).relocate n := by
  have hbad : (t.badLines.map (· + n)).isEmpty = t.badLines.isEmpty := by
    cases t.badLines <;> rfl
  simp only [OpenTransaction.close, OpenTransaction.relocate, Transaction.relocate, hbad]

theorem stopsClosing (h : Follows base n b b') : b'.stopsClosing = b.stopsClosing := by
  rw [Builder.stopsClosing, Builder.stopsClosing, h.openTransaction]
  cases b.openTransaction with
  | none => rfl
  | some t => simp only [Option.map_some, Option.any_some, close_relocate, h.stopsIn]

theorem idle (h : Follows base n b b') : Follows base n b.idle b'.idle :=
  { h with openTransaction := rfl, skipping := rfl }

theorem warnUnread (h : Follows base n b b') (t : OpenTransaction) :
    Follows base n (b.warnUnread t) (b'.warnUnread (t.relocate n)) := by
  have hbad : (t.relocate n).badLines.isEmpty = t.badLines.isEmpty := by
    simp [OpenTransaction.relocate]
  unfold Builder.warnUnread
  rw [hbad]
  split
  · exact h
  · exact h.warn _ _ _ _

/-- The end of a transaction keeps two builds in step. -/
theorem closed (h : Follows base n b b') : Follows base n b.closed b'.closed := by
  cases ht : b.openTransaction with
  | none =>
    have ht' : b'.openTransaction = none := by rw [h.openTransaction, ht, Option.map_none]
    rw [closed_of_none ht, closed_of_none ht']
    exact h.idle
  | some t =>
    have ht' : b'.openTransaction = some (t.relocate n) := by
      rw [h.openTransaction, ht, Option.map_some]
    rw [closed_of_some ht, closed_of_some ht', close_relocate, h.dayOf]
    have hread := h.idle.warnUnread t
    exact hread.record (hread.snapshot.recordTransaction _ _ _ _)

/-- Quantities are read alike if nothing was left behind about commodities. -/
theorem decimalMarkFor (h : Follows base n b b') (hbase : Unformatted base)
    (commodity : Option String) : b'.decimalMarkFor commodity = b.decimalMarkFor commodity := by
  unfold Builder.decimalMarkFor
  rw [h.snapshot.decimalMark]
  cases b.snapshot.decimalMark with
  | some mark => rfl
  | none =>
    cases commodity with
    | none => rfl
    | some symbol =>
      simp only [h.snapshot.commodities symbol]
      split
      · rfl
      · cases hc : base.commodities.get? symbol with
        | none => simp
        | some c =>
          have hformat := hbase.format hc
          cases b.snapshot.commodities.get? symbol with
          | none => simp [hformat]
          | some d => simp [Commodity.join, hformat]

end Follows

/-- Whether a step of one build is matched by a step of the other. -/
def Simulates (base : Snapshot) (n : Int) (m m' : BuildM Unit) : Prop :=
  ∀ ⦃b b' b₁⦄, Follows base n b b' → outcome m b = .ok ((), b₁) →
    ∃ b₁', outcome m' b' = .ok ((), b₁') ∧ Follows base n b₁ b₁'

namespace Simulates

variable {base : Snapshot} {n : Int}

theorem of_modify {f f' : Builder → Builder}
    (h : ∀ ⦃b b'⦄, Follows base n b b' → Follows base n (f b) (f' b')) :
    Simulates base n (modify f) (modify f') := by
  intro b b' b₁ hb hm
  cases hm
  exact ⟨f' b', rfl, h hb⟩

theorem of_pure : Simulates base n (pure ()) (pure ()) := by
  intro b b' b₁ hb hm
  cases hm
  exact ⟨b', rfl, hb⟩

theorem closeTransaction : Simulates base n closeTransaction closeTransaction := by
  intro b b' b₁ hb hm
  rw [outcome_closeTransaction] at hm
  cases hstop : b.stopsClosing with
  | true =>
    rw [hstop] at hm
    cases hm
  | false =>
    rw [hstop] at hm
    cases hm
    refine ⟨b'.closed, ?_, hb.closed⟩
    rw [outcome_closeTransaction, hb.stopsClosing, hstop]
    rfl

/-! ## Directives -/

theorem formatDirective (format : Option Amount.CommodityFormat) {b b' : Builder}
    (hb : Follows base n b b') :
    Follows base n (formatDirective format b) (formatDirective format b') := by
  cases format with
  | none => exact hb
  | some f =>
    have hnamed : ∀ symbol, Follows base n
        (if symbol.isEmpty then b
          else b.record (·.addCommodity symbol ⟨some { f with symbol }, true⟩))
        (if symbol.isEmpty then b'
          else b'.record (·.addCommodity symbol ⟨some { f with symbol }, true⟩)) := by
      intro symbol
      split
      · exact hb
      · exact hb.record (hb.snapshot.addCommodity _ _)
    unfold Builder.formatDirective
    rw [hb.lastCommodity]
    exact hnamed _

theorem commodityDirective (name : String) (args : List Token) {b b' : Builder}
    (hb : Follows base n b b') :
    Follows base n (commodityDirective name args b)
      (commodityDirective name (args.map (Token.relocate n)) b') := by
  unfold Builder.commodityDirective
  rw [formatSample?_relocate, firstOf?_relocate, hb.snapshot.decimalMark]
  dsimp only
  by_cases hformat : name = "format"
  · rw [if_pos hformat, if_pos hformat]
    exact formatDirective _ hb
  rw [if_neg hformat, if_neg hformat]
  cases firstOf? .commodity args with
  | none => exact hb
  | some tok =>
    simp only [Option.map_some, Token.text_relocate]
    generalize (⟨(formatSample? args).bind
      (Amount.CommodityFormat.ofSample? b.snapshot.decimalMark), true⟩ : Commodity) = commodity
    have hadded : Follows base n
        (b.record (·.addCommodity (Amount.unquoteSymbol tok.text) commodity))
        (b'.record (·.addCommodity (Amount.unquoteSymbol tok.text) commodity)) :=
      hb.record (hb.snapshot.addCommodity _ _)
    by_cases hcommodity : name = "commodity"
    · rw [if_pos hcommodity, if_pos hcommodity]
      exact { hadded with lastCommodity := rfl }
    · rw [if_neg hcommodity, if_neg hcommodity]
      exact hadded.record (hadded.snapshot.setDefaultCommodity _)

theorem aliasDirective (args : List Token) {b b' : Builder} (hb : Follows base n b b') :
    Follows base n (aliasDirective args b)
      (aliasDirective (args.map (Token.relocate n)) b') := by
  have hnames : ((args.map (Token.relocate n)).filter (·.kind = .account)).map (trim ·.text) =
      (args.filter (·.kind = .account)).map (trim ·.text) := by
    rw [List.filter_map, List.map_map]
    rfl
  unfold Builder.aliasDirective
  rw [hnames]
  split
  · split
    · exact hb
    · split
      · exact hb.record (((hb.snapshot.insertAlias _ _).addAccount _ _).addAccount _ _)
      · exact hb
  · exact hb

theorem declarePayee (payee : String) :
    Simulates base n
      (if !payee.isEmpty then modify (·.record (·.declarePayee payee)) else pure ())
      (if !payee.isEmpty then modify (·.record (·.declarePayee payee)) else pure ()) := by
  split
  · exact of_modify fun b b' hb => hb.record (hb.snapshot.declarePayee _)
  · exact of_pure

/-- A directive does the same in both builds. -/
theorem directive (name : String) (args : List Token) (line : Int) :
    Simulates base n (directive name args line)
      (directive name (args.map (Token.relocate n)) (line + n)) := by
  have htext : (args.map (Token.relocate n)).any (·.kind = .text) = args.any (·.kind = .text) := by
    rw [List.any_map]
    rfl
  have hsymbols : ((args.map (Token.relocate n)).filter (·.kind = .commodity)).map
      (Amount.unquoteSymbol ·.text) =
      (args.filter (·.kind = .commodity)).map (Amount.unquoteSymbol ·.text) := by
    rw [List.filter_map, List.map_map]
    rfl
  -- The names are tried one after another, as in the definition.
  unfold Builder.directive
  simp only [htext, firstOf?_relocate]
  by_cases hmalformed : (name = "commodity" ∨ name = "format" ∨ name = "D") ∧
      args.any (·.kind = .text)
  · rw [if_pos hmalformed, if_pos hmalformed]
    exact of_modify fun b b' hb => hb.warn _ _ _ _
  rw [if_neg hmalformed, if_neg hmalformed]
  by_cases hcommodity : name = "commodity" ∨ name = "format" ∨ name = "D"
  · rw [if_pos hcommodity, if_pos hcommodity]
    exact of_modify fun b b' hb => commodityDirective name args hb
  rw [if_neg hcommodity, if_neg hcommodity]
  by_cases haccount : name = "account"
  · rw [if_pos haccount, if_pos haccount]
    cases firstOf? .account args with
    | none => exact of_pure
    | some tok =>
      simp only [Option.map_some, Option.bind_some, Token.text_relocate]
      cases cleanAccount? tok.text with
      | none => exact of_pure
      | some account => exact of_modify fun b b' hb => hb.record (hb.snapshot.addAccount _ _)
  rw [if_neg haccount, if_neg haccount]
  by_cases halias : name = "alias"
  · rw [if_pos halias, if_pos halias]
    exact of_modify fun b b' hb => aliasDirective args hb
  rw [if_neg halias, if_neg halias]
  by_cases hmark : name = "decimal-mark"
  · rw [if_pos hmark, if_pos hmark]
    have htexts : ((firstOf? .text args).map (Token.relocate n)).map (·.text) =
        (firstOf? .text args).map (·.text) := by
      rw [Option.map_map]
      rfl
    rw [htexts]
    split
    · exact of_modify fun b b' hb => hb.record (hb.snapshot.setDecimalMark _)
    · exact of_modify fun b b' hb => hb.record (hb.snapshot.setDecimalMark _)
    · exact of_modify fun b b' hb => hb.warn _ _ _ _
  rw [if_neg hmark, if_neg hmark]
  by_cases hinclude : name = "include"
  · rw [if_pos hinclude, if_pos hinclude]
    cases firstOf? .text args with
    | none => exact of_pure
    | some tok => exact of_modify fun b b' hb => hb.record (hb.snapshot.addInclude _)
  rw [if_neg hinclude, if_neg hinclude]
  by_cases hprice : name = "P"
  · rw [if_pos hprice, if_pos hprice, hsymbols]
    exact of_modify fun b b' hb => hb.record (hb.snapshot.foldl_mentionCommodity _)
  rw [if_neg hprice, if_neg hprice]
  by_cases hpayee : name = "payee"
  · rw [if_pos hpayee, if_pos hpayee]
    cases firstOf? .payee args with
    | none => exact of_pure
    | some tok => exact declarePayee (payeeName tok.text)
  rw [if_neg hpayee, if_neg hpayee]
  by_cases htag : name = "tag"
  · rw [if_pos htag, if_pos htag]
    cases firstOf? .tagKey args with
    | none => exact of_pure
    | some tok => exact of_modify fun b b' hb => hb.record (hb.snapshot.declareTag _)
  rw [if_neg htag, if_neg htag]
  by_cases hyear : name = "Y" ∨ name = "year"
  · rw [if_pos hyear, if_pos hyear]
    cases firstOf? .text args with
    | none => exact of_pure
    | some tok =>
      simp only [Option.map_some, Token.text_relocate]
      cases Number.readInteger tok.text with
      | error e =>
        intro b b' b₁ hb hm
        rw [outcome_throw] at hm
        cases hm
      | ok year => exact of_modify fun b b' hb => { hb with defaultYear := rfl }
  · rw [if_neg hyear, if_neg hyear]
    exact of_pure

/-! ## Lines -/

theorem openTransactionAt (raw : String) (rest : List Token) (line : Int) :
    Simulates base n (openTransactionAt raw rest line)
      (openTransactionAt raw (rest.map (Token.relocate n)) (line + n)) := by
  intro b b' b₁ hb hm
  have hheader : ∀ date,
      readHeader ⟨line + n, date, "", .unmarked, none, none, [], [], []⟩
        (rest.map (Token.relocate n)) =
      (readHeader ⟨line, date, "", .unmarked, none, none, [], [], []⟩ rest).map
        (OpenTransaction.relocate n) :=
    fun date => readHeader_relocate n ⟨line, date, "", .unmarked, none, none, [], [], []⟩ rest
  rw [outcome_openTransactionAt] at hm ⊢
  rw [hb.readDate]
  cases hdate : b.readDate raw with
  | error e =>
    rw [hdate] at hm
    cases hm
  | ok day =>
    rw [hdate] at hm
    cases day with
    | none =>
      cases hm
      exact ⟨_, rfl, { hb.warn _ _ _ _ with skipping := rfl }⟩
    | some date =>
      dsimp only at hm ⊢
      rw [hheader, tagPairs_relocate]
      cases hread : readHeader ⟨line, date, "", .unmarked, none, none, [], [], []⟩ rest with
      | error e =>
        rw [hread] at hm
        cases hm
      | ok t =>
        rw [hread] at hm
        cases hm
        exact ⟨_, rfl, { hb with openTransaction := rfl }⟩

theorem addTags_relocate (n : Int) (t : OpenTransaction) (tags : List TagPair) :
    OpenTransaction.addTags (t.relocate n) tags =
      (OpenTransaction.addTags t tags).relocate n := by
  unfold OpenTransaction.addTags
  simp only [OpenTransaction.relocate]
  cases t.postings.getLast? <;> rfl

theorem handleIndented (hbase : Unformatted base) (head : Token) (rest : List Token)
    (line : Int) :
    Simulates base n (handleIndented head rest line)
      (handleIndented (head.relocate n) (rest.map (Token.relocate n)) (line + n)) := by
  intro b b' b₁ hb hm
  have hkind : (head.relocate n).kind = head.kind := rfl
  rw [outcome_handleIndented] at hm ⊢
  by_cases hdir : head.kind = .directive
  · rw [if_pos hdir] at hm
    rw [if_pos (hkind.trans hdir)]
    exact directive head.text rest line hb hm
  rw [if_neg hdir] at hm
  rw [if_neg (hkind ▸ hdir)]
  by_cases hskip : b.skipping
  · rw [if_pos hskip] at hm
    rw [if_pos (hb.skipping.trans hskip)]
    cases hm
    exact ⟨b', rfl, hb⟩
  rw [if_neg hskip] at hm
  rw [if_neg (hb.skipping ▸ hskip), hb.openTransaction]
  cases ht : b.openTransaction with
  | none =>
    rw [ht] at hm
    cases hm
    refine ⟨_, rfl, ?_⟩
    by_cases hcomment : head.kind = .comment
    · rw [if_pos hcomment, if_pos (hkind.trans hcomment)]
      exact hb
    · rw [if_neg hcomment, if_neg (hkind ▸ hcomment)]
      exact hb.warn _ _ _ _
  | some t =>
    rw [ht] at hm
    dsimp only [Option.map_some] at hm ⊢
    have htags : tagPairs (head.relocate n :: rest.map (Token.relocate n)) =
        tagPairs (head :: rest) := tagPairs_relocate n (head :: rest)
    have hposting : b'.readPosting (head.relocate n :: rest.map (Token.relocate n)) =
        b.readPosting (head :: rest) :=
      readPosting_relocate (hb.decimalMarkFor hbase) n (head :: rest)
    by_cases hcomment : head.kind = .comment
    · rw [if_pos hcomment] at hm
      rw [if_pos (hkind.trans hcomment), htags, addTags_relocate]
      cases hm
      exact ⟨_, rfl, { hb with openTransaction := rfl }⟩
    rw [if_neg hcomment] at hm
    rw [if_neg (hkind ▸ hcomment), hposting]
    cases hread : b.readPosting (head :: rest) with
    | error e =>
      rw [hread] at hm
      cases hm
    | ok p =>
      rw [hread] at hm
      cases p with
      | none =>
        cases hm
        refine ⟨_, rfl, { hb with openTransaction := ?_ }⟩
        simp [OpenTransaction.relocate]
      | some p =>
        cases hm
        exact ⟨_, rfl, { hb with openTransaction := rfl }⟩

theorem handleFlush (head : Token) (rest : List Token) (line : Int) :
    Simulates base n (handleFlush head rest line)
      (handleFlush (head.relocate n) (rest.map (Token.relocate n)) (line + n)) := by
  have hbegin : Simulates base n (begin head rest line)
      (begin (head.relocate n) (rest.map (Token.relocate n)) (line + n)) := by
    unfold begin
    simp only [Token.kind_relocate, Token.text_relocate]
    split
    · exact openTransactionAt _ _ _
    · exact directive _ _ _
    · exact of_modify fun b b' hb => hb.warn _ _ _ _
    · exact of_pure
  intro b b' b₁ hb hm
  rw [outcome_handleFlush] at hm ⊢
  rw [hb.stopsClosing]
  cases hstop : b.stopsClosing with
  | true =>
    rw [hstop] at hm
    cases hm
  | false =>
    rw [hstop] at hm
    exact hbegin hb.closed hm

/-- **A line does the same in both builds.** -/
theorem handleLine (hbase : Unformatted base) (tokens : List Token) (line : Int) :
    Simulates base n (handleLine tokens line)
      (handleLine (tokens.map (Token.relocate n)) (line + n)) := by
  cases tokens with
  | nil => exact closeTransaction
  | cons first others =>
    have hkind : (first.relocate n).kind = first.kind := rfl
    unfold Builder.handleLine
    rw [List.map_cons]
    dsimp only
    by_cases hindent : first.kind = .indent
    · rw [if_pos hindent, if_pos (hkind.trans hindent)]
      cases others with
      | nil => exact closeTransaction
      | cons head rest => exact handleIndented hbase head rest line
    · rw [if_neg hindent, if_neg (hkind ▸ hindent)]
      exact handleFlush first others line

end Simulates

/-- **Lines keep two builds in step**, one of them `n` lines further down. -/
theorem Follows.feedLineTokens {base : Snapshot} {n : Int} (hbase : Unformatted base) {first : Int}
    {lines : List (List Char)} {b b' b₁ : Builder} (hb : Follows base n b b')
    (hpending : b.pending = []) (hpending' : b'.pending = [])
    (h : outcome (feedLineTokens first lines) b = .ok ((), b₁)) :
    ∃ b₁', outcome (feedLineTokens (first + n) lines) b' = .ok ((), b₁') ∧
      Follows base n b₁ b₁' := by
  induction lines generalizing first b b' with
  | nil =>
    cases h
    exact ⟨b', rfl, hb⟩
  | cons cs rest ih =>
    obtain ⟨r, b₂, hr, hline, hrest⟩ := feedLineTokens_cons_eq_ok hpending h
    have htaking : Follows base n (b.taking r first cs.length)
        (b'.taking r (first + n) cs.length) := { hb with }
    obtain ⟨b₂', hline', hb₂⟩ := Simulates.handleLine hbase (r.tokens first) first htaking hline
    have hcleared : Follows base n { b₂ with pending := [] } { b₂' with pending := [] } :=
      { hb₂ with }
    obtain ⟨b₁', hrest', hb₁⟩ := ih hcleared rfl rfl hrest
    refine ⟨b₁', ?_, hb₁⟩
    have hfirst : first + n + 1 = first + 1 + n := by omega
    rw [outcome_feedLineTokens_cons _ _ _ hpending', hr]
    dsimp only
    rw [r.tokens_relocate, hline', hfirst]
    exact hrest'

end Builder

end Daybook
