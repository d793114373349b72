import Daybook.Proofs.Amount.Quoting
import Daybook.Proofs.Builder.Effect
import Daybook.Proofs.Snapshot.Recount

/-!
# Symbols that journals bring in

A symbol comes into a snapshot from a posting, from the cost or the asserted balance of one, or from a
directive, and each time from a token that has the shape of a symbol or from a sample amount.  So all
symbols of a snapshot can stand between quotes.  Nothing is said of tokens that no line has: a build
that is fed with those records whatever they hold.

* `commodity_of_mem_tokens`: the commodity tokens of a line are symbols as they are written.
* `Journal.Posting.Quotable`, `Snapshot.Quotable`, `Builder.Quotable`: all symbols of a posting, of a
  snapshot, and of the state of a build can stand between quotes.
* `Builder.keeps_quotable_handleLine`: a line hands this on; `Builder.keeps_quotable_directive`.
* `Snapshot.quotable_of_reachable`: the symbols of any reachable snapshot.
-/

namespace Daybook

open Amount Journal Text

/-- The symbol that an entry brings in. -/
def BookEntry.symbols : BookEntry → List String
  | commodity c | sideCommodity c => [c]
  | _ => []

/-! ## Symbols of lines -/

namespace Journal

/-- The only groups for a commodity are those with the shape of a symbol. -/
theorem commodity_of_mem_groups {rule : LineRule} (hrule : rule ∈ LineRule.table)
    {q : Pattern Field} (h : (Field.commodity, q) ∈ rule.pattern.groups) : q = commodityPattern := by
  have hgroups : rule.pattern.groups.filter (·.1 = .commodity) = [] ∨
      rule.pattern.groups.filter (·.1 = .commodity) = [(.commodity, commodityPattern)] := by
    simp only [LineRule.table, List.mem_cons, List.not_mem_nil, or_false] at hrule
    rcases hrule with rfl | rfl | rfl | rfl | rfl | rfl | rfl | rfl | rfl | rfl | rfl | rfl | rfl |
      rfl | rfl | rfl | rfl <;> first | exact .inl rfl | exact .inr rfl
  have hmem : (Field.commodity, q) ∈ rule.pattern.groups.filter (·.1 = .commodity) :=
    List.mem_filter.mpr ⟨h, by simp⟩
  rcases hgroups with hnone | hone
  · rw [hnone] at hmem
    cases hmem
  · rw [hone] at hmem
    cases List.mem_singleton.mp hmem
    rfl

/-- The symbol of an amount is a symbol as it is written. -/
theorem commodity_of_mem_amountTokens {symbolAlone : Bool} {cs : List Char} {line : Int}
    {column : Nat} {tok : Token} (h : tok ∈ amountTokens symbolAlone cs line column)
    (hkind : tok.kind = .commodity) : IsSymbolText tok.text.toList := by
  unfold amountTokens at h
  split at h
  · cases h
  split at h
  · rename_i a ha
    obtain ⟨-, -, -, -, -, -, ⟨-, hnone⟩ | ⟨start, stop, hspan, -, htext⟩⟩ :=
      exists_pieces_of_ofChars? ha
    · rw [amountPieces, hnone] at h
      cases List.mem_singleton.mp h
      cases hkind
    · rw [amountPieces, hspan] at h
      have hpair : tok = ⟨.amount, a.quantity, line, column + a.start⟩ ∨
          tok = ⟨.commodity, String.ofList (Match.slice cs start stop), line, column + start⟩ := by
        dsimp only at h
        split at h
        · exact List.mem_pair.mp h
        · exact (List.mem_pair.mp h).symm
      rcases hpair with rfl | rfl
      · cases hkind
      · rwa [String.toList_ofList]
  · cases List.mem_singleton.mp h
    rw [trimmedToken] at hkind ⊢
    dsimp only at hkind
    split at hkind
    · rename_i halone
      rw [Bool.and_eq_true] at halone
      obtain ⟨symbol, hsymbol⟩ := Option.isSome_iff_exists.mp halone.2
      have htext := (symbolOf?_eq_some_iff.mp hsymbol).1
      rw [String.toList_ofList] at htext
      rwa [String.toList_ofList]
    · cases hkind

/-- **A commodity token of a line** is a symbol as it is written. -/
theorem commodity_of_mem_tokens {cs : List Char} {r : ReadLine} (hr : readLine? cs = some r)
    {line : Int} {tok : Token} (h : tok ∈ r.tokens line) (hkind : tok.kind = .commodity) :
    IsSymbolText tok.text.toList := by
  obtain ⟨field, text, column, hfield, htok⟩ := exists_field_of_mem_tokens h
  unfold fieldTokens at htok
  split at htok
  · split at htok
    · cases htok
    · cases List.mem_singleton.mp htok
      cases hkind
  · rcases mem_taggedTokens htok with hother | hother | hother <;> cases hother.symm.trans hkind
  · split at htok
    · cases htok
    · rcases mem_taggedTokens htok with hother | hother | hother <;> cases hother.symm.trans hkind
  · exact commodity_of_mem_amountTokens htok hkind
  · split at htok
    · cases htok
    · cases List.mem_singleton.mp htok
      obtain rfl : field = .commodity := by
        cases field <;> first | rfl | cases hkind
      obtain ⟨hrule, taken, hfits⟩ := fits_of_readLine? hr
      obtain ⟨q, inner, hgroup, hq⟩ := hfits.exists_group hfield
      cases commodity_of_mem_groups hrule hgroup
      have htext := (fits_commodityPattern.mp hq).1
      rwa [trimmedToken, String.toList_ofList, htext.noBlankEnds.trimChars_eq]

/-- The symbols that the entries of a transaction bring in are those of its postings. -/
theorem exists_posting_of_mem_entries {day : String → Option Calendar.Date} {t : Transaction}
    {symbol : String} (h : symbol ∈ (t.entries day).flatMap BookEntry.symbols) :
    ∃ p ∈ t.postings, p.commodity = some symbol ∨ symbol ∈ p.sideCommodities := by
  rw [t.flatMap_entries (fun _ => rfl) (fun _ => rfl)] at h
  simp only [BookEntry.symbols, List.mem_append, List.mem_flatMap, List.mem_singleton,
    List.not_mem_nil, and_false, exists_false, false_or, or_false] at h
  obtain ⟨p, hp, ⟨c, hc, rfl⟩ | ⟨c, hc, rfl⟩⟩ := h
  · exact ⟨p, hp, .inl (Option.mem_toList.mp (List.mem_of_mem_filter hc))⟩
  · exact ⟨p, hp, .inr hc⟩

/-- Whether all symbols of a posting can stand between quotes. -/
structure Posting.Quotable (p : Posting) : Prop where
  commodity : ∀ symbol ∈ p.commodity, IsQuotable symbol
  side : ∀ symbol ∈ p.sideCommodities, IsQuotable symbol

end Journal

/-! ## Snapshots -/

namespace Snapshot

/-- Whether all symbols of a snapshot can stand between quotes. -/
structure Quotable (s : Snapshot) : Prop where
  commodities : ∀ symbol ∈ s.commodities.keys, IsQuotable symbol
  defaultCommodity : ∀ symbol ∈ s.defaultCommodity, IsQuotable symbol
  postings : ∀ t ∈ s.transactions, ∀ p ∈ t.postings, p.Quotable

theorem quotable_empty : Quotable .empty where
  commodities := nofun
  defaultCommodity := nofun
  postings := nofun

variable {s : Snapshot}

/-- The keys of the commodities with one more. -/
theorem mem_keys_addCommodity {symbol other : String} {commodity : Commodity}
    (h : other ∈ (s.addCommodity symbol commodity).commodities.keys) :
    other = symbol ∨ other ∈ s.commodities.keys := by
  rw [← Table.contains_iff_mem_keys, addCommodity, Table.contains_alter] at h
  rwa [← Table.contains_iff_mem_keys]

theorem Quotable.addCommodity (h : s.Quotable) {symbol : String} (hsymbol : IsQuotable symbol)
    (commodity : Commodity) : (s.addCommodity symbol commodity).Quotable where
  commodities other hother := by
    rcases mem_keys_addCommodity hother with rfl | hother
    · exact hsymbol
    · exact h.commodities other hother
  defaultCommodity := h.defaultCommodity
  postings := h.postings

theorem Quotable.foldl_mentionCommodity (h : s.Quotable) {symbols : List String}
    (hsymbols : ∀ symbol ∈ symbols, IsQuotable symbol) :
    (symbols.foldl mentionCommodity s).Quotable := by
  induction symbols generalizing s with
  | nil => exact h
  | cons symbol rest ih =>
    exact ih (h.addCommodity (hsymbols symbol List.mem_cons_self) _) fun other hother =>
      hsymbols other (List.mem_cons_of_mem _ hother)

/-- Entries hand on that all symbols can stand between quotes, if their own can. -/
theorem Quotable.foldl_record (h : s.Quotable) (complaint : String → Warning)
    {entries : List BookEntry}
    (hentries : ∀ symbol ∈ entries.flatMap BookEntry.symbols, IsQuotable symbol) :
    (entries.foldl (BookEntry.record complaint) s).Quotable := by
  induction entries generalizing s with
  | nil => exact h
  | cons e rest ih =>
    rw [List.flatMap_cons, List.forall_mem_append] at hentries
    refine ih ?_ hentries.2
    cases e with
    | tag tag =>
      rw [BookEntry.record, useTag_eq]
      exact { h with }
    | commodity symbol =>
      exact { h.addCommodity (hentries.1 symbol List.mem_cons_self) ⟨none, false⟩ with }
    | sideCommodity symbol => exact h.addCommodity (hentries.1 symbol List.mem_cons_self) _
    | _ => exact { h with }

theorem Quotable.recordTransaction (h : s.Quotable) (day : String → Option Calendar.Date)
    (complaint : String → Warning) {t : Transaction} (ht : ∀ p ∈ t.postings, p.Quotable) :
    (s.recordTransaction day complaint t).Quotable := by
  have hstart : ({ s with transactions := s.transactions ++ [t] } : Snapshot).Quotable :=
    { h with
      postings := fun t' ht' => (List.mem_append.mp ht').elim (h.postings t') fun hlast => by
        cases List.mem_singleton.mp hlast
        exact ht }
  have henter : (s.enter day complaint t).Quotable := by
    refine hstart.foldl_record complaint fun symbol hsymbol => ?_
    obtain ⟨p, hp, hcommodity | hside⟩ := exists_posting_of_mem_entries hsymbol
    · exact (ht p hp).commodity symbol hcommodity
    · exact (ht p hp).side symbol hside
  rw [recordTransaction_eq]
  split
  · exact { henter with }
  · exact henter

theorem Quotable.absorb {a b : Snapshot} (ha : a.Quotable) (hb : b.Quotable) :
    (a.absorb b).Quotable := by
  rw [absorb_eq]
  constructor
  · intro symbol hsymbol
    rw [← Table.contains_iff_mem_keys,
      Table.contains_foldl_alter (fun e : String × Commodity => e.1)] at hsymbol
    rcases hsymbol with hsymbol | hsymbol
    · exact ha.commodities symbol (Table.contains_iff_mem_keys.mp hsymbol)
    · exact hb.commodities symbol hsymbol
  · intro symbol hsymbol
    rcases Option.or_eq_some_iff.mp (Option.or_eq_orElse.trans hsymbol) with hsymbol | ⟨-, hsymbol⟩
    · exact ha.defaultCommodity symbol hsymbol
    · exact hb.defaultCommodity symbol hsymbol
  · intro t ht
    exact (List.mem_append.mp ht).elim (ha.postings t) (hb.postings t)

end Snapshot

/-! ## Builds -/

namespace Builder

open BuildM

/-- Whether all symbols that a build has come across can stand between quotes. -/
structure Quotable (b : Builder) : Prop where
  snapshot : b.snapshot.Quotable
  lastCommodity : ∀ symbol ∈ b.lastCommodity, IsQuotable symbol
  reading : ∀ t ∈ b.openTransaction, ∀ p ∈ t.postings, p.Quotable

/-- Whether the commodity tokens among some tokens are symbols as they are written. -/
def HasSymbolTexts (tokens : List Token) : Prop :=
  ∀ tok ∈ tokens, tok.kind = .commodity → IsSymbolText tok.text.toList

variable {b : Builder} {tokens : List Token}

theorem HasSymbolTexts.isQuotable (h : HasSymbolTexts tokens) {tok : Token} (htok : tok ∈ tokens)
    (hkind : tok.kind = .commodity) : IsQuotable (unquoteSymbol tok.text) :=
  (h tok htok hkind).isQuotable

theorem HasSymbolTexts.subset (h : HasSymbolTexts tokens) {others : List Token}
    (hsubset : others ⊆ tokens) : HasSymbolTexts others :=
  fun tok htok => h tok (hsubset htok)

theorem Quotable.record (h : b.Quotable) {f : Snapshot → Snapshot} (hf : (f b.snapshot).Quotable) :
    (b.record f).Quotable where
  snapshot := hf
  lastCommodity := h.lastCommodity
  reading := h.reading

theorem Quotable.warn (h : b.Quotable) (line : Int) (message : String) :
    (b.warn line message).Quotable :=
  h.record { h.snapshot with }

theorem Quotable.closed (h : b.Quotable) : b.closed.Quotable := by
  have hidle : b.idle.Quotable := { h with reading := nofun }
  cases ht : b.openTransaction with
  | none => rwa [closed_of_none ht]
  | some t =>
    have hwarned : (b.idle.warnUnread t).Quotable :=
      warnUnread_induction hidle (hidle.warn _ _)
    rw [closed_of_some ht]
    refine hwarned.record (hwarned.snapshot.recordTransaction _ _ fun p hp => h.reading t ht p ?_)
    unfold OpenTransaction.close at hp
    dsimp only at hp
    split at hp
    · exact hp
    · cases hp

/-! ### Directives -/

theorem keeps_modify {P : Builder → Prop} {f : Builder → Builder} (h : ∀ b, P b → P (f b)) :
    Keeps P (modify f) := by
  intro b a b' hstep hb
  cases hstep
  exact h b hb

theorem keeps_pure {P : Builder → Prop} : Keeps P (pure ()) := by
  intro b a b' hstep hb
  cases hstep
  exact hb

theorem keeps_record {f : Snapshot → Snapshot} (h : ∀ s : Snapshot, s.Quotable → (f s).Quotable) :
    Keeps Quotable (modify (·.record f)) :=
  keeps_modify fun _ hb => hb.record (h _ hb.snapshot)

/-- The symbol of a sample can stand between quotes. -/
theorem isQuotable_of_ofSample? {mark : Option String} {sample : String} {f : CommodityFormat}
    (h : CommodityFormat.ofSample? mark sample = some f) : IsQuotable f.symbol := by
  unfold CommodityFormat.ofSample? at h
  split at h
  · cases h
  rename_i a ha
  split at h
  · cases h
  rename_i symbol hsymbol
  cases h
  obtain ⟨-, -, -, -, -, -, ⟨hnone, -⟩ | ⟨start, stop, -, hsome, htext⟩⟩ :=
    exists_pieces_of_ofChars? ha
  · cases hnone.symm.trans hsymbol
  · cases hsome.symm.trans hsymbol
    exact htext.isQuotable

theorem Quotable.formatDirective (h : b.Quotable) {format : Option CommodityFormat}
    (hformat : ∀ f ∈ format, IsQuotable f.symbol) : (formatDirective format b).Quotable := by
  unfold Builder.formatDirective
  split
  · exact h
  rename_i f
  have hf : IsQuotable f.symbol := hformat f rfl
  refine iteInduction (fun _ => h) fun _ => h.record (h.snapshot.addCommodity ?_ _)
  split
  · rename_i c hc
    split
    · exact hf
    · exact h.lastCommodity c hc
  · exact hf

theorem Quotable.commodityDirective (h : b.Quotable) (name : String) {args : List Token}
    (hargs : HasSymbolTexts args) : (commodityDirective name args b).Quotable := by
  unfold Builder.commodityDirective
  dsimp only
  split
  · refine h.formatDirective fun f hf => ?_
    obtain ⟨sample, -, hsample⟩ := Option.bind_eq_some_iff.mp hf
    exact isQuotable_of_ofSample? hsample
  split
  · exact h
  rename_i tok htok
  have hsymbol : IsQuotable (unquoteSymbol tok.text) :=
    hargs.isQuotable (List.mem_of_find?_eq_some htok) (by simpa using List.find?_some htok)
  have hadded := h.record (f := (·.addCommodity (unquoteSymbol tok.text)
    ⟨(formatSample? args).bind (CommodityFormat.ofSample? b.snapshot.decimalMark), true⟩))
    (h.snapshot.addCommodity hsymbol _)
  split
  · exact { hadded with lastCommodity := fun symbol hlast => Option.some.inj hlast ▸ hsymbol }
  · refine hadded.record { hadded.snapshot with defaultCommodity := fun symbol hdefault => ?_ }
    rcases Option.or_eq_some_iff.mp (Option.or_eq_orElse.trans hdefault) with hold | ⟨-, hnew⟩
    · exact hadded.snapshot.defaultCommodity symbol hold
    · exact Option.some.inj hnew ▸ hsymbol

theorem Quotable.aliasDirective (h : b.Quotable) (args : List Token) :
    (aliasDirective args b).Quotable := by
  unfold Builder.aliasDirective
  split
  · split
    · exact h
    · split
      · exact h.record { h.snapshot with }
      · exact h
  · exact h

/-- **A directive hands on that all symbols can stand between quotes**, if its own can. -/
theorem keeps_quotable_directive (name : String) {args : List Token} (hargs : HasSymbolTexts args)
    (line : Int) : Keeps Quotable (directive name args line) := by
  refine directive_induction (motive := Keeps Quotable) keeps_pure ?warn ?commodity ?account
    ?accountAlias ?decimalMark ?inclusion ?price ?payee ?tag ?year ?badYear
  case warn => exact fun _ _ => keeps_modify fun _ hb => hb.warn _ _
  case commodity => exact fun _ => keeps_modify fun _ hb => hb.commodityDirective name hargs
  case account => exact fun _ => keeps_record fun _ hs => { hs with }
  case accountAlias => exact keeps_modify fun _ hb => hb.aliasDirective args
  case decimalMark => exact fun _ _ _ => keeps_record fun _ hs => { hs with }
  case inclusion => exact fun _ _ => keeps_record fun _ hs => { hs with }
  case price =>
    refine fun symbols hsymbols => keeps_record fun s hs => hs.foldl_mentionCommodity ?_
    intro symbol hsymbol
    obtain ⟨tok, htok, hkind, rfl⟩ := hsymbols symbol hsymbol
    exact hargs.isQuotable htok hkind
  case payee => exact fun _ _ => keeps_record fun _ hs => { hs with }
  case tag => exact fun _ => keeps_record fun _ hs => { hs with }
  case year => exact fun _ _ _ _ _ => keeps_modify fun _ hb => { hb with }
  case badYear =>
    intro _ _ _ _ _ b a b' hstep
    cases hstep

/-! ### Postings -/

/-- The symbols of the parts of a posting that have been read. -/
structure PostingParts.Quotable (parts : PostingParts) : Prop where
  commodity : ∀ symbol ∈ parts.commodity, IsQuotable symbol
  side : ∀ symbol ∈ parts.side, IsQuotable symbol

theorem PostingParts.Quotable.read {parts parts' : PostingParts} (hparts : parts.Quotable)
    (htokens : HasSymbolTexts tokens) (h : readPostingParts parts tokens = some parts') :
    parts'.Quotable := by
  induction tokens generalizing parts with
  | nil =>
    cases h
    exact hparts
  | cons tok rest ih =>
    have hrest := htokens.subset (List.subset_cons_self tok rest)
    unfold readPostingParts at h
    split at h
    · cases h
    · cases h
      exact { hparts with }
    · have hnext : PostingParts.Quotable { parts with afterOperator := true } := { hparts with }
      exact ih hnext hrest h
    · split at h
      · exact ih hparts hrest h
      · have hnext : PostingParts.Quotable { parts with amount := some tok.text } :=
          { hparts with }
        exact ih hnext hrest h
    · rename_i hkind
      have hsymbol := htokens.isQuotable List.mem_cons_self hkind
      dsimp only at h
      split at h
      · refine ih ?_ hrest h
        exact { hparts with commodity := fun symbol hnew => Option.some.inj hnew ▸ hsymbol }
      split at h
      · exact ih hparts hrest h
      · refine ih ?_ hrest h
        refine { hparts with side := fun symbol hmem => ?_ }
        rcases List.mem_append.mp hmem with hold | hnew
        · exact hparts.side symbol hold
        · exact List.mem_singleton.mp hnew ▸ hsymbol
    · exact ih hparts hrest h

/-- The symbols of a posting that was read. -/
theorem quotable_of_readPosting {body : List Token} {p : Posting} (hbody : HasSymbolTexts body)
    (h : b.readPosting body = .ok (some p)) : p.Quotable := by
  obtain ⟨behind, account, parts, hsubset, hparts, rfl⟩ := exists_parts_of_readPosting h
  have hstart : PostingParts.Quotable ⟨none, none, false, [], []⟩ := ⟨nofun, nofun⟩
  obtain ⟨hcommodity, hside⟩ := hstart.read (hbody.subset hsubset) hparts
  exact ⟨hcommodity, hside⟩

theorem quotable_addTags {t : OpenTransaction} (ht : ∀ p ∈ t.postings, p.Quotable)
    (tags : List TagPair) : ∀ p ∈ (OpenTransaction.addTags t tags).postings, p.Quotable := by
  unfold OpenTransaction.addTags
  split
  · exact ht
  · rename_i last hlast
    intro p hp
    rcases List.mem_append.mp hp with hp | hp
    · exact ht p (List.mem_of_mem_dropLast hp)
    · cases List.mem_singleton.mp hp
      have hlastQuotable := ht last (List.mem_of_mem_getLast? hlast)
      exact { hlastQuotable with }

/-! ### Lines -/

theorem keeps_quotable_openTransactionAt (raw : String) (rest : List Token) (line : Int) :
    Keeps Quotable (openTransactionAt raw rest line) := by
  intro b a b' h hb
  rw [outcome_openTransactionAt] at h
  split at h
  · cases h
  · cases h
    exact { hb.warn line _ with }
  · split at h
    · cases h
    · rename_i t ht
      cases h
      obtain ⟨-, hpostings, -⟩ := readHeader_frame ht
      refine { hb with reading := ?_ }
      rintro _ ⟨⟩ p hp
      cases hpostings ▸ hp

theorem keeps_quotable_handleIndented {head : Token} {rest : List Token}
    (htokens : HasSymbolTexts (head :: rest)) (line : Int) :
    Keeps Quotable (handleIndented head rest line) := by
  intro b a b' h hb
  rw [outcome_handleIndented] at h
  split at h
  · exact keeps_quotable_directive _ (htokens.subset (List.subset_cons_self head rest)) line h hb
  split at h
  · cases h
    exact hb
  split at h
  · cases h
    split
    · exact hb
    · exact hb.warn _ _
  rename_i t ht
  have hold := hb.reading t ht
  split at h
  · cases h
    refine { hb with reading := ?_ }
    rintro _ ⟨⟩
    exact quotable_addTags hold _
  split at h
  · cases h
  · cases h
    refine { hb with reading := ?_ }
    rintro _ ⟨⟩
    exact hold
  · rename_i p hp
    cases h
    refine { hb with reading := ?_ }
    rintro _ ⟨⟩ q hq
    rcases List.mem_append.mp hq with hq | hq
    · exact hold q hq
    · cases List.mem_singleton.mp hq
      exact quotable_of_readPosting htokens hp

theorem keeps_quotable_handleFlush {head : Token} {rest : List Token}
    (htokens : HasSymbolTexts (head :: rest)) (line : Int) :
    Keeps Quotable (handleFlush head rest line) := by
  intro b a b' h hb
  rw [outcome_handleFlush] at h
  split at h
  · cases h
  unfold begin at h
  split at h
  · exact keeps_quotable_openTransactionAt _ _ _ h hb.closed
  · exact keeps_quotable_directive _ (htokens.subset (List.subset_cons_self head rest)) line h
      hb.closed
  · cases h
    exact hb.closed.warn _ _
  · cases h
    exact hb.closed

/-- **A line hands on that all symbols can stand between quotes**, if its own can. -/
theorem keeps_quotable_handleLine (htokens : HasSymbolTexts tokens) (line : Int) :
    Keeps Quotable (handleLine tokens line) := by
  have hclose : Keeps Quotable closeTransaction := by
    intro b a b' h hb
    rw [outcome_closeTransaction] at h
    split at h
    · cases h
    · cases h
      exact hb.closed
  unfold handleLine
  split
  · exact hclose
  · rename_i first others
    split
    · split
      · exact hclose
      · exact keeps_quotable_handleIndented (htokens.subset (List.subset_cons_self _ _)) line
    · exact keeps_quotable_handleFlush htokens line

theorem quotable_start (options : BuildOptions) : (Builder.start options).Quotable where
  snapshot := Snapshot.quotable_empty
  lastCommodity := nofun
  reading := nofun

/-- Lines hand on that all symbols can stand between quotes. -/
theorem Quotable.of_feedLineTokens {first : Int} {lines : List (List Char)} {b' : Builder}
    (hb : b.Quotable) (hpending : b.pending = [])
    (h : outcome (feedLineTokens first lines) b = .ok ((), b')) : b'.Quotable := by
  induction lines generalizing first b with
  | nil =>
    cases h
    exact hb
  | cons cs rest ih =>
    obtain ⟨r, b₁, hr, hline, hrest⟩ := feedLineTokens_cons_eq_ok hpending h
    have htaking : (b.taking r first cs.length).Quotable := { hb with }
    have hhandled := keeps_quotable_handleLine (fun tok => commodity_of_mem_tokens hr) first hline
      htaking
    exact ih (b := { b₁ with pending := [] }) { hhandled with } rfl hrest

end Builder

/-! ## Reachable snapshots -/

namespace Snapshot

theorem quotable_of_ofText {options : BuildOptions} {text : String} {s : Snapshot}
    (h : ofText options text = .ok s) : s.Quotable := by
  obtain ⟨b, hlines, -, rfl⟩ := ofText_eq_ok_iff.mp h
  have hb := (Builder.quotable_start options).of_feedLineTokens rfl hlines
  exact { hb.closed.snapshot with }

/-- **All symbols of a reachable snapshot can stand between quotes.** -/
theorem quotable_of_reachable {s : Snapshot} (h : Reachable s) : s.Quotable := by
  induction h with
  | empty => exact quotable_empty
  | ofText hs => exact quotable_of_ofText hs
  | merge _ _ iha ihb => exact merge_induction (iha.absorb ihb) iha ihb
  | mergeAll _ ih => exact mergeAll_induction quotable_empty (fun _ _ ha hb => ha.absorb hb) ih

end Snapshot

end Daybook
