import Daybook.Proofs.Amount.Overflow
import Daybook.Proofs.Builder.Concatenation
import Daybook.Proofs.Builder.Portions
import Daybook.Proofs.Journal.Form

/-!
# Builds that content cannot stop

Whatever a text holds, its lines fall under rules, its statuses are statuses, its years are years,
and its dates stay in the range of the calendar.  So a build of a text comes to its end, unless a
posting has a negative quantity of a million digits.

* `Calendar.Date.read_ne_overflow`: no date overflows while the default year is in range.
* `Builder.Sane`: the state that later lines are read by is one that cannot stop them;
  `Builder.isOk_or_overflow_handleLine`: what a line comes to in such a state.
* `Snapshot.ofText_isOk_or_overflow`: what a text comes to.
-/

namespace Daybook

open Calendar Journal Text Number

/-! ## Dates in range -/

namespace Calendar

theorem lt_ten_of_digitGroups {cs : List Char} {groups : List (List Nat)} {separators : List Char}
    (h : digitGroups cs = some (groups, separators)) {g : List Nat} (hg : g ∈ groups) :
    ∀ v ∈ g, v < 10 := by
  induction cs generalizing groups separators g with
  | nil =>
    cases h
    cases List.mem_singleton.mp hg
    exact nofun
  | cons c cs ih =>
    rw [digitGroups] at h
    split at h
    · cases h
    rename_i groups' separators' hrest
    split at h
    · rename_i v hv
      cases h
      rcases List.mem_cons.mp hg with rfl | hg
      · intro w hw
        rcases List.mem_cons.mp hw with rfl | hw
        · exact lt_ten_of_digitValue? hv
        · cases groups' with
          | nil => cases hw
          | cons first others => exact ih hrest List.mem_cons_self w hw
      · exact ih hrest (List.mem_of_mem_tail hg)
    · split at h
      · cases h
        rcases List.mem_cons.mp hg with rfl | hg
        · exact nofun
        · exact ih hrest hg
      · cases h

/-- The components of a date text have at most four digits. -/
def WrittenDate.IsSmall : WrittenDate → Prop
  | yearFirst year month day => year < 10000 ∧ month < 10000 ∧ day < 10000
  | yearLast first _ second year => year < 10000 ∧ first < 10000 ∧ second < 10000
  | noYear month day => month < 10000 ∧ day < 10000

theorem length_le_of_isShort {g : List Nat} (h : isShort g = true) : g.length ≤ 4 := by
  rw [isShort, Bool.or_eq_true, beq_iff_eq, beq_iff_eq] at h
  omega

theorem WrittenDate.isSmall_of_ofChars? {cs : List Char} {w : WrittenDate}
    (h : WrittenDate.ofChars? cs = some w) : w.IsSmall := by
  have hsmall : ∀ {groups separators}, digitGroups cs = some (groups, separators) →
      ∀ g ∈ groups, g.length ≤ 4 → ofDigits g < 10000 := fun hgroups g hg hlength =>
    Nat.lt_of_lt_of_le (ofDigits_lt (lt_ten_of_digitGroups hgroups hg))
      (Nat.pow_le_pow_right (by decide) hlength)
  unfold WrittenDate.ofChars? at h
  split at h
  · rename_i a b c s t hgroups
    have ha := hsmall hgroups a (by simp)
    have hb := hsmall hgroups b (by simp)
    have hc := hsmall hgroups c (by simp)
    split at h
    · cases h
    split at h
    · rename_i hform
      cases h
      exact ⟨ha (Nat.le_of_eq hform.1), hb (length_le_of_isShort hform.2.1),
        hc (length_le_of_isShort hform.2.2)⟩
    split at h
    · rename_i hform
      cases h
      exact ⟨hc (Nat.le_of_eq hform.2.2), ha (length_le_of_isShort hform.1),
        hb (length_le_of_isShort hform.2.1)⟩
    · cases h
  · rename_i a b _ hgroups
    split at h
    · rename_i hform
      cases h
      exact ⟨hsmall hgroups a (by simp) (length_le_of_isShort hform.1),
        hsmall hgroups b (by simp) (length_le_of_isShort hform.2)⟩
    · cases h
  · cases h

theorem dayOf_ne_overflow {year : Int} {month day : Nat} (hyear : 0 ≤ year ∧ year < 10000)
    (hmonth : month < 10000) (hday : day < 10000) (raw : Option String) :
    dayOf raw year month day ≠ .error .overflow := by
  have hcalendar : ∀ n : Int, 0 ≤ n → n < 10000 → isCalendarNumber n = true := by
    intro n hn hn'
    rw [isCalendarNumber, Bool.and_eq_true, decide_eq_true_eq, decide_eq_true_eq]
    omega
  have hmake : Date.make year month day ≠ .error .overflow := by
    unfold Date.make
    rw [hcalendar year hyear.1 hyear.2, hcalendar month (by omega) (by omega),
      hcalendar day (by omega) (by omega)]
    split
    · rename_i hinvalid
      exact absurd hinvalid (by decide)
    split
    · nofun
    split
    · nofun
    split <;> nofun
  unfold dayOf
  split
  · nofun
  · rename_i hoverflow
    exact absurd hoverflow hmake
  · nofun

/-- No date overflows while the default year is in range. -/
theorem Date.read_ne_overflow (order : DateOrder) {defaultYear : Option Int}
    (hyear : ∀ y ∈ defaultYear, 0 ≤ y ∧ y ≤ 9999) (today : Date) (raw : Option String) :
    Date.read order defaultYear today raw ≠ .error .overflow := by
  have hdefault : 0 ≤ defaultYear.getD today.year ∧ defaultYear.getD today.year < 10000 := by
    cases defaultYear with
    | none =>
      obtain ⟨-, hmost, -⟩ := today.isDay
      rw [Option.getD_none]
      omega
    | some y =>
      have := hyear y rfl
      rw [Option.getD_some]
      omega
  unfold Date.read
  split
  · nofun
  split
  · rename_i year month day hwritten
    obtain ⟨hyear, hmonth, hday⟩ := WrittenDate.isSmall_of_ofChars? hwritten
    exact dayOf_ne_overflow (by omega) hmonth hday raw
  · rename_i first separator second year hwritten
    obtain ⟨hyear, hfirst, hsecond⟩ := WrittenDate.isSmall_of_ofChars? hwritten
    split
    · exact dayOf_ne_overflow (by omega) hsecond hfirst raw
    · exact dayOf_ne_overflow (by omega) hfirst hsecond raw
  · rename_i month day hwritten
    obtain ⟨hmonth, hday⟩ := WrittenDate.isSmall_of_ofChars? hwritten
    exact dayOf_ne_overflow hdefault hmonth hday raw
  · nofun

end Calendar

/-! ## Years and statuses -/

namespace Journal

theorem underscoresSeparate_of_isDigit {cs : List Char} (h : ∀ c ∈ cs, isDigit c = true) :
    underscoresSeparate cs = true := by
  induction cs with
  | nil => rfl
  | cons c cs ih =>
    have hc : c ≠ '_' := fun heq => absurd (h c List.mem_cons_self) (by rw [heq]; decide)
    have hcs := ih fun x hx => h x (List.mem_cons_of_mem _ hx)
    rw [underscoresSeparate]
    · exact hcs
    · intro heq _
      exact hc heq
    · intro _ heq _
      exact hc heq

/-- **A year is read as a number in the range of years.** -/
theorem readInteger_of_isYear {text : String} (h : IsYear text) :
    ∃ y, readInteger text = .ok y ∧ 0 ≤ y ∧ y ≤ 9999 := by
  obtain ⟨ds, rfl, hlength, hdigit⟩ := h
  have hblank : ds.dropWhile isIntegerBlank = ds := by
    rw [List.dropWhile_eq_self_iff]
    intro hpos
    rw [isIntegerBlank, isBlank_of_isDigit (hdigit _ (List.getElem_mem hpos))]
    exact Bool.false_ne_true
  have hne : ds ≠ [] := List.ne_nil_of_length_pos (by omega)
  have hhead : ∀ x, isDigit x = false → ds.head? ≠ some x := by
    intro x hx heq
    rw [hdigit x (List.mem_of_mem_head? heq)] at hx
    cases hx
  have hsign : takeSign ds = (false, ds) := by
    unfold takeSign
    split
    · exact absurd List.head?_cons (hhead '+' (by decide))
    · exact absurd List.head?_cons (hhead '-' (by decide))
    · rfl
  have hpart : ∀ x ∈ ds, (isDigit x || x == '_') = true := fun x hx => by rw [hdigit x hx]; rfl
  have htake : ds.takeWhile (fun c => isDigit c || c == '_') = ds :=
    List.takeWhile_eq_self_iff.mpr hpart
  have hdrop : ds.dropWhile (fun c => isDigit c || c == '_') = [] :=
    List.dropWhile_eq_nil_iff.mpr hpart
  have hvalues : ∀ v ∈ ds.filterMap digitValue?, v < 10 := by
    intro v hv
    obtain ⟨c, -, hc⟩ := List.mem_filterMap.mp hv
    exact lt_ten_of_digitValue? hc
  have hcount : (ds.filterMap digitValue?).length ≤ 4 :=
    hlength ▸ List.length_filterMap_le digitValue? ds
  have hsmall : ofDigits (ds.filterMap digitValue?) < 10000 :=
    Nat.lt_of_lt_of_le (ofDigits_lt hvalues) (Nat.pow_le_pow_right (by decide) hcount)
  have hform : (ds.isEmpty || ds.head? == some '_' || !underscoresSeparate ds) = false := by
    rw [underscoresSeparate_of_isDigit hdigit, Bool.or_eq_false_iff, Bool.or_eq_false_iff,
      List.isEmpty_eq_false_iff, beq_eq_false_iff_ne]
    exact ⟨⟨hne, hhead '_' (by decide)⟩, rfl⟩
  have hfew : ¬maxIntegerDigits < (ds.filterMap digitValue?).length := by
    rw [maxIntegerDigits]
    omega
  refine ⟨ofDigits (ds.filterMap digitValue?), ?_, by omega, by omega⟩
  simp only [readInteger, String.toList_ofList, hblank, hsign, htake, hdrop, hform,
    Bool.false_eq_true, if_false, if_neg hfew, List.all_nil, if_true]

/-- A status marker names a status. -/
theorem isSome_ofMarker? {marker : String} (h : marker = "*" ∨ marker = "!") :
    (Status.ofMarker? marker).isSome := by
  rcases h with rfl | rfl <;> decide

end Journal

namespace Builder

open BuildM Amount

/-- The argument of a year directive is a year. -/
theorem year_of_lineDirective? {kind : LineKind} {tokens : List Token} (h : LineForm kind tokens)
    {name : String} {args : List Token} (hdir : lineDirective? tokens = some (name, args))
    (hname : name = "Y" ∨ name = "year") :
    ∃ tok, firstOf? .text args = some tok ∧ IsYear tok.text := by
  cases h with
  | blank | nothing => cases hdir
  | comment hhead => simp [lineDirective?, hhead] at hdir
  | indentedComment hindent hhead => simp [lineDirective?, hindent, hhead] at hdir
  | transaction hhead => simp [lineDirective?, hhead] at hdir
  | unknown htok => simp [lineDirective?, htok] at hdir
  | posting hindent hhead => rcases hhead with hhead | hhead <;>
      simp [lineDirective?, hindent, hhead] at hdir
  | directive hhead hyear =>
    obtain ⟨rfl, rfl⟩ : _ = name ∧ _ = args := by simpa [lineDirective?, hhead] using hdir
    exact hyear hname
  | format hindent hhead hformat =>
    obtain ⟨rfl, rfl⟩ : _ = name ∧ _ = args := by simpa [lineDirective?, hindent, hhead] using hdir
    rw [hformat] at hname
    exact absurd hname (by decide)

/-! ## What later lines are read by -/

/-- Whether the decimal marks of a snapshot are such as quantities can have. -/
structure Marked (s : Snapshot) : Prop where
  decimalMark : ∀ m ∈ s.decimalMark, IsDecimalMark m
  format : ∀ ⦃symbol c f⦄, s.commodities.get? symbol = some c → c.format = some f →
    IsDecimalMark f.decimalMark

theorem Marked.empty : Marked .empty where
  decimalMark _ h := nomatch h
  format _ _ _ h := nomatch h

theorem Marked.of_formatsFrom {s s' : Snapshot} (h : Marked s)
    (hfrom : Snapshot.FormatsFrom s s') : Marked s' where
  decimalMark := hfrom.decimalMark ▸ h.decimalMark
  format symbol c f hc hf := by
    obtain ⟨c', hc', hf'⟩ := hfrom.format hc hf
    exact h.format hc' hf'

theorem Marked.addCommodity {s : Snapshot} (h : Marked s) (symbol : String) {commodity : Commodity}
    (hcommodity : ∀ f ∈ commodity.format, IsDecimalMark f.decimalMark) :
    Marked (s.addCommodity symbol commodity) where
  decimalMark := h.decimalMark
  format symbol' c f hc hf := by
    rw [Snapshot.addCommodity_eq] at hc
    dsimp only at hc
    rw [Table.get?_alter] at hc
    split at hc
    · cases hold : s.commodities.get? symbol with
      | none =>
        rw [hold] at hc
        cases hc
        exact hcommodity f hf
      | some old =>
        rw [hold] at hc
        cases hc
        cases hformat : old.format with
        | none => exact hcommodity f (by simpa [Table.joinTo, Commodity.join, hformat] using hf)
        | some g =>
          have hg : g = f := by simpa [Table.joinTo, Commodity.join, hformat] using hf
          exact hg ▸ h.format hold hformat
    · exact h.format hc hf

/-- Whether the state that later lines are read by cannot stop them: the default year is in range,
and the decimal marks are such as quantities can have. -/
structure Sane (b : Builder) : Prop where
  year : ∀ y ∈ b.defaultYear, 0 ≤ y ∧ y ≤ 9999
  marked : Marked b.snapshot

theorem reading_sane : Reading Sane where
  tokens _ _ h := ⟨h.year, h.marked⟩
  warn _ _ h := ⟨h.year, h.marked.decimalMark, h.marked.format⟩
  reading _ _ h := ⟨h.year, h.marked⟩
  record complaint t h :=
    ⟨h.year, h.marked.of_formatsFrom (.recordTransaction _ complaint t _)⟩

section Sane

variable {b : Builder}

/-- The format of a sample has a usable decimal mark. -/
theorem Sane.isDecimalMark_of_sampled (hb : Sane b) {commodity : Commodity}
    (h : b.Sampled commodity) : ∀ f ∈ commodity.format, IsDecimalMark f.decimalMark := by
  intro f hf
  obtain ⟨sample, g, hg, hsame⟩ := h f hf
  rw [hsame]
  exact CommodityFormat.decimalMark_of_ofSample? hg hb.marked.decimalMark

/-- **Every decimal mark that quantities are read with is a point or a comma.** -/
theorem Sane.decimalMarkFor (hb : Sane b) (commodity : Option String) :
    ∀ m ∈ b.decimalMarkFor commodity, IsDecimalMark m := by
  intro m hm
  unfold Builder.decimalMarkFor at hm
  split at hm
  · rename_i mark hmark
    cases hm
    exact hb.marked.decimalMark m hmark
  · split at hm
    · cases hm
    · split at hm
      · cases hm
      · split at hm
        · cases hm
        · rename_i c hc
          obtain ⟨f, hf, rfl⟩ := Option.map_eq_some_iff.mp hm
          exact hb.marked.format hc hf

/-- A directive leaves a sane state behind, if its year is a year. -/
theorem keeps_sane_directive {name : String} {args : List Token}
    (hyear : name = "Y" ∨ name = "year" → ∃ tok, firstOf? .text args = some tok ∧ IsYear tok.text)
    (line : Int) : Keeps Sane (directive name args line) := by
  intro b a b' h hb
  have hsame : ∀ {s : Snapshot}, s.decimalMark = b.snapshot.decimalMark →
      s.commodities = b.snapshot.commodities → Marked s := fun hmark hcommodities =>
    hb.marked.of_formatsFrom (.of_eq hmark hcommodities)
  cases directed_of_outcome h with
  | nothing => exact hb
  | warn message => exact ⟨hb.year, hsame rfl rfl⟩
  | commodity _ symbol commodity last hsampled =>
    exact ⟨hb.year, hb.marked.addCommodity symbol (hb.isDecimalMark_of_sampled hsampled)⟩
  | defaultCommodity _ symbol commodity hsampled =>
    have hadded := hb.marked.addCommodity symbol (hb.isDecimalMark_of_sampled hsampled)
    exact ⟨hb.year, hadded.decimalMark, hadded.format⟩
  | account account => exact ⟨hb.year, hsame rfl rfl⟩
  | accountAlias source target => exact ⟨hb.year, hsame rfl rfl⟩
  | decimalMark _ mark hmark =>
    refine ⟨hb.year, fun m hm => ?_, hb.marked.format⟩
    cases hm
    exact hmark
  | inclusion _ target => exact ⟨hb.year, hsame rfl rfl⟩
  | price symbols => exact ⟨hb.year, hb.marked.of_formatsFrom (.foldl_mentionCommodity symbols _)⟩
  | payee payee => exact ⟨hb.year, hsame rfl rfl⟩
  | tag key => exact ⟨hb.year, hsame rfl rfl⟩
  | year hname year hread =>
    obtain ⟨tok, htok, hread⟩ := hread
    obtain ⟨tok', htok', hisYear⟩ := hyear hname
    cases htok.symm.trans htok'
    obtain ⟨y, hy, hrange⟩ := readInteger_of_isYear hisYear
    cases hread.symm.trans hy
    refine ⟨fun z hz => ?_, hb.marked⟩
    cases hz
    exact hrange

/-! ## What a line comes to -/

/-- In a sane state every text is read as a day or as none. -/
theorem Sane.exists_readDate (hb : Sane b) (raw : String) : ∃ day, b.readDate raw = .ok day := by
  have hread := Date.read_ne_overflow b.options.dateOrder hb.year b.options.today (some raw)
  unfold readDate
  split
  · exact ⟨_, rfl⟩
  · contradiction
  · exact ⟨_, rfl⟩

theorem Sane.stopsClosing (hb : Sane b) : b.stopsClosing = false := by
  have hstopsAt : ∀ tag, b.stopsAt tag = false := by
    intro tag
    obtain ⟨day, hday⟩ := hb.exists_readDate tag.2
    simp [stopsAt, hday, Except.toOption]
  cases hopen : b.openTransaction with
  | none => rw [Builder.stopsClosing, hopen, Option.any_none]
  | some t => simp [Builder.stopsClosing, hopen, stopsIn, hstopsAt]

theorem Sane.outcome_closeTransaction (hb : Sane b) :
    outcome closeTransaction b = .ok ((), b.closed) := by
  rw [Builder.outcome_closeTransaction, hb.stopsClosing]
  rfl

theorem exists_readHeader (t : OpenTransaction) {tokens : List Token}
    (h : ∀ tok ∈ tokens, tok.kind = .status → (Status.ofMarker? tok.text).isSome) :
    ∃ t', readHeader t tokens = .ok t' := by
  induction tokens generalizing t with
  | nil => exact ⟨t, rfl⟩
  | cons tok rest ih =>
    obtain ⟨t', ht'⟩ : ∃ t', readHeaderToken t tok = .ok t' := by
      unfold readHeaderToken
      split
      · rename_i hkind
        obtain ⟨status, hstatus⟩ := Option.isSome_iff_exists.mp (h tok List.mem_cons_self hkind)
        rw [hstatus]
        exact ⟨_, rfl⟩
      all_goals exact ⟨_, rfl⟩
    rw [readHeader, ht']
    exact ih t' fun tok' htok' => h tok' (List.mem_cons_of_mem _ htok')

theorem Sane.isOk_openTransactionAt (hb : Sane b) (raw : String) {rest : List Token} (line : Int)
    (h : ∀ tok ∈ rest, tok.kind = .status → (Status.ofMarker? tok.text).isSome) :
    ∃ b', outcome (openTransactionAt raw rest line) b = .ok ((), b') := by
  obtain ⟨day, hday⟩ := hb.exists_readDate raw
  rw [outcome_openTransactionAt, hday]
  cases day with
  | none => exact ⟨_, rfl⟩
  | some date =>
    obtain ⟨t, ht⟩ := exists_readHeader ⟨line, date, "", .unmarked, none, none, [], [], []⟩ h
    dsimp only
    rw [ht]
    exact ⟨_, rfl⟩

theorem isOk_directive {name : String} {args : List Token}
    (hyear : name = "Y" ∨ name = "year" → ∃ tok, firstOf? .text args = some tok ∧ IsYear tok.text)
    (line : Int) (b : Builder) : ∃ b', outcome (directive name args line) b = .ok ((), b') := by
  have houtcome := directiveOutcome name args line b
  generalize outcome (directive name args line) b = r at houtcome
  cases houtcome with
  | done => exact ⟨_, rfl⟩
  | badYear hname htok hcause =>
    obtain ⟨tok, htok', hisYear⟩ := hyear hname
    cases htok.symm.trans htok'
    obtain ⟨y, hy, -⟩ := readInteger_of_isYear hisYear
    cases hcause.symm.trans hy

/-- The amount of a posting is that of an amount token. -/
theorem mem_of_readPostingParts {tokens : List Token} {parts parts' : PostingParts}
    (h : readPostingParts parts tokens = some parts') {amount : String}
    (hamount : parts'.amount = some amount) :
    parts.amount = some amount ∨ ∃ tok ∈ tokens, tok.kind = .amount ∧ tok.text = amount := by
  induction tokens generalizing parts with
  | nil =>
    cases h
    exact .inl hamount
  | cons tok rest ih =>
    have hlater : ∀ {next}, readPostingParts next rest = some parts' →
        next.amount = some amount ∨
          ∃ tok' ∈ tok :: rest, tok'.kind = .amount ∧ tok'.text = amount := by
      intro next hnext
      rcases ih hnext with hold | ⟨tok', htok', hamount'⟩
      · exact .inl hold
      · exact .inr ⟨tok', List.mem_cons_of_mem _ htok', hamount'⟩
    unfold readPostingParts at h
    split at h
    · cases h
    · cases h
      exact .inl hamount
    · have hnext := hlater h
      exact hnext
    · rename_i hkind
      split at h
      · exact hlater h
      · rcases hlater h with hold | hlater
        · cases hold
          exact .inr ⟨tok, List.mem_cons_self, hkind, rfl⟩
        · exact .inr hlater
    · dsimp only at h
      split at h
      · have hnext := hlater h
        exact hnext
      · split at h
        · exact hlater h
        · have hnext := hlater h
          exact hnext
    · exact hlater h

/-- A posting that stops a build has a quantity that is too large. -/
theorem overflow_of_readPosting {body : List Token} {e : BuildError}
    (h : b.readPosting body = .error e) :
    e = .quantityOverflow ∧ ∃ tok ∈ body, tok.kind = .amount ∧
      ∃ mark, readQuantity mark (some tok.text) = .error .overflow := by
  have hsuffix : (if body.head?.any (·.kind = .status) then body.tail else body) <:+ body := by
    split
    · exact List.tail_suffix body
    · exact List.suffix_rfl
  unfold readPosting at h
  dsimp only at h
  generalize (if body.head?.any (·.kind = .status) then body.tail else body) = tokens at h hsuffix
  cases tokens with
  | nil => cases h
  | cons first rest =>
    dsimp only at h
    split at h
    · cases h
    split at h
    · rename_i account parts _ hparts
      split at h
      · cases h
      · rename_i amount hamount
        split at h
        · cases h
        · rename_i hoverflow
          cases h
          rcases mem_of_readPostingParts hparts hamount with hnone | ⟨tok, htok, hkind, rfl⟩
          · cases hnone
          · exact ⟨rfl, tok, hsuffix.subset (List.mem_cons_of_mem _ htok), hkind, _, hoverflow⟩
        · cases h
    · cases h

/-- Whether a line is a posting with a negative quantity of a million digits. -/
def TooLarge (cs : List Char) : Prop :=
  ∃ r, readLine? cs = some r ∧ r.rule.kind = .posting ∧ ∃ line, ∃ tok ∈ r.tokens line,
    tok.kind = .amount ∧ (trimChars tok.text.toList).head? = some '-' ∧
      1000000 ≤ tok.text.toList.countP isDigit

/-- **What a line comes to** in a sane state: it is handled, or it is a posting with a quantity that
is too large. -/
theorem Sane.isOk_or_overflow_handleLine (hb : Sane b) {cs : List Char} {r : ReadLine}
    (hr : readLine? cs = some r) (line : Int) :
    (∃ b', outcome (handleLine (r.tokens line) line) b = .ok ((), b')) ∨
      outcome (handleLine (r.tokens line) line) b = .error .quantityOverflow ∧ TooLarge cs := by
  have hclosed := reading_sane.closed hb
  have hstatus : ∀ tok ∈ r.tokens line, tok.kind = .status → (Status.ofMarker? tok.text).isSome :=
    fun tok htok hkind => isSome_ofMarker? (status_of_mem_tokens hr htok hkind)
  have hamount : ∀ tok ∈ r.tokens line, tok.kind = .amount → ∀ mark,
      readQuantity mark (some tok.text) = .error .overflow → r.rule.kind = .posting →
        TooLarge cs := by
    intro tok htok hkind mark hread hposting
    obtain ⟨_, a, ha, htext⟩ := amount_of_mem_tokens htok hkind
    obtain ⟨hminus, hmany⟩ := countP_of_readQuantity_overflow hread fun x hx =>
      isQuantityChar_ne_exponent (quantity_of_ofChars? ha (htext ▸ hx))
    exact ⟨r, hr, hposting, line, tok, htok, hkind, hminus, hmany⟩
  have hform := lineForm_tokens hr line
  generalize r.tokens line = tokens at hstatus hamount hform
  generalize r.rule.kind = kind at hamount hform
  -- A line that is not indented closes the transaction before it and goes on from there.
  have hflush : ∀ {head rest}, head.kind ≠ .indent →
      (∃ b', outcome (begin head rest line) b.closed = .ok ((), b')) →
      ∃ b', outcome (handleLine (head :: rest) line) b = .ok ((), b') := by
    intro head rest hindent hbegin
    rw [handleLine_flush hindent, outcome_handleFlush, hb.stopsClosing]
    exact hbegin
  cases hform with
  | blank | nothing => exact .inl ⟨b.closed, hb.outcome_closeTransaction⟩
  | comment hhead =>
    exact .inl (hflush (by rw [hhead]; decide) ⟨b.closed, by rw [begin, hhead]; rfl⟩)
  | indentedComment hindent hhead =>
    left
    rw [handleLine_indented hindent, outcome_handleIndented, if_neg (by rw [hhead]; decide)]
    split
    · exact ⟨_, rfl⟩
    split <;> exact ⟨_, rfl⟩
  | transaction hhead =>
    refine .inl (hflush (by rw [hhead]; decide) ?_)
    rw [begin, hhead]
    exact hclosed.isOk_openTransactionAt _ line fun tok htok =>
      hstatus tok (List.mem_cons_of_mem _ htok)
  | directive hhead hyear =>
    refine .inl (hflush (by rw [hhead]; decide) ?_)
    rw [begin, hhead]
    exact isOk_directive hyear line _
  | format hindent hhead hname =>
    left
    rw [handleLine_indented hindent, outcome_handleIndented, if_pos hhead, hname]
    exact isOk_directive (fun heq => absurd heq (by decide)) line _
  | @posting indent head rest hindent hhead =>
    have hplain : head.kind ≠ .directive ∧ head.kind ≠ .comment := by
      rcases hhead with hhead | hhead <;> rw [hhead] <;> decide
    rw [handleLine_indented hindent, outcome_handleIndented, if_neg hplain.1]
    split
    · exact .inl ⟨_, rfl⟩
    split
    · exact .inl ⟨_, rfl⟩
    rw [if_neg hplain.2]
    split
    · rename_i e hposting
      obtain ⟨rfl, tok, htok, hkind, mark, hread⟩ := overflow_of_readPosting hposting
      exact .inr ⟨rfl, hamount tok (List.mem_cons_of_mem _ htok) hkind mark hread rfl⟩
    · exact .inl ⟨_, rfl⟩
    · exact .inl ⟨_, rfl⟩
  | unknown htok =>
    refine .inl (hflush (by rw [htok]; decide) ?_)
    rw [begin, htok]
    exact ⟨_, rfl⟩

/-- The directive on a line leaves a sane state behind. -/
theorem keeps_sane_handleLine {cs : List Char} {r : ReadLine} (hr : readLine? cs = some r)
    (line : Int) : Keeps Sane (handleLine (r.tokens line) line) :=
  reading_sane.keeps_handleLine fun _ _ hdir =>
    keeps_sane_directive (year_of_lineDirective? (lineForm_tokens hr line) hdir) line

theorem sane_start {options : BuildOptions}
    (hyear : ∀ y ∈ options.defaultYear, 1 ≤ y ∧ y ≤ 9999) : Sane (Builder.start options) where
  year y hy := by
    have := hyear y hy
    omega
  marked := .empty

theorem sane_of_feedLineTokens {first : Int} {lines : List (List Char)} {b' : Builder}
    (hpending : b.pending = []) (h : outcome (feedLineTokens first lines) b = .ok ((), b'))
    (hb : Sane b) : Sane b' :=
  reading_sane.keeps_lines (fun _ _ _ hr line _ _ hdir =>
    keeps_sane_directive (year_of_lineDirective? (lineForm_tokens hr line) hdir) line)
    hpending h hb

/-- **What lines come to** in a sane state: they are handled, or one of them is a posting with a
quantity that is too large. -/
theorem Sane.isOk_or_overflow_feedLineTokens {lines : List (List Char)}
    (hlines : ∀ cs ∈ lines, '\n' ∉ cs) (first : Int) (hpending : b.pending = []) (hb : Sane b) :
    (∃ b', outcome (feedLineTokens first lines) b = .ok ((), b')) ∨
      outcome (feedLineTokens first lines) b = .error .quantityOverflow ∧
        ∃ cs ∈ lines, TooLarge cs := by
  induction lines generalizing first b with
  | nil => exact .inl ⟨b, rfl⟩
  | cons cs rest ih =>
    obtain ⟨r, hr⟩ := Option.isSome_iff_exists.mp (isSome_readLine? (hlines cs List.mem_cons_self))
    have htaking : Sane (b.taking r first cs.length) := reading_sane.tokens _ _ hb
    rw [outcome_feedLineTokens_cons first cs rest hpending, hr]
    rcases htaking.isOk_or_overflow_handleLine hr first with ⟨b₁, hb₁⟩ | ⟨hoverflow, htooLarge⟩
    · have hnext := reading_sane.tokens [] b₁.fingerprint
        (keeps_sane_handleLine hr first hb₁ htaking)
      dsimp only
      rw [hb₁]
      rcases ih (fun cs' hcs' => hlines cs' (List.mem_cons_of_mem _ hcs')) (first + 1) rfl hnext with
        hok | ⟨hoverflow, cs', hcs', htooLarge⟩
      · exact .inl hok
      · exact .inr ⟨hoverflow, cs', List.mem_cons_of_mem _ hcs', htooLarge⟩
    · dsimp only
      rw [hoverflow]
      exact .inr ⟨rfl, cs, List.mem_cons_self, htooLarge⟩

end Sane

end Builder

/-! ## Texts -/

namespace Journal

/-- No line of a text holds a line break. -/
theorem not_mem_of_mem_textLines {text : String} {cs : List Char} (h : cs ∈ textLines text) :
    '\n' ∉ cs := by
  obtain ⟨piece, hpiece, rfl⟩ := List.mem_map.mp h
  have hmem : piece ∈ splitAt '\n' text.toList := by
    split at hpiece
    · exact List.mem_of_mem_dropLast hpiece
    · exact hpiece
  exact fun hbreak =>
    not_mem_of_mem_splitAt hmem ((List.rdropWhile_prefix _ piece).subset hbreak)

/-- Lines that fall under rules have tokens. -/
theorem exists_linesTokens {lines : List (List Char)} (h : ∀ cs ∈ lines, (readLine? cs).isSome)
    (first : Int) : ∃ tokens, linesTokens first lines = .ok tokens := by
  induction lines generalizing first with
  | nil => exact ⟨[], rfl⟩
  | cons cs rest ih =>
    obtain ⟨r, hr⟩ := Option.isSome_iff_exists.mp (h cs List.mem_cons_self)
    obtain ⟨others, hothers⟩ := ih (fun cs' hcs' => h cs' (List.mem_cons_of_mem _ hcs')) (first + 1)
    refine ⟨r.tokens first ++ [⟨.newline, "\n", first, cs.length⟩] ++ others, ?_⟩
    rw [linesTokens, lineTokens, hr, hothers]
    rfl

end Journal

namespace Snapshot

open Builder BuildM Amount

/-- A build that is stopped at a line gives no snapshot. -/
theorem ofText_eq_error {options : BuildOptions} {text : String} {e : BuildError}
    (h : outcome (feedLineTokens 0 (textLines text)) (Builder.start options) = .error e) :
    ofText options text = .error e := by
  rw [ofText_eq, h]
  rfl

/-- **What a text comes to**: a snapshot, or a posting has a quantity that is too large. -/
theorem ofText_isOk_or_overflow {options : BuildOptions}
    (hyear : ∀ y ∈ options.defaultYear, 1 ≤ y ∧ y ≤ 9999) (text : String) :
    (∃ s, ofText options text = .ok s) ∨
      ofText options text = .error .quantityOverflow ∧ ∃ cs ∈ textLines text, TooLarge cs := by
  rcases (sane_start hyear).isOk_or_overflow_feedLineTokens
    (fun _ => not_mem_of_mem_textLines) 0 rfl with ⟨b, hb⟩ | ⟨hoverflow, htooLarge⟩
  · have hstop := (sane_of_feedLineTokens rfl hb (sane_start hyear)).stopsClosing
    exact .inl ⟨_, ofText_eq_ok_iff.mpr ⟨b, hb, hstop, rfl⟩⟩
  · exact .inr ⟨ofText_eq_error hoverflow, htooLarge⟩

/-- Whether the content of a text stops neither its reading nor its build, unless a posting has a
negative quantity of a million digits. -/
structure ContentSafe (options : BuildOptions) (text : String) : Prop where
  tokens : ∃ tokens, textTokens text = .ok tokens
  /-- Every line falls under a rule. -/
  rule : ∀ cs ∈ textLines text, (readLine? cs).isSome
  /-- Every status token is a status. -/
  status : ∀ cs ∈ textLines text, ∀ r ∈ readLine? cs, ∀ line, ∀ tok ∈ r.tokens line,
    tok.kind = .status → (Status.ofMarker? tok.text).isSome
  /-- The argument of every year directive is a number in the range of years. -/
  year : ∀ cs ∈ textLines text, ∀ r ∈ readLine? cs, ∀ line name args,
    lineDirective? (r.tokens line) = some (name, args) → name = "Y" ∨ name = "year" →
      ∃ tok, firstOf? .text args = some tok ∧ ∃ y, readInteger tok.text = .ok y ∧ 0 ≤ y ∧ y ≤ 9999
  /-- Wherever a build is, quantities are read with a point, with a comma, or with no decimal mark
  of their own. -/
  mark : ∀ n b, outcome (feedLineTokens 0 ((textLines text).take n)) (Builder.start options) =
    .ok ((), b) → ∀ commodity, ∀ m ∈ b.decimalMarkFor commodity, m = "." ∨ m = ","
  /-- The text has the same snapshot in one go and in portions of any size, or a quantity stops the
  build in all of them. -/
  built : (∃ s, ofText options text = .ok s ∧ ∀ size : Int, 1 ≤ size →
      ∃ progress, ofPortions options size text = .ok (progress, s)) ∨
    (ofText options text = .error .quantityOverflow ∧ (∀ size : Int, 1 ≤ size →
        ofPortions options size text = .error .quantityOverflow) ∧
      ∃ cs ∈ textLines text, TooLarge cs)

/-- **Content does not stop a build**, except for a posting with a negative quantity of a million
digits.  A million nines are enough to stop it. -/
theorem contentSafe_and_readQuantity_overflow (options : BuildOptions)
    (hyear : ∀ y ∈ options.defaultYear, 1 ≤ y ∧ y ≤ 9999) (text : String) :
    ContentSafe options text ∧ ∀ n, 1000000 ≤ n → n ≤ 10 ^ 18 →
      readQuantity none (some (String.ofList ('-' :: List.replicate n '9'))) =
        .error .overflow := by
  have hrule : ∀ cs ∈ textLines text, (readLine? cs).isSome := fun cs hcs =>
    isSome_readLine? (not_mem_of_mem_textLines hcs)
  refine ⟨⟨exists_linesTokens hrule 0, hrule, ?_, ?_, ?_, ?_⟩, fun n hn hmost =>
    readQuantity_nines hn hmost⟩
  · intro cs _ r hr line tok htok hkind
    exact isSome_ofMarker? (status_of_mem_tokens hr htok hkind)
  · intro cs _ r hr line name args hdir hname
    obtain ⟨tok, htok, hisYear⟩ := year_of_lineDirective? (lineForm_tokens hr line) hdir hname
    exact ⟨tok, htok, readInteger_of_isYear hisYear⟩
  · intro n b hb commodity
    exact (sane_of_feedLineTokens rfl hb (sane_start hyear)).decimalMarkFor commodity
  · rcases ofText_isOk_or_overflow hyear text with ⟨s, hs⟩ | ⟨hoverflow, htooLarge⟩
    · refine .inl ⟨s, hs, fun size hsize =>
        ⟨portionEnds 0 (portions size.toNat (textLines text)), ?_⟩⟩
      rw [ofPortions_eq_map_ofText options hsize, hs]
      rfl
    · refine .inr ⟨hoverflow, fun size hsize => ?_, htooLarge⟩
      rw [ofPortions_eq_map_ofText options hsize, hoverflow]
      rfl

/-- A text with a year directive, a date without a year, a decimal mark and a negative quantity, in
a build whose default year is the last one. -/
theorem contentSafe_of_last_year :
    (∀ y ∈ ({ BuildOptions.plain with defaultYear := some 9999 } : BuildOptions).defaultYear,
      1 ≤ y ∧ y ≤ 9999) ∧
    ContentSafe { BuildOptions.plain with defaultYear := some 9999 }
      "01-05 ! x\n a  -1,5 EUR\nY 2024\ndecimal-mark ,\n02-30 y\n a  -1,5 EUR\n" ∧
    readQuantity none (some (String.ofList ('-' :: List.replicate 1000000 '9'))) =
      .error .overflow :=
  have hyear : ∀ y ∈ some (9999 : Int), 1 ≤ y ∧ y ≤ 9999 := by decide
  have hsafe := contentSafe_and_readQuantity_overflow
    { BuildOptions.plain with defaultYear := some 9999 } hyear
    "01-05 ! x\n a  -1,5 EUR\nY 2024\ndecimal-mark ,\n02-30 y\n a  -1,5 EUR\n"
  ⟨hyear, hsafe.1, hsafe.2 1000000 (by decide) (by decide)⟩

end Snapshot

end Daybook
