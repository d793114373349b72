import Daybook.Proofs.Amount.Sample
import Daybook.Proofs.Builder.Formats
import Daybook.Proofs.Builder.PostingParts

/-!
# Postings that repeat a sample

A directive gives a commodity its format by a sample amount, and later postings of the commodity are
read with the decimal mark of that format.  A posting that repeats the sample is therefore read, with
the one exception that points only separate groups in it.

* `formatSample?_eq_some`: the sample is put together from its tokens, with the number as it was.
* `DeclaresSample`, `exists_lineDirective`: a line that gives a commodity its sample.
* `formatOf_commodityDirective`: the format that the commodity then has.
* `AfterSample`, `AfterSample.decimalMarkFor`: a state in which the format comes from the sample.
* `RepeatsSample`, `RepeatsSample.readPosting`: a posting with the same amount.
* `sample_read_by_own_format`: how the sample and a posting that repeats it are read;
  `sample_of_points_not_read`: the exception.
-/

namespace Daybook.Builder

open BuildM Text Journal Amount Number

variable {sample : List Char} {a : Amount} {symbol : String} {b b' : Builder}

/-! ## The sample of a directive -/

section Directive

variable {args : List Token} {quantity name : Token} {sign number : List Char} {text : String}

/-- A sample that is put together from a quantity and a symbol is an amount with the same number and
the same symbol. -/
theorem formatSample?_eq_some (hquantity : firstOf? .amount args = some quantity)
    (hname : firstOf? .commodity args = some name)
    (htext : quantity.text = String.ofList (sign ++ number)) (hsign : IsSignText sign)
    (hnumber : IsNumber number) (hsymbol : IsSymbolText name.text.toList) :
    ∃ joined own, formatSample? args = some joined ∧
      ∃ a, ofText? joined = some a ∧ a.commodity = some (unquoteSymbol name.text) ∧
        IsSignText own ∧ a.quantity = String.ofList (own ++ number) := by
  have hjoin : ∀ first second : Token, ∃ gap : List Char, (∀ x ∈ gap, x = ' ') ∧
      (first.text ++ (if first.column + first.text.length < second.column then " " else "") ++
        second.text).toList = first.text.toList ++ (gap ++ second.text.toList) := by
    intro first second
    refine ⟨(if first.column + first.text.length < second.column then " " else "").toList, ?_,
      by rw [String.toList_append, String.toList_append, List.append_assoc]⟩
    split
    · exact fun x hx => List.mem_singleton.mp hx
    · exact nofun
  unfold formatSample?
  rw [hquantity, hname]
  dsimp only
  split
  · obtain ⟨gap, hgap, htoList⟩ := hjoin name quantity
    have hread := ofChars?_symbol_first (.inl rfl) hsign (.inl rfl) hnumber hgap hsymbol
    refine ⟨_, sign, rfl, _, (congrArg ofChars? (htoList.trans ?_)).trans hread, rfl, hsign, rfl⟩
    rw [htext, String.toList_ofList]
    rfl
  · obtain ⟨gap, hgap, htoList⟩ := hjoin quantity name
    have hread := ofChars?_symbol_last hsign hnumber hgap hsymbol
    refine ⟨_, keptSign sign, rfl, _, (congrArg ofChars? (htoList.trans ?_)).trans hread, rfl,
      isSignText_keptSign sign, rfl⟩
    rw [htext, String.toList_ofList, List.append_assoc]

/-- The shape of a directive with a sample, from its name on. -/
def samplePattern (word : String) : Pattern Field :=
  .all [directiveWord word, someGap, .group .amount body, tail]

/-- The fields of a directive with a sample. -/
theorem fields_of_fits_samplePattern {word : String} {cs : List Char}
    {fs : List (Field × List Char)} (h : (samplePattern word).Fits cs fs) :
    ∃ text more, fs = (.directive, word.toList) :: (.amount, text) :: more ∧
      (more = [] ∨ ∃ comment, more = [(.comment, comment)]) := by
  obtain ⟨name, _, _, hname, hgap, rfl⟩ := h.of_group_cons (Pattern.groups_literal word)
  obtain ⟨rfl, -⟩ := Pattern.fits_literal.mp hname
  obtain ⟨_, hamount⟩ := hgap.of_plain_cons rfl
  obtain ⟨text, _, more, -, htail, rfl⟩ := hamount.of_group_cons rfl
  exact ⟨text, more, rfl, fields_of_fits_tail htail⟩

/-- What the arguments of a directive with a sample say. -/
structure SampleArgs (args : List Token) (a : Amount) (symbol : String) : Prop where
  no_text : ∀ tok ∈ args, tok.kind ≠ .text
  exists_tokens : ∃ quantity name, firstOf? .amount args = some quantity ∧
    firstOf? .commodity args = some name ∧ quantity.text = a.quantity ∧
    unquoteSymbol name.text = symbol ∧ IsSymbolText name.text.toList

/-- The arguments of a directive with a sample are those of the amount. -/
theorem sampleArgs_of_contents {symbolAlone : Bool} {more : List (Field × List Char)}
    (ha : ofChars? sample = some a) (hsymbol : a.commodity = some symbol)
    (hmore : more = [] ∨ ∃ comment, more = [(.comment, comment)])
    (hargs : args.map Token.content = fieldContents symbolAlone (.amount, sample) ++
      more.flatMap (fieldContents symbolAlone)) : SampleArgs args a symbol := by
  obtain ⟨-, -, -, -, -, -, ⟨hnone, -⟩ | ⟨start, stop, hspan, hsome, htext⟩⟩ :=
    exists_pieces_of_ofChars? ha
  · rw [hnone] at hsymbol
    cases hsymbol
  -- the quantity and the symbol come in the order in which they stand
  obtain ⟨quantity, name, rest, horder, hquantity, hquantityText, hname, hnameText, hrest⟩ :
      ∃ quantity name rest, (args = quantity :: name :: rest ∨ args = name :: quantity :: rest) ∧
        quantity.kind = .amount ∧ quantity.text = a.quantity ∧ name.kind = .commodity ∧
        name.text = String.ofList (Match.slice sample start stop) ∧
        rest.map Token.content = more.flatMap (fieldContents symbolAlone) := by
    rw [fieldContents_amount symbolAlone ha, hspan] at hargs
    dsimp only at hargs
    split at hargs
    all_goals
      obtain ⟨first, _, rfl, hfirst, hfirstText, hrest⟩ := exists_cons_of_contents hargs
      obtain ⟨second, rest, rfl, hsecond, hsecondText, hrest⟩ := exists_cons_of_contents hrest
    · exact ⟨first, second, rest, .inl rfl, hfirst, hfirstText, hsecond, hsecondText, hrest⟩
    · exact ⟨second, first, rest, .inr rfl, hsecond, hsecondText, hfirst, hfirstText, hrest⟩
  refine ⟨fun tok htok => ?_, quantity, name, ?_, ?_, hquantityText, ?_, ?_⟩
  · have hmem : tok = quantity ∨ tok = name ∨ tok ∈ rest := by
      rcases horder with rfl | rfl <;> simp only [List.mem_cons] at htok <;> tauto
    rcases hmem with rfl | rfl | hmem
    · simp [hquantity]
    · simp [hname]
    · exact ne_text_of_mem_comment hmore (hrest ▸ List.mem_map_of_mem hmem)
  · rcases horder with rfl | rfl <;> simp [firstOf?, hquantity, hname]
  · rcases horder with rfl | rfl <;> simp [firstOf?, hquantity, hname]
  · rw [hnameText, unquoteSymbol, String.toList_ofList]
    exact Option.some.inj (hsome.symm.trans hsymbol)
  · rw [hnameText, String.toList_ofList]
    exact htext

/-- The tokens of a directive with a sample, from its name on. -/
theorem exists_sampleArgs {rule word : String} {symbolAlone : Bool} {cs : List Char}
    {fs : List (Field × List Char)} {tokens : List Token}
    (hrule : trimChars rule.toList = rule.toList ∧ rule.toList ≠ [])
    (h : (samplePattern rule).Fits cs fs) (hword : (.directive, word.toList) ∈ fs)
    (hsample : (.amount, sample) ∈ fs) (ha : ofChars? sample = some a)
    (hsymbol : a.commodity = some symbol)
    (hcontents : tokens.map Token.content = fs.flatMap (fieldContents symbolAlone)) :
    ∃ head args, tokens = head :: args ∧ head.kind = .directive ∧ head.text = word ∧
      SampleArgs args a symbol := by
  obtain ⟨text, more, rfl, hmore⟩ := fields_of_fits_samplePattern h
  obtain rfl : sample = text := by
    rcases hmore with rfl | ⟨comment, rfl⟩ <;> simpa using hsample
  obtain rfl : word = rule := by
    have hsame : word.toList = rule.toList := by
      rcases hmore with rfl | ⟨comment, rfl⟩ <;> simpa using hword
    exact String.toList_injective hsame
  have hblank : trimChars word.toList ≠ [] := by
    rw [hrule.1]
    exact hrule.2
  rw [List.flatMap_cons, fieldContents_plain .directive (by decide) hblank, hrule.1,
    String.ofList_toList, List.flatMap_cons] at hcontents
  obtain ⟨head, args, rfl, hhead, htext, hargs⟩ := exists_cons_of_contents hcontents
  exact ⟨head, args, rfl, hhead, htext, sampleArgs_of_contents ha hsymbol hmore hargs⟩

/-- A market price is no directive with a sample. -/
theorem word_of_fits_price {word : String} {cs : List Char} {fs : List (Field × List Char)}
    (h : LineRule.price.pattern.Fits cs fs) (hword : (.directive, word.toList) ∈ fs) :
    word = "P" := by
  obtain ⟨name, _, rest, hname, hrest, rfl⟩ := h.of_group_cons (Pattern.groups_literal "P")
  obtain ⟨rfl, -⟩ := Pattern.fits_literal.mp hname
  rcases List.mem_cons.mp hword with heq | hmem
  · exact String.toList_injective (Prod.mk.inj heq).2
  · exact absurd (show Field.directive ∈ _ from hrest.label_mem hmem) (by decide)

/-- The rules for lines with a directive and an amount. -/
theorem rule_of_labels {rule : LineRule} (hrule : rule ∈ LineRule.table)
    (hdirective : Field.directive ∈ rule.pattern.groups.map Prod.fst)
    (hamount : Field.amount ∈ rule.pattern.groups.map Prod.fst) :
    rule = .commodity ∨ rule = .format ∨ rule = .defaultCommodity ∨ rule = .price := by
  simp only [LineRule.table, List.mem_cons, List.not_mem_nil, or_false] at hrule
  rcases hrule with h | h | h | h | h | h | h | h | h | h | h | h | h | h | h | h | h <;>
    rw [h] at hdirective hamount <;> first
      | exact absurd hamount (by decide)
      | exact absurd hdirective (by decide)
      | simp [h]

/-- **The directive on a line with a sample.** -/
theorem exists_lineDirective {line : List Char} {r : ReadLine} {word : String}
    (hr : readLine? line = some r) (hword : (.directive, word.toList) ∈ r.fields)
    (hsample : (.amount, sample) ∈ r.fields) (hprice : word ≠ "P") (ha : ofChars? sample = some a)
    (hsymbol : a.commodity = some symbol) (n : Int) :
    ∃ args, lineDirective? (r.tokens n) = some (word, args) ∧ SampleArgs args a symbol := by
  obtain ⟨hmem, taken, hfits⟩ := fits_of_readLine? hr
  have hcontents := r.contents_tokens n
  rcases rule_of_labels hmem (hfits.label_mem hword) (hfits.label_mem hsample) with
    hrule | hrule | hrule | hrule
  all_goals rw [hrule] at hfits hcontents
  · obtain ⟨head, args, htokens, hhead, htext, hargs⟩ :=
      exists_sampleArgs (by decide) hfits hword hsample ha hsymbol hcontents
    exact ⟨args, by simp [htokens, lineDirective?, hhead, htext], hargs⟩
  · obtain ⟨gaps, _, fs, hgaps, hrest, hfields⟩ := hfits.of_group_cons rfl
    rw [hfields] at hword hsample hcontents
    rw [List.flatMap_cons, fieldContents_indent (ne_nil_of_fits_someGap hgaps)] at hcontents
    obtain ⟨indent, tokens, htokens, hindent, -, hcontents⟩ := exists_cons_of_contents hcontents
    obtain ⟨head, args, rfl, hhead, htext, hargs⟩ := exists_sampleArgs (by decide) hrest
      (by simpa using hword) (by simpa using hsample) ha hsymbol hcontents
    exact ⟨args, by simp [htokens, lineDirective?, hindent, hhead, htext], hargs⟩
  · obtain ⟨head, args, htokens, hhead, htext, hargs⟩ :=
      exists_sampleArgs (by decide) hfits hword hsample ha hsymbol hcontents
    exact ⟨args, by simp [htokens, lineDirective?, hhead, htext], hargs⟩
  · exact absurd (word_of_fits_price hfits hword) hprice

/-- Whether a line is a directive that gives a commodity a sample.  A format line gives it to the
commodity that was declared last, if there is one. -/
def DeclaresSample (b : Builder) (line sample : List Char) (symbol : String) : Prop :=
  ∃ r word, readLine? line = some r ∧ (.directive, word.toList) ∈ r.fields ∧
    (.amount, sample) ∈ r.fields ∧
    (word = "commodity" ∨ word = "D" ∨
      word = "format" ∧ ∀ c ∈ b.lastCommodity, c = "" ∨ c = symbol)

/-- A directive with a sample does what it says. -/
theorem outcome_directive_sample {word : String} {line : Int}
    (hword : word = "commodity" ∨ word = "format" ∨ word = "D")
    (hargs : ∀ tok ∈ args, tok.kind ≠ .text) (b : Builder) :
    outcome (directive word args line) b = .ok ((), commodityDirective word args b) := by
  have hnone : ¬args.any (·.kind = .text) := by
    simpa [List.any_eq_true] using hargs
  unfold directive
  dsimp only
  rw [if_neg fun h => hnone h.2, if_pos hword, outcome_modify]

/-- A format line goes to the commodity of its sample, if no other one was declared last. -/
theorem formatDirective_eq {g : CommodityFormat} (hg : g.symbol = symbol)
    (hlast : ∀ c ∈ b.lastCommodity, c = "" ∨ c = symbol) (hsymbol : symbol ≠ "") :
    formatDirective (some g) b =
      b.record (·.addCommodity symbol ⟨some { g with symbol }, true⟩) := by
  have hempty : ¬symbol.isEmpty := by simpa using hsymbol
  unfold formatDirective
  dsimp only
  cases hc : b.lastCommodity with
  | none =>
    dsimp only
    rw [hg, if_neg hempty]
  | some c =>
    have hchosen : (if c.isEmpty then g.symbol else c) = symbol := by
      rcases hlast c hc with rfl | rfl
      · exact hg
      · exact if_neg hempty
    simp only [hchosen]
    rw [if_neg hempty]

/-- The sample that a directive puts together has a format with the same decimal mark. -/
theorem SampleArgs.exists_format {f : CommodityFormat} (hargs : SampleArgs args a symbol)
    (ha : ofText? text = some a) (hf : CommodityFormat.ofSample? none text = some f) :
    ∃ g, (formatSample? args).bind (CommodityFormat.ofSample? none) = some g ∧
      g.symbol = symbol ∧ g.decimalMark = f.decimalMark := by
  obtain ⟨sign, number, hquantity, hsign, hnumber, -⟩ := exists_pieces_of_ofChars? ha
  obtain ⟨quantity, name, hfirst, hname, htext, hunquote, hisSymbol⟩ := hargs.exists_tokens
  obtain ⟨joined, own, hjoined, a', ha', hsymbol', hown, hquantity'⟩ :=
    formatSample?_eq_some hfirst hname (htext.trans hquantity) hsign hnumber hisSymbol
  obtain ⟨g, hg⟩ := exists_ofSample? none ha' hsymbol'
  -- both amounts have the same number, so their formats have the same decimal mark
  obtain ⟨hgsymbol, hgmark, -⟩ := marks_of_ofSample? ha' hg hquantity' hown hnumber
  obtain ⟨-, hfmark, -⟩ := marks_of_ofSample? ha hf hquantity hsign hnumber
  refine ⟨g, ?_, (Option.some.inj (hgsymbol.symm.trans hsymbol')).trans hunquote,
    hgmark.trans hfmark.symm⟩
  rw [hjoined]
  exact hg

/-- **A commodity without a format gets that of the sample**, if the journal sets no decimal mark. -/
theorem formatOf_commodityDirective {word : String} {f : CommodityFormat}
    (hlast : word = "format" → ∀ c ∈ b.lastCommodity, c = "" ∨ c = symbol)
    (hargs : SampleArgs args a symbol) (ha : ofText? text = some a)
    (hf : CommodityFormat.ofSample? none text = some f) (hsymbol : symbol ≠ "")
    (hmark : b.snapshot.decimalMark = none) (hnone : b.snapshot.formatOf symbol = none) :
    ∃ g, (commodityDirective word args b).snapshot.formatOf symbol = some g ∧
      g.decimalMark = f.decimalMark := by
  obtain ⟨g, hformat, hgsymbol, hsame⟩ := hargs.exists_format ha hf
  obtain ⟨quantity, name, -, hname, -, hunquote, -⟩ := hargs.exists_tokens
  unfold commodityDirective
  dsimp only
  rw [hmark, hformat, hname]
  dsimp only
  rw [hunquote]
  by_cases hword : word = "format"
  · rw [if_pos hword, formatDirective_eq hgsymbol (hlast hword) hsymbol]
    refine ⟨{ g with symbol }, ?_, hsame⟩
    dsimp only [record]
    rw [Snapshot.formatOf_addCommodity, if_pos rfl, hnone, Option.none_or]
  rw [if_neg hword]
  have hadded : ((b.record (·.addCommodity symbol ⟨some g, true⟩)).snapshot).formatOf symbol =
      some g := by
    dsimp only [record]
    rw [Snapshot.formatOf_addCommodity, if_pos rfl, hnone, Option.none_or]
  refine ⟨g, ?_, hsame⟩
  split
  · exact hadded
  · exact hadded

end Directive

/-! ## The state behind the directive -/

/-- Whether a state comes from a build in which a commodity without a format got a sample, and in
which no decimal mark was set. -/
def AfterSample (sample : List Char) (symbol : String) (b' : Builder) : Prop :=
  ∃ (b : Builder) (first : Int) (line : List Char) (lines : List (List Char)),
    b.pending = [] ∧ b.snapshot.formatOf symbol = none ∧ DeclaresSample b line sample symbol ∧
      outcome (feedLineTokens first (line :: lines)) b = .ok ((), b') ∧
      b'.snapshot.decimalMark = none

theorem AfterSample.pending (h : AfterSample sample symbol b') : b'.pending = [] := by
  obtain ⟨b, first, line, lines, hpending, -, -, hrun, -⟩ := h
  exact pending_of_feedLineTokens hpending hrun

theorem AfterSample.decimalMark (h : AfterSample sample symbol b') :
    b'.snapshot.decimalMark = none := by
  obtain ⟨b, first, line, lines, -, -, -, -, hmark⟩ := h
  exact hmark

/-- **The decimal mark behind the directive** is the one of the sample. -/
theorem AfterSample.decimalMarkFor {text : String} {f : CommodityFormat}
    (h : AfterSample text.toList symbol b') (ha : ofText? text = some a)
    (hsymbol : a.commodity = some symbol)
    (hf : CommodityFormat.ofSample? none text = some f) (hne : symbol ≠ "") :
    b'.decimalMarkFor (some symbol) = some f.decimalMark := by
  obtain ⟨b, first, line, lines, hpending, hnone, ⟨r', word, hr', hdirective, hsample, hword⟩, hrun,
    hmark⟩ := h
  have hstart : b.snapshot.decimalMark = none := decimalMark_of_feedLineTokens hrun hmark
  have hname : word = "commodity" ∨ word = "format" ∨ word = "D" := by tauto
  have hlast : word = "format" → ∀ c ∈ b.lastCommodity, c = "" ∨ c = symbol := by
    rintro rfl
    simpa using hword
  obtain ⟨r, b₁, hr, hline, hrest⟩ := feedLineTokens_cons_eq_ok hpending hrun
  obtain rfl : r' = r := Option.some.inj (hr'.symm.trans hr)
  have hprice : word ≠ "P" := by rcases hname with rfl | rfl | rfl <;> decide
  obtain ⟨args, hdir, hargs⟩ :=
    exists_lineDirective hr hdirective hsample hprice ha hsymbol first
  -- the directive acts on a state with the formats and marks of the one before the line
  obtain ⟨b₀, ⟨hnone₀, hmark₀, hlast₀⟩, hdone⟩ := (reading_formats symbol fun format mark last =>
    format = none ∧ mark = none ∧ last = b.lastCommodity).exists_directive hdir hline
      ⟨hnone, hstart, rfl⟩
  rw [outcome_directive_sample hname hargs.no_text] at hdone
  obtain rfl : commodityDirective word args b₀ = b₁ := by simpa using hdone
  obtain ⟨g, hg, hsame⟩ := formatOf_commodityDirective (fun h => hlast₀ ▸ hlast h) hargs ha hf hne
    hmark₀ hnone₀
  have hkept : b'.snapshot.formatOf symbol = some g := formatOf_of_feedLineTokens hrest hg
  have hempty : ¬symbol.isEmpty := by simpa using hne
  obtain ⟨c, hc, hformat⟩ := Option.bind_eq_some_iff.mp hkept
  simp only [Builder.decimalMarkFor, hmark, if_neg hempty, hc, hformat, Option.map_some, hsame]

/-! ## Postings with the same amount -/

/-- Whether a line is a posting to an account with a certain amount, in which nothing is left that was
not understood. -/
def RepeatsSample (line sample : List Char) (account : String) : Prop :=
  ∃ r, readLine? line = some r ∧ r.rule.kind = .posting ∧ (.amount, sample) ∈ r.fields ∧
    ∀ tok ∈ r.tokens 0, tok.kind ≠ .text ∧
      (tok.kind = .account → cleanAccount? tok.text = some account)

/-- **A posting that repeats a sample** is read if the quantity of the sample is, under the decimal
mark of the commodity. -/
theorem RepeatsSample.readPosting {line : List Char} {account : String}
    (h : RepeatsSample line sample account) (ha : ofChars? sample = some a) (n : Int) :
    ∃ r indent head body p, readLine? line = some r ∧ r.tokens n = indent :: head :: body ∧
      indent.kind = .indent ∧ (head.kind = .status ∨ head.kind = .account) ∧
      p.account = account ∧ p.amount = some a.quantity ∧ p.commodity = a.commodity ∧
      ∀ b : Builder, b.readPosting (head :: body) =
        match readQuantity (b.decimalMarkFor a.commodity) (some a.quantity) with
        | .ok _ => .ok (some p)
        | .error .overflow => .error .quantityOverflow
        | .error _ => .ok none := by
  obtain ⟨r, hr, hkind, hfield, hclean⟩ := h
  -- the tokens differ from those of a first line in their places only
  have hclean : ∀ tok ∈ r.tokens n, tok.kind ≠ .text ∧
      (tok.kind = .account → cleanAccount? tok.text = some account) := by
    intro tok htok
    rw [← Int.zero_add n, r.tokens_relocate] at htok
    obtain ⟨tok', htok', rfl⟩ := List.mem_map.mp htok
    exact hclean tok' htok'
  obtain ⟨indent, marker, tok, rest, cs, fs, htokens, hindent, hmarker, htok, hfits, hrest⟩ :=
    tokens_of_posting hr hkind hfield n
  have hmem : ∀ t ∈ tok :: rest, t ∈ r.tokens n := fun t ht => by
    rw [htokens]
    exact List.mem_cons_of_mem _ (List.mem_append_right marker ht)
  obtain ⟨parts, hparts⟩ := exists_readPostingParts
    (fun t ht => (hclean t (hmem t (List.mem_cons_of_mem _ ht))).1) ⟨none, none, false, [], []⟩
  obtain ⟨front, back, rfl, hfront, hback⟩ := List.map_eq_append_iff.mp hrest
  -- what stands behind the amount changes neither quantity nor symbol
  have hsame : parts.amount = some a.quantity ∧ parts.commodity = a.commodity := by
    rw [readPostingParts_amount rfl ha hfront] at hparts
    obtain ⟨hquantity, hsymbol⟩ := readPostingParts_afterAmount hfits hback hparts
    exact ⟨hquantity, hsymbol.trans (by cases a.commodity <;> rfl)⟩
  have hread : ∀ b : Builder, b.readPosting (tok :: (front ++ back)) = _ :=
    readPosting_amount htok ((hclean tok (hmem tok List.mem_cons_self)).2 htok) hparts hsame.1
  rw [hsame.2] at hread
  rcases hmarker with rfl | ⟨status, rfl, hstatus⟩
  · exact ⟨r, indent, tok, front ++ back, _, hr, htokens, hindent, .inr htok, rfl, rfl, rfl, hread⟩
  · exact ⟨r, indent, status, tok :: (front ++ back), _, hr, htokens, hindent, .inl hstatus, rfl,
      rfl, rfl, fun b => (readPosting_marker hstatus htok _).trans (hread b)⟩

/-- A transaction with one more line that is a posting, or that could not be read as one. -/
def withLine (t : OpenTransaction) (n : Int) : Option Posting → OpenTransaction
  | none => { t with badLines := t.badLines ++ [n] }
  | some p => { t with postings := t.postings ++ [p] }

/-- What a line of a posting does to the open transaction. -/
theorem outcome_posting_line {line : List Char} {n : Int} {r : ReadLine} {indent head : Token}
    {body : List Token} {t : OpenTransaction} {result : Option Posting} (hpending : b.pending = [])
    (ht : b.openTransaction = some t) (hskip : b.skipping = false) (hr : readLine? line = some r)
    (htokens : r.tokens n = indent :: head :: body) (hindent : indent.kind = .indent)
    (hhead : head.kind = .status ∨ head.kind = .account)
    (hread : b.readPosting (head :: body) = .ok result) :
    ∃ b', outcome (feedLineTokens n [line]) b = .ok ((), b') ∧
      b'.openTransaction = some (withLine t n result) := by
  have hdirective : head.kind ≠ .directive := by rcases hhead with h | h <;> simp [h]
  have hcomment : head.kind ≠ .comment := by rcases hhead with h | h <;> simp [h]
  have hsame : (b.taking r n line.length).readPosting (head :: body) = .ok result := hread
  have hopen : (b.taking r n line.length).openTransaction = some t := ht
  have hskip : ¬(b.taking r n line.length).skipping := Bool.not_eq_true _ ▸ hskip
  rw [outcome_feedLineTokens_cons n line [] hpending, hr]
  dsimp only
  rw [htokens, handleLine_indented hindent, outcome_handleIndented, if_neg hdirective, if_neg hskip,
    hopen]
  dsimp only
  rw [if_neg hcomment, hsame]
  cases result with
  | none => exact ⟨_, rfl, rfl⟩
  | some p => exact ⟨_, rfl, rfl⟩

/-! ## Samples and their repetition -/

/-- **A sample is read by its own format**, and a posting that repeats it behind the directive is
added to its transaction, with one exception: if the points of the quantity only separate groups, the
point is the decimal mark of the format and its group separator at the same time, the format does not
read the quantity, and the line of the posting is one that cannot be read. -/
theorem sample_read_by_own_format {sample : String} {a : Amount} {f : CommodityFormat} {v : Decimal}
    (ha : ofText? sample = some a) (hf : CommodityFormat.ofSample? none sample = some f)
    (hv : readQuantity none (some a.quantity) = .ok v) :
    (f.groupSeparator.map String.singleton = some f.decimalMark ↔
        GroupedByPoints a.quantity.toList) ∧
      readQuantity (some f.decimalMark) (some a.quantity) =
        (if GroupedByPoints a.quantity.toList then .error (.invalid a.quantity) else .ok v) ∧
      ∀ (b : Builder) (t : OpenTransaction) (n : Int) (line : List Char) (account : String),
        AfterSample sample.toList f.symbol b → b.openTransaction = some t → b.skipping = false →
        RepeatsSample line sample.toList account →
        ∃ b' p, outcome (feedLineTokens n [line]) b = .ok ((), b') ∧
          p.account = account ∧ p.amount = some a.quantity ∧ p.commodity = some f.symbol ∧
          b'.openTransaction = some (withLine t n
            (if GroupedByPoints a.quantity.toList ∧ f.symbol ≠ "" then none else some p)) := by
  obtain ⟨hmarks, hread⟩ := readQuantity_ofSample? ha hf hv
  refine ⟨hmarks, hread, fun b t n line account hafter ht hskip hrepeats => ?_⟩
  obtain ⟨sign, number, hquantity, hsign, hnumber, -⟩ := exists_pieces_of_ofChars? ha
  obtain ⟨hsymbol, -⟩ := marks_of_ofSample? ha hf hquantity hsign hnumber
  obtain ⟨r, indent, head, body, p, hr, htokens, hindent, hhead, haccount, hamount, hcommodity,
    hposting⟩ := hrepeats.readPosting ha n
  have hresult : b.readPosting (head :: body) =
      .ok (if GroupedByPoints a.quantity.toList ∧ f.symbol ≠ "" then none else some p) := by
    rw [hposting b, hsymbol]
    by_cases hne : f.symbol = ""
    · -- an empty symbol has no format
      have hmark : b.decimalMarkFor (some f.symbol) = none := by
        simp [Builder.decimalMarkFor, hafter.decimalMark, hne]
      rw [hmark, hv, if_neg fun h => h.2 hne]
    · have hmark := hafter.decimalMarkFor ha hsymbol hf hne
      rw [hmark, hread]
      by_cases hgrouped : GroupedByPoints a.quantity.toList
      · rw [if_pos hgrouped, if_pos ⟨hgrouped, hne⟩]
      · rw [if_neg hgrouped, if_neg fun h => hgrouped h.1]
  obtain ⟨b', hrun, hopen⟩ := outcome_posting_line hafter.pending ht hskip hr htokens hindent hhead
    hresult
  exact ⟨b', p, hrun, haccount, hamount, hcommodity.trans hsymbol, hopen⟩

/-- Two marks: the posting keeps its amount. -/
theorem sample_read_by_own_format_of_two_marks :
    ∃ a f b t b' p, ofText? "1.000,00 EUR" = some a ∧
      CommodityFormat.ofSample? none "1.000,00 EUR" = some f ∧
      ¬f.groupSeparator.map String.singleton = some f.decimalMark ∧
      readQuantity (some f.decimalMark) (some a.quantity) = .ok ⟨false, 100000, -2⟩ ∧
      outcome (feedLineTokens 0 ["commodity 1.000,00 EUR".toList, "2024-01-05 x".toList])
        (.start .plain) = .ok ((), b) ∧ b.openTransaction = some t ∧
      outcome (feedLineTokens 2 [" a  1.000,00 EUR".toList]) b = .ok ((), b') ∧
      p.amount = some "1.000,00" ∧ p.commodity = some "EUR" ∧
      b'.openTransaction = some (withLine t 2 (some p)) := by
  have hsample : (ofText? "1.000,00 EUR").map (·.quantity) = some "1.000,00" ∧
      (CommodityFormat.ofSample? none "1.000,00 EUR").map (·.symbol) = some "EUR" ∧
      readQuantity none (some "1.000,00") = .ok ⟨false, 100000, -2⟩ := by decide +kernel
  obtain ⟨hquantity, hformat, hv⟩ := hsample
  obtain ⟨a, ha, hquantity⟩ := Option.map_eq_some_iff.mp hquantity
  obtain ⟨f, hf, hsymbol⟩ := Option.map_eq_some_iff.mp hformat
  have hdirective : (readLine? "commodity 1.000,00 EUR".toList).map (·.fields) =
      some [(.directive, "commodity".toList), (.amount, "1.000,00 EUR".toList)] := by
    decide +kernel
  obtain ⟨r, hr, hfields⟩ := Option.map_eq_some_iff.mp hdirective
  have hline : (readLine? " a  1.000,00 EUR".toList).map (fun r => (r.rule.kind, r.fields,
      r.tokens 0)) = some (.posting, [(.indent, [' ']), (.account, ['a']),
        (.amount, "1.000,00 EUR".toList)], [⟨.indent, " ", 0, 0⟩, ⟨.account, "a", 0, 1⟩,
        ⟨.amount, "1.000,00", 0, 4⟩, ⟨.commodity, "EUR", 0, 13⟩]) := by decide +kernel
  obtain ⟨r', hr', hfound⟩ := Option.map_eq_some_iff.mp hline
  simp only [Prod.mk.injEq] at hfound
  obtain ⟨hkind, hfields', htokens⟩ := hfound
  have hrun : (outcome (feedLineTokens 0 ["commodity 1.000,00 EUR".toList, "2024-01-05 x".toList])
      (.start .plain)).map (fun done => decide (done.2.snapshot.decimalMark = none ∧
        done.2.skipping = false ∧ done.2.openTransaction.isSome)) = .ok true := by decide +kernel
  obtain ⟨⟨⟨⟩, b⟩, hrun, hstate⟩ := exists_ok_of_map hrun
  obtain ⟨hmark, hskip, hopen⟩ := of_decide_eq_true hstate
  obtain ⟨t, ht⟩ := Option.isSome_iff_exists.mp hopen
  have hafter : AfterSample "1.000,00 EUR".toList f.symbol b := by
    rw [hsymbol]
    exact ⟨.start .plain, 0, _, _, rfl, rfl,
      ⟨r, "commodity", hr, by simp [hfields], by simp [hfields], .inl rfl⟩, hrun, hmark⟩
  have hrepeats : RepeatsSample " a  1.000,00 EUR".toList "1.000,00 EUR".toList "a" := by
    refine ⟨r', hr', hkind, by simp [hfields'], ?_⟩
    rw [htokens]
    decide +kernel
  obtain ⟨hmarks, hread, hposting⟩ := sample_read_by_own_format ha hf (hquantity ▸ hv)
  obtain ⟨b', p, hdone, -, hamount, hcommodity, hopen⟩ :=
    hposting b t 2 _ "a" hafter ht hskip hrepeats
  have hnot : ¬GroupedByPoints a.quantity.toList := by
    rw [hquantity]
    decide
  rw [if_neg hnot] at hread
  rw [if_neg fun h => hnot h.1] at hopen
  exact ⟨a, f, b, t, b', p, ha, hf, mt hmarks.mp hnot, hread, hrun, ht, hdone,
    hquantity ▸ hamount, hsymbol ▸ hcommodity, hopen⟩

/-- **A sample of points is not read by its own format**, and the transaction of a posting that repeats
it loses its postings. -/
theorem sample_of_points_not_read :
    (ofText? "1.000.000 EUR").map (·.quantity) = some "1.000.000" ∧
      readQuantity none (some "1.000.000") = .ok ⟨false, 1000000, 0⟩ ∧
      (CommodityFormat.ofSample? none "1.000.000 EUR").map (fun f =>
        (f.decimalMark, f.groupSeparator)) = some (".", some '.') ∧
      readQuantity (some ".") (some "1.000.000") = .error (.invalid "1.000.000") ∧
      (Snapshot.ofText .plain
        "commodity 1.000.000 EUR\n\n2024-01-05 x\n a  1.000.000 EUR\n b\n").map
          (fun s => s.transactions.map (·.postings)) = .ok [[]] := by
  decide +kernel

end Daybook.Builder
