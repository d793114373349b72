import Daybook.Proofs.Journal.Account
import Daybook.Proofs.Journal.Heading

/-!
# Posting lines

What is known of a line that falls under the rule for postings, beyond the shape of its fields: no
rule in front of it matches, and what would have been preferred cannot be read.

* `ReadsPosting`, `readsPosting_of_match?`: what a posting line without a status marker looks like.
* `amount_of_fits_afterAccount`, `contents_of_fits_afterAmount`: what stands behind its account.
* `exists_status_token`, `exists_indent_token`, `exists_account_token`: what its tokens start with.
* `fields_of_posting`, `tokens_of_posting`: what a posting with an amount is made of.
* `ReadsPosting.not_status`, `ReadsPosting.not_comment`, `ReadsPosting.not_format`: what its account
  is not.
-/

namespace Daybook.Journal

open Text Pattern

/-! ## The pattern of a posting -/

/-- The amount behind an account. -/
def amountPart : Pattern Field :=
  .all [separator, gap, .group .amount (.few fun c => c != '@' && c != '=' && c != ';')]

/-- What can stand behind the amount of a posting. -/
def afterAmount : Pattern Field :=
  .all [.opt (.all [gap, .group .operator (.seq (.one (· == '@')) (.opt (.one (· == '@')))), gap,
      .group .costAmount (.few fun c => c != '=' && c != ';')]),
    .opt (.all [gap,
      .group .assertion (.all [.one (· == '='), .opt (.one (· == '=')), .opt (.one (· == '*'))]),
      gap, .group .assertedAmount body]),
    tail]

/-- What can stand behind the account of a posting. -/
def afterAccount : Pattern Field :=
  .seq (.opt amountPart) afterAmount

/-- A posting without a status marker, from its account on. -/
def unmarked : Pattern Field :=
  .seq (.group .account accountField) afterAccount

/-- A posting with a status marker. -/
def marked : Pattern Field :=
  .seq (.seq (.group .status (.one isStatus)) someGap) unmarked

theorem posting_pattern_eq :
    LineRule.posting.pattern = .seq (.group .indent someGap)
      (.seq (.opt (.seq (.group .status (.one isStatus)) someGap)) unmarked) :=
  rfl

/-- There is one rule for postings. -/
theorem posting_of_kind {rule : LineRule} (hrule : rule ∈ LineRule.table)
    (hkind : rule.kind = .posting) : rule = .posting := by
  simp only [LineRule.table, List.mem_cons, List.not_mem_nil, or_false] at hrule
  rcases hrule with h | h | h | h | h | h | h | h | h | h | h | h | h | h | h | h | h <;>
    rw [h] at hkind <;> first | exact h | cases hkind

/-! ## Lines that are read as postings -/

/-- What a line that is read as a posting without a status marker looks like. -/
structure ReadsPosting (line indent account behind : List Char)
    (more : List (Field × List Char)) : Prop where
  line_eq : line = indent ++ (account ++ behind)
  indent_ne_nil : indent ≠ []
  gaps : ∀ x ∈ indent, isGap x = true
  isAccount : IsAccountText account behind
  fits : afterAccount.Fits behind more
  readable : afterAccount.leaves behind ≠ []
  not_marked : marked.leaves (account ++ behind) = []

/-- What stands behind the account goes to the end of the line. -/
theorem toEnd_afterAccount : afterAccount.ToEnd :=
  have hafterAmount : afterAmount.ToEnd := .seq (.seq toEnd_tail)
  hafterAmount.seq

/-- A match with a status marker records it. -/
theorem exists_status_of_scan_marked {line : List Char} {c : Cursor Field} {found : Match Field}
    (hc : line.drop c.pos = c.rest)
    (h : marked.scan c (fun c => some ⟨line, 0, c.pos, c.spans⟩) = some found) :
    ∃ f ∈ found.fields, f.1 = .status := by
  rw [scan_eq_findSome?] at h
  obtain ⟨last, hlast, hfound⟩ := List.exists_of_findSome?_eq_some h
  cases hfound
  obtain ⟨_, new, hfits, -, -, hnew⟩ := fits_of_mem_outcomes line hlast hc
  obtain ⟨_, _, _, _, ⟨marker, _, _, _, ⟨inner, -, rfl⟩, -, -, rfl⟩, -, -, hfields⟩ := hfits
  refine ⟨(.status, marker), ?_, rfl⟩
  rw [Match.fields, hnew, List.reverse_append, List.map_append, hfields]
  simp

/-- What a posting without a status marker is from its account on. -/
theorem exists_account_of_scan_unmarked {line : List Char} {c : Cursor Field}
    {found : Match Field} (hc : line.drop c.pos = c.rest) (hbreak : '\n' ∉ c.rest)
    (h : unmarked.scan c (fun c => some ⟨line, 0, c.pos, c.spans⟩) = some found) :
    ∃ account behind new, c.rest = account ++ behind ∧ IsAccountText account behind ∧
      afterAccount.leaves behind ≠ [] ∧
      afterAccount.Fits behind (new.reverse.map (Match.fieldOf line)) ∧ found.text = line ∧
      found.spans = new ++ ⟨.account, c.pos, c.pos + account.length⟩ :: c.spans := by
  rw [unmarked, scan, scan_eq_findSome?] at h
  obtain ⟨_, hrecord, h⟩ := List.exists_of_findSome?_eq_some h
  obtain ⟨m, hm, rfl⟩ := List.mem_map.mp hrecord
  have hdrop : line.drop m.pos = m.rest := drop_of_mem_outcomes hm hc
  obtain ⟨account, hsplit, haccount⟩ :=
    mem_leaves_accountField_iff.mp (mem_leaves_of_mem_outcomes hm)
  have hpos : m.pos = c.pos + account.length := by
    obtain ⟨taken, -, -, htaken, hpos, -⟩ := fits_of_mem_outcomes line hm hc
    rw [List.append_cancel_right (hsplit.symm.trans htaken)]
    exact hpos
  have hspans : m.spans = c.spans := spans_of_mem_outcomes rfl hm line hc
  have hbreak' : '\n' ∉ m.rest := fun hmem => hbreak (by
    rw [hsplit]
    exact List.mem_append_right account hmem)
  have hreadable : afterAccount.leaves m.rest ≠ [] :=
    (isSome_scan_iff (c := record .account c m) fun _ => rfl).mp (Option.isSome_of_eq_some h)
  obtain ⟨htext, new, hnew, hfits⟩ := toEnd_afterAccount.fits_of_scan
    (c := record .account c m) hbreak' hdrop h
  refine ⟨account, m.rest, new, hsplit, haccount, hreadable, hfits, htext, ?_⟩
  rw [hnew, ← hspans, ← hpos]
  rfl

/-- **What a posting line without a status marker looks like.** -/
theorem readsPosting_of_match? {line : List Char} {found : Match Field} (hbreak : '\n' ∉ line)
    (h : LineRule.posting.pattern.match? line = some found)
    (hstatus : ∀ f ∈ found.fields, f.1 ≠ .status) :
    ∃ indent account behind more, ReadsPosting line indent account behind more ∧
      found.fields = (.indent, indent) :: (.account, account) :: more := by
  rw [match?, matchAt?, posting_pattern_eq, scan, scan_eq_findSome?] at h
  obtain ⟨c, hc, h⟩ := List.exists_of_findSome?_eq_some h
  obtain ⟨m, hm, rfl⟩ := List.mem_map.mp hc
  obtain ⟨indent, hgaps, hline, hpos, hspans⟩ := fits_run_of_mem_runEnds hm
  obtain ⟨hgaps, hlength, -⟩ := fits_many.mp hgaps
  have hdrop : line.drop m.pos = m.rest := drop_of_mem_outcomes hm rfl
  let start : Cursor Field := record .indent ⟨0, line, []⟩ m
  have hline : line = indent ++ m.rest := hline
  have hpos : m.pos = indent.length := hpos.trans (Nat.zero_add _)
  rw [scan_seq_opt] at h
  -- a status marker would have been preferred
  rcases Option.or_eq_some_iff.mp h with hmarked | ⟨hmarked, h⟩
  · obtain ⟨f, hf, hlabel⟩ := exists_status_of_scan_marked (c := start) hdrop hmarked
    exact absurd hlabel (hstatus f hf)
  · have hnotMarked : marked.leaves m.rest = [] := by
      by_contra hsome
      have hscan := (isSome_scan_iff (c := start)
        (k := fun c => some (⟨line, 0, c.pos, c.spans⟩ : Match Field)) fun _ => rfl).mpr hsome
      rw [marked, hmarked] at hscan
      cases hscan
    have hbreak' : '\n' ∉ m.rest := fun hmem => hbreak (by
      rw [hline]
      exact List.mem_append_right indent hmem)
    obtain ⟨account, behind, new, hsplit, haccount, hreadable, hfits, htext, hnew⟩ :=
      exists_account_of_scan_unmarked (c := start) hdrop hbreak' h
    have hsplit : m.rest = account ++ behind := hsplit
    have hspans : found.spans = new ++ [⟨.account, indent.length, indent.length + account.length⟩,
        ⟨.indent, 0, indent.length⟩] := by
      rw [hnew, ← hpos]
      simp only [start, record, hspans]
    refine ⟨indent, account, behind, _, ⟨by rw [hline, hsplit],
      List.ne_nil_of_length_pos hlength, hgaps, haccount, hfits, hreadable,
      hsplit ▸ hnotMarked⟩, ?_⟩
    have hindent : Match.fieldOf line (⟨.indent, 0, indent.length⟩ : Span Field) =
        (.indent, indent) := by
      rw [Match.fieldOf, hline]
      simpa using slice_append [] indent m.rest
    have haccountField : Match.fieldOf line (⟨.account, indent.length,
        indent.length + account.length⟩ : Span Field) = (.account, account) := by
      rw [Match.fieldOf, hline, hsplit, slice_append]
    rw [Match.fields, htext, hspans, List.reverse_append, List.map_append]
    simp [hindent, haccountField]

/-! ## What stands behind the account -/

section Fields

variable {behind cs : List Char} {more fs : List (Field × List Char)}

/-- An account and its amount are separated by something that starts with a gap. -/
theorem exists_gap_of_fits_separator (h : (separator : Pattern Field).Fits cs fs) :
    ∃ x xs, cs = x :: xs ∧ isGap x = true ∧ fs = [] := by
  rcases h with ⟨x, hx, rfl, rfl⟩ | h
  · cases beq_iff_eq.mp hx
    exact ⟨_, _, rfl, rfl, rfl⟩
  · obtain ⟨hspaces, hlength, rfl⟩ := fits_many.mp h
    obtain ⟨x, xs, rfl⟩ := List.exists_cons_of_length_pos (Nat.lt_of_lt_of_le Nat.two_pos hlength)
    cases beq_iff_eq.mp (hspaces x List.mem_cons_self)
    exact ⟨_, _, rfl, rfl, rfl⟩

/-- **The amount of a posting** stands behind a gap, and in front of any operator. -/
theorem amount_of_fits_afterAccount (h : afterAccount.Fits behind more) :
    (∃ amount rest others, more = (.amount, amount) :: others ∧
      behind.head?.any isGap = true ∧ (∀ x ∈ amount, x ∈ behind ∧ x ≠ '@' ∧ x ≠ '=' ∧ x ≠ ';') ∧
        afterAmount.Fits rest others) ∨ afterAmount.Fits behind more := by
  obtain ⟨front, _, rest, others, hfront, hrest, rfl, rfl⟩ := h
  rcases fits_opt.mp hfront with hfront | ⟨rfl, rfl⟩
  · left
    obtain ⟨gaps, _, _, _, hgaps, hamount, rfl, rfl⟩ := fits_all_cons.mp hfront
    obtain ⟨gaps', _, amount, _, hgaps', ⟨_, hfew, rfl⟩, rfl, rfl⟩ := fits_all_cons.mp hamount
    obtain ⟨-, -, rfl⟩ := fits_many.mp hgaps'
    obtain ⟨hclass, rfl⟩ := fits_few.mp hfew
    obtain ⟨y, ys, rfl, hy, rfl⟩ := exists_gap_of_fits_separator hgaps
    refine ⟨amount, rest, others, rfl, hy, fun x hx => ⟨by simp [hx], ?_⟩, hrest⟩
    simpa [and_assoc] using hclass x hx
  · exact .inr hrest

/-- The end of a line has no field but a comment. -/
theorem fields_of_fits_tail (h : tail.Fits cs fs) :
    fs = [] ∨ ∃ comment, fs = [(.comment, comment)] := by
  obtain ⟨_, _, _, _, hgap, hbehind, -, rfl⟩ := fits_all_cons.mp h
  obtain ⟨-, -, rfl⟩ := fits_many.mp hgap
  obtain ⟨_, _, _, _, hcomment, hend, -, rfl⟩ := fits_all_cons.mp hbehind
  obtain ⟨-, rfl⟩ := fits_atEnd.mp hend
  rcases fits_opt.mp hcomment with ⟨_, _, _, _, ⟨_, _, _, rfl⟩, ⟨_, hrun, rfl⟩, -, rfl⟩ | ⟨-, rfl⟩
  · obtain ⟨-, -, rfl⟩ := fits_many.mp hrun
    exact .inr ⟨_, rfl⟩
  · exact .inl rfl

/-- The tokens at the end of a line are those of a comment, none of which is plain text. -/
theorem ne_text_of_mem_comment {symbolAlone : Bool} {more : List (Field × List Char)}
    (hmore : more = [] ∨ ∃ comment, more = [(.comment, comment)]) {c : TokenKind × String}
    (hc : c ∈ more.flatMap (fieldContents symbolAlone)) : c.1 ≠ .text := by
  rcases hmore with rfl | ⟨comment, rfl⟩
  · cases hc
  · rw [List.flatMap_singleton] at hc
    obtain ⟨tok, htok, rfl⟩ := List.mem_map.mp hc
    rcases mem_taggedTokens htok with hkind | hkind | hkind <;>
      simp [Token.content, hkind]

/-- Behind the amount come operators with what belongs to them, and a comment. -/
theorem contents_of_fits_afterAmount (h : afterAmount.Fits cs fs) :
    fs.flatMap (fieldContents false) = [] ∨ ∃ c rest,
      fs.flatMap (fieldContents false) = c :: rest ∧ (c.1 = .operator ∨ c.1 = .comment) := by
  -- a part with an operator in front is not there, or its first content is the operator
  have hopt : ∀ {x : Char} {p : Pattern Field} {label : Field} {ps : List (Pattern Field)}
      {cs : List Char} {fs : List (Field × List Char)}, isBlank x = false →
        label = .operator ∨ label = .assertion → p.groups = [] →
        (Pattern.opt (.all (gap :: .group label (.seq (.one (· == x)) p) :: ps))).Fits cs fs →
          fs = [] ∨ ∃ text rest, fs.flatMap (fieldContents false) = (.operator, text) :: rest := by
    intro x p label ps cs fs hx hlabel hp h
    rcases fits_opt.mp h with h | ⟨-, rfl⟩
    · obtain ⟨_, hrest⟩ := h.of_plain_cons rfl
      obtain ⟨sign, _, rest, hsign, -, rfl⟩ := hrest.of_group_cons (p := .seq (.one (· == x)) p) hp
      obtain ⟨_, _, more, _, ⟨y, hy, rfl, -⟩, -, rfl, -⟩ := hsign
      cases beq_iff_eq.mp hy
      have hblank : trimChars ([x] ++ more) ≠ [] := trimChars_ne_nil (x := x) (by simp) hx
      refine .inr ⟨String.ofList (trimChars ([x] ++ more)), rest.flatMap (fieldContents false), ?_⟩
      rcases hlabel with rfl | rfl
      · rw [List.flatMap_cons, fieldContents_plain .operator (by decide) hblank]
        rfl
      · rw [List.flatMap_cons, fieldContents_plain .assertion (by decide) hblank]
        rfl
    · exact .inl rfl
  obtain ⟨_, cost, _, _, hcost, hrest, -, rfl⟩ := fits_all_cons.mp h
  obtain ⟨_, assertion, _, comment, hassertion, htail, -, rfl⟩ := fits_all_cons.mp hrest
  rw [List.flatMap_append, List.flatMap_append]
  rcases hopt (by decide) (.inl rfl) rfl hcost with rfl | ⟨_, _, hcost⟩
  · rcases hopt (by decide) (.inr rfl) rfl hassertion with rfl | ⟨_, _, hassertion⟩
    · rcases fields_of_fits_tail htail with rfl | ⟨_, rfl⟩
      · exact .inl rfl
      · exact .inr ⟨_, _, rfl, .inr rfl⟩
    · rw [hassertion]
      exact .inr ⟨_, _, rfl, .inl rfl⟩
  · rw [hcost]
    exact .inr ⟨_, _, rfl, .inl rfl⟩

end Fields

/-! ## The tokens of a posting -/

/-- A status marker among the fields of a line is a token of it. -/
theorem exists_status_token {cs : List Char} {r : ReadLine} (hr : readLine? cs = some r)
    {marker : List Char} (h : (Field.status, marker) ∈ r.fields) (n : Int) :
    ∃ tok ∈ r.tokens n, tok.kind = .status ∧ tok.text = String.ofList marker := by
  obtain ⟨hrule, _, hfits⟩ := fits_of_readLine? hr
  obtain ⟨q, inner, hgroup, hq⟩ := hfits.exists_group h
  cases status_of_mem_groups hrule hgroup
  obtain ⟨x, hx, rfl, -⟩ : ∃ x, isStatus x = true ∧ marker = [x] ∧ inner = [] := hq
  have hblank : trimChars [x] ≠ [] := by
    rw [trimChars_status hx]
    exact List.cons_ne_nil x []
  have hcontent : (TokenKind.status, String.ofList [x]) ∈ (r.tokens n).map Token.content := by
    rw [r.contents_tokens]
    refine List.mem_flatMap.mpr ⟨_, h, ?_⟩
    rw [fieldContents_plain .status (by decide) hblank, trimChars_status hx]
    exact List.mem_singleton_self _
  obtain ⟨tok, htok, hsays⟩ := List.mem_map.mp hcontent
  exact ⟨tok, htok, congrArg Prod.fst hsays, congrArg Prod.snd hsays⟩

/-- Without a status marker among its fields, a line has none among its tokens. -/
theorem no_status_token {r : ReadLine} (h : ∀ f ∈ r.fields, f.1 ≠ .status) (n : Int) :
    ∀ tok ∈ r.tokens n, tok.kind ≠ .status := by
  intro tok htok hstatus
  obtain ⟨field, cs, column, hfield, hmem⟩ := exists_field_of_mem_tokens htok
  exact h _ hfield ((mem_fieldTokens hmem).1 hstatus).1

/-- The first token of a posting is its indent. -/
theorem exists_indent_token {cs : List Char} {r : ReadLine} (hr : readLine? cs = some r)
    (hkind : r.rule.kind = .posting) (n : Int) :
    ∃ first body, r.tokens n = first :: body ∧ first.kind = .indent := by
  have hform := lineForm_tokens hr n
  rw [hkind] at hform
  cases htokens : r.tokens n with
  | nil =>
    rw [htokens] at hform
    cases hform
  | cons first body =>
    rw [htokens] at hform
    cases hform with
    | posting hindent _ => exact ⟨first, _, rfl, hindent⟩

/-- The tokens of a posting that starts with its account. -/
theorem exists_account_token {r : ReadLine} (hrule : r.rule = .posting) {gaps account : List Char}
    {more : List (Field × List Char)}
    (hfields : r.fields = (.indent, gaps) :: (.account, account) :: more) (hgaps : gaps ≠ [])
    (haccount : trimChars account ≠ []) (n : Int) :
    ∃ indent tok rest, r.tokens n = indent :: tok :: rest ∧ indent.kind = .indent ∧
      tok.kind = .account ∧ tok.text = String.ofList (trimChars account) ∧
      rest.map Token.content = more.flatMap (fieldContents false) := by
  have hcontents := r.contents_tokens n
  rw [hrule, hfields, List.flatMap_cons, fieldContents_indent hgaps, List.flatMap_cons,
    fieldContents_plain .account (by decide) haccount] at hcontents
  obtain ⟨indent, tokens, htokens, hindent, -, hcontents⟩ := exists_cons_of_contents hcontents
  obtain ⟨tok, rest, rfl, htok, htext, hrest⟩ := exists_cons_of_contents hcontents
  exact ⟨indent, tok, rest, htokens, hindent, htok, htext, hrest⟩

/-- The fields of a posting with an amount. -/
theorem fields_of_posting {line amount : List Char} {r : ReadLine} (hr : readLine? line = some r)
    (hkind : r.rule.kind = .posting) (hfield : (Field.amount, amount) ∈ r.fields) :
    ∃ gaps marker account cs fs,
      r.fields = (.indent, gaps) :: (marker ++ (.account, account) :: (.amount, amount) :: fs) ∧
      gaps ≠ [] ∧ (marker = [] ∨ ∃ x, isStatus x = true ∧ marker = [(.status, [x])]) ∧
      trimChars account ≠ [] ∧ afterAmount.Fits cs fs := by
  obtain ⟨hmem, taken, hfits⟩ := fits_of_readLine? hr
  rw [posting_of_kind hmem hkind, posting_pattern_eq] at hfits
  obtain ⟨gaps, _, _, _, ⟨_, hgaps, rfl⟩, ⟨_, marker, _, _, hmarker, hposting, -, rfl⟩, -, hfields⟩ :=
    hfits
  cases hgaps.eq_nil rfl
  obtain ⟨account, _, behind, more, ⟨_, haccount, rfl⟩, hafter, -, rfl⟩ := hposting
  cases haccount.eq_nil rfl
  have hfields : r.fields = (.indent, gaps) :: (marker ++ (.account, account) :: more) := hfields
  rw [hfields] at hfield
  -- neither a marker nor what follows the amount has a field with this label
  have hno : (.amount, amount) ∉ marker := fun h =>
    absurd (show Field.amount ∈ _ from hmarker.label_mem h) (by decide)
  have hlater : ∀ {cs : List Char} {fs : List (Field × List Char)}, afterAmount.Fits cs fs →
      (.amount, amount) ∉ fs := fun hfits h =>
    absurd (show Field.amount ∈ _ from hfits.label_mem h) (by decide)
  have hstatus : marker = [] ∨ ∃ x, isStatus x = true ∧ marker = [(.status, [x])] := by
    rcases fits_opt.mp hmarker with hmarker | ⟨-, rfl⟩
    · obtain ⟨_, _, _, _, ⟨_, ⟨x, hx, rfl, rfl⟩, rfl⟩, hgap, -, rfl⟩ := hmarker
      cases hgap.eq_nil rfl
      exact .inr ⟨x, hx, rfl⟩
    · exact .inl rfl
  rcases amount_of_fits_afterAccount hafter with ⟨amount', cs, fs, rfl, -, -, hfits⟩ | hfits
  · obtain rfl : amount = amount' := by simpa [hno, hlater hfits] using hfield
    exact ⟨gaps, marker, account, cs, fs, hfields, ne_nil_of_fits_someGap hgaps, hstatus,
      trimChars_account_ne_nil haccount, hfits⟩
  · simp [hno, hlater hfits] at hfield

/-- **The tokens of a posting with an amount**: its indent, perhaps a marker, its account, and then
those of the amount and of what follows it. -/
theorem tokens_of_posting {line amount : List Char} {r : ReadLine} (hr : readLine? line = some r)
    (hkind : r.rule.kind = .posting) (hfield : (Field.amount, amount) ∈ r.fields) (n : Int) :
    ∃ indent marker tok rest cs fs, r.tokens n = indent :: (marker ++ tok :: rest) ∧
      indent.kind = .indent ∧ (marker = [] ∨ ∃ status, marker = [status] ∧ status.kind = .status) ∧
      tok.kind = .account ∧ afterAmount.Fits cs fs ∧
      rest.map Token.content =
        fieldContents false (.amount, amount) ++ fs.flatMap (fieldContents false) := by
  obtain ⟨gaps, marker, account, cs, fs, hfields, hgaps, hmarker, haccount, hfits⟩ :=
    fields_of_posting hr hkind hfield
  have hcontents := r.contents_tokens n
  rw [posting_of_kind (fits_of_readLine? hr).1 hkind, hfields, List.flatMap_cons,
    fieldContents_indent hgaps] at hcontents
  obtain ⟨indent, tokens, htokens, hindent, -, hcontents⟩ := exists_cons_of_contents hcontents
  rw [List.flatMap_append, List.flatMap_cons,
    fieldContents_plain .account (by decide) haccount] at hcontents
  rcases hmarker with rfl | ⟨x, hx, rfl⟩
  · obtain ⟨tok, rest, rfl, htok, -, hrest⟩ := exists_cons_of_contents hcontents
    exact ⟨indent, [], tok, rest, cs, fs, htokens, hindent, .inl rfl, htok, hfits, hrest⟩
  · have hblank : trimChars [x] ≠ [] := by
      rw [trimChars_status hx]
      exact List.cons_ne_nil x []
    rw [List.flatMap_singleton, fieldContents_plain .status (by decide) hblank] at hcontents
    obtain ⟨status, _, rfl, hstatus, -, hcontents⟩ := exists_cons_of_contents hcontents
    obtain ⟨tok, rest, rfl, htok, -, hrest⟩ := exists_cons_of_contents hcontents
    exact ⟨indent, [status], tok, rest, cs, fs, htokens, hindent, .inr ⟨status, rfl, hstatus⟩, htok,
      hfits, hrest⟩

/-! ## What the account of a posting is not -/

/-- The rules in front of the one that a line falls under do not match it. -/
theorem match?_eq_none_of_readLineFrom {line : List Char} {index : Nat} {rules : List LineRule}
    {r : ReadLine} (h : readLineFrom line index rules = some r) {rule : LineRule}
    (hrule : rule ∈ rules.takeWhile fun rule => rule.kind ≠ r.rule.kind ) :
    rule.pattern.match? line = none := by
  induction rules generalizing index with
  | nil => cases hrule
  | cons first rules ih =>
    rw [readLineFrom] at h
    cases hfirst : first.pattern.match? line with
    | some found =>
      rw [hfirst] at h
      cases h
      simp at hrule
    | none =>
      rw [hfirst] at h
      rw [List.takeWhile_cons] at hrule
      split at hrule
      · rcases List.mem_cons.mp hrule with rfl | hrule
        · exact hfirst
        · exact ih h hrule
      · cases hrule

section Reads

variable {line indent account behind : List Char} {more : List (Field × List Char)}

/-- **The account of a posting without a status marker does not start with one and a space.** -/
theorem ReadsPosting.not_status (h : ReadsPosting line indent account behind more) {x z : Char}
    {name spaces : List Char} (haccount : account = x :: ' ' :: z :: name ++ spaces) :
    isStatus x = false := by
  by_contra hx
  have hx : isStatus x = true := by simpa using hx
  obtain ⟨_, _, heq, -, haccepted⟩ := haccount ▸ h.isAccount
  obtain ⟨rfl, rfl⟩ := List.cons.inj heq
  obtain ⟨hspace, hz, hname⟩ := haccepted
  -- behind the marker stands an account, too
  have hz : isAccountChar z = true := hspace
  have hrest : IsAccountText (z :: name ++ spaces) behind := ⟨z, name ++ spaces, rfl, hz, hname⟩
  obtain ⟨rest, hmem⟩ := List.exists_mem_of_ne_nil _ h.readable
  have hmarked : rest ∈ marked.leaves (account ++ behind) := by
    rw [haccount]
    have hmarker : ' ' :: (z :: name ++ spaces ++ behind) ∈
        (Pattern.group Field.status (.one isStatus)).leaves
          (x :: ' ' :: z :: name ++ spaces ++ behind) := by
      simp [leaves, hx]
    exact mem_leaves_seq (mem_leaves_seq hmarker (mem_leaves_many_one (by decide) _))
      (mem_leaves_seq (mem_leaves_accountField_iff.mpr ⟨_, rfl, hrest⟩) hmem)
  rw [h.not_marked] at hmarked
  cases hmarked

/-- The account of a posting does not start with a sign of comments. -/
theorem ReadsPosting.not_comment (h : ReadsPosting line indent account behind more)
    (hbreak : '\n' ∉ line) (hcomment : LineRule.comment.pattern.match? line = none) :
    ∀ x ∈ account.head?, x ≠ '#' := by
  rintro x hx rfl
  obtain ⟨xs, hxs⟩ : ∃ xs, account = '#' :: xs := by
    cases haccount : account with
    | nil => exact absurd haccount h.isAccount.ne_nil
    | cons y ys =>
      rw [haccount] at hx
      cases hx
      exact ⟨ys, rfl⟩
  have hinline : ∀ y ∈ xs ++ behind, isInline y = true := fun y hy =>
    bne_iff_ne.mpr fun hy' => hbreak (by
      rw [h.line_eq, hxs]
      simp only [List.mem_append, List.mem_cons] at hy ⊢
      rw [← hy']
      tauto)
  have hall := mem_leaves_run (γ := Field) .longest [] hinline (Nat.zero_le _)
  rw [List.append_nil] at hall
  have hindent : account ++ behind ∈ (Pattern.group Field.indent gap).leaves line := by
    rw [h.line_eq]
    exact mem_leaves_run (γ := Field) .longest (account ++ behind) h.gaps (Nat.zero_le _)
  have hsign : xs ++ behind ∈
      (Pattern.one fun c => c == ';' || c == '#' : Pattern Field).leaves (account ++ behind) := by
    simp [hxs, leaves]
  have hleaves : [] ∈ LineRule.comment.pattern.leaves line :=
    mem_leaves_seq hindent (mem_leaves_seq hsign
      (mem_leaves_seq hall (List.mem_singleton_self [])))
  rw [match?_eq_none_iff.mp hcomment] at hleaves
  cases hleaves

/-- The account of a posting is not the name of a directive with a gap behind it. -/
theorem ReadsPosting.not_format (h : ReadsPosting line indent account behind more)
    (hbreak : '\n' ∉ line) (hformat : LineRule.format.pattern.match? line = none) {x : Char}
    {rest : List Char} (hx : isGap x = true) :
    account ++ behind ≠ "format".toList ++ x :: rest := by
  intro heq
  have hindent : account ++ behind ∈ (Pattern.group Field.indent someGap).leaves line := by
    rw [h.line_eq]
    exact mem_leaves_run (γ := Field) .longest (account ++ behind) h.gaps
      (List.length_pos_of_ne_nil h.indent_ne_nil)
  have hname : x :: rest ∈ (directiveWord "format").leaves (account ++ behind) := by
    rw [heq]
    exact List.mem_singleton_self _
  have hsplit := List.takeWhile_append_dropWhile (p := isBody) (l := rest)
  have hbody := mem_leaves_run (γ := Field) .shortest (rest.dropWhile isBody)
    (fun y hy => List.mem_takeWhile_imp hy) (Nat.zero_le (rest.takeWhile isBody).length)
  rw [hsplit] at hbody
  have hbreak' : '\n' ∉ rest.dropWhile isBody := fun hmem => hbreak (by
    rw [h.line_eq, heq]
    simp [(List.dropWhile_suffix _).subset hmem])
  have htail : [] ∈ tail.leaves (rest.dropWhile isBody) := by
    refine mem_leaves_tail (fun c hc => ?_) hbreak'
    simpa [isBody] using head_dropWhile isBody rest c hc
  have hleaves : [] ∈ LineRule.format.pattern.leaves line :=
    mem_leaves_seq hindent (mem_leaves_seq hname (mem_leaves_seq (mem_leaves_many_one hx rest)
      (mem_leaves_seq hbody htail)))
  rw [match?_eq_none_iff.mp hformat] at hleaves
  cases hleaves

end Reads

end Daybook.Journal
