import Daybook.Builder.Directive
import Daybook.Proofs.Pattern
import Daybook.Proofs.Text.Trim

/-!
# The forms of lines

Which tokens a line has depends on the rule that it falls under.  The builder only looks at the first
one or two of them to decide what a line does, so for every kind of line it is said here which these
are; for the fields that are read further it is said what they can hold.

* `ReadLine.contents_tokens`: what the tokens of a line say is determined by its fields.
* `LineForm`, `lineForm_tokens`: the first tokens of a line of each kind.
* `status_of_mem_tokens`, `amount_of_mem_tokens`: what status and amount tokens hold.
* `isSome_readLine?`: every line without a line break falls under a rule.
-/

namespace Daybook

open Text Amount

namespace Journal

/-! ## What tokens say -/

/-- What a token says, wherever it stands. -/
def Token.content (tok : Token) : TokenKind × String :=
  (tok.kind, tok.text)

/-- What the tokens of a field say. -/
def fieldContents (symbolAlone : Bool) (f : Field × List Char) : List (TokenKind × String) :=
  (fieldTokens symbolAlone 0 f.1 f.2 0).map Token.content

theorem content_amountTokens (symbolAlone : Bool) (cs : List Char) (line : Int) (column : Nat) :
    (amountTokens symbolAlone cs line column).map Token.content =
      (amountTokens symbolAlone cs 0 0).map Token.content := by
  unfold amountTokens amountPieces
  split
  · rfl
  · split
    · dsimp only
      split
      · rfl
      · split <;> rfl
    · rfl

theorem content_taggedTokens (kind : TokenKind) (cs : List Char) (line : Int) (column : Nat) :
    (taggedTokens kind cs line column).map Token.content =
      (taggedTokens kind cs 0 0).map Token.content := by
  rw [taggedTokens, taggedTokens, List.map_cons, List.map_cons, List.map_flatMap, List.map_flatMap]
  rfl

/-- What the tokens of a field say does not depend on where it stands. -/
theorem content_fieldTokens (symbolAlone : Bool) (line : Int) (field : Field) (cs : List Char)
    (column : Nat) :
    (fieldTokens symbolAlone line field cs column).map Token.content =
      fieldContents symbolAlone (field, cs) := by
  unfold fieldContents fieldTokens
  dsimp only
  split
  · split <;> rfl
  · exact content_taggedTokens _ _ _ _
  · split
    · rfl
    · exact content_taggedTokens _ _ _ _
  · exact content_amountTokens _ _ _ _
  · split <;> rfl

/-- The fields of a line. -/
def ReadLine.fields (r : ReadLine) : List (Field × List Char) :=
  r.found.fields

/-- What the tokens of a line say is determined by its fields. -/
theorem ReadLine.contents_tokens (r : ReadLine) (line : Int) :
    (r.tokens line).map Token.content =
      r.fields.flatMap (fieldContents r.rule.symbolAlone) := by
  rw [ReadLine.tokens, ReadLine.fields, Match.fields, List.map_flatMap, List.flatMap_map]
  simp only [content_fieldTokens, Match.fieldOf]

/-! ## Rules -/

/-- The rule of a line is in the table and matches the line. -/
theorem match?_of_readLineFrom {line : List Char} {index : Nat} {rules : List LineRule}
    {r : ReadLine} (h : readLineFrom line index rules = some r) :
    r.rule ∈ rules ∧ r.rule.pattern.match? line = some r.found := by
  induction rules generalizing index with
  | nil => cases h
  | cons rule rules ih =>
    rw [readLineFrom] at h
    split at h
    · rename_i found hfound
      cases h
      exact ⟨List.mem_cons_self, hfound⟩
    · obtain ⟨hmem, hmatch⟩ := ih h
      exact ⟨List.mem_cons_of_mem _ hmem, hmatch⟩

/-- A line that one of the rules matches falls under a rule. -/
theorem isSome_readLineFrom {line : List Char} {rules : List LineRule} (rule : LineRule)
    (hrule : rule ∈ rules) (h : (rule.pattern.match? line).isSome) (index : Nat) :
    (readLineFrom line index rules).isSome := by
  induction rules generalizing index with
  | nil => cases hrule
  | cons first rules ih =>
    rw [readLineFrom]
    cases hfirst : first.pattern.match? line with
    | some found => rfl
    | none =>
      rcases List.mem_cons.mp hrule with rfl | hrule
      · rw [hfirst] at h
        cases h
      · exact ih hrule (index + 1)

/-- The fields of a line fit its rule. -/
theorem fits_of_readLine? {cs : List Char} {r : ReadLine} (h : readLine? cs = some r) :
    r.rule ∈ LineRule.table ∧ ∃ taken, r.rule.pattern.Fits taken r.fields := by
  obtain ⟨hmem, hmatch⟩ := match?_of_readLineFrom h
  obtain ⟨-, taken, hfits, -⟩ := Pattern.fits_of_match? hmatch
  exact ⟨hmem, taken, hfits⟩

/-- Every line without a line break falls under a rule. -/
theorem isSome_readLine? {cs : List Char} (h : '\n' ∉ cs) : (readLine? cs).isSome := by
  cases cs with
  | nil => rfl
  | cons x xs =>
    have hinline : ∀ y ∈ x :: xs, isInline y = true := by
      intro y hy
      rw [isInline, bne_iff_ne]
      exact fun heq => h (heq ▸ hy)
    have hrun := Pattern.mem_outcomes_many (γ := Field) (c := ⟨0, x :: xs, []⟩) hinline
      (Nat.succ_le_succ (Nat.zero_le _))
    have hwhole : ⟨(x :: xs).length, [], [⟨.text, 0, (x :: xs).length⟩]⟩ ∈
        LineRule.unknown.pattern.outcomes ⟨0, x :: xs, []⟩ :=
      List.mem_flatMap.mpr ⟨_, List.mem_map_of_mem hrun, by simp [Pattern.record, Pattern.all,
        Pattern.atEnd, Pattern.outcomes]⟩
    exact isSome_readLineFrom .unknown (by simp [LineRule.table])
      (Pattern.isSome_match? hwhole) 0

/-! ## Forms -/

/-- Whether a text is a year: four digits. -/
def IsYear (text : String) : Prop :=
  ∃ ds : List Char, text = String.ofList ds ∧ ds.length = 4 ∧ ∀ c ∈ ds, isDigit c = true

/-- The first tokens of a line of each kind, which say what the line does. -/
inductive LineForm : LineKind → List Token → Prop where
  | blank : LineForm .blank []
  | comment {head : Token} {rest : List Token} (hhead : head.kind = .comment) :
    LineForm .comment (head :: rest)
  | indentedComment {indent head : Token} {rest : List Token} (hindent : indent.kind = .indent)
    (hhead : head.kind = .comment) : LineForm .comment (indent :: head :: rest)
  | transaction {head : Token} {rest : List Token} (hhead : head.kind = .date) :
    LineForm .transaction (head :: rest)
  | directive {head : Token} {rest : List Token} (hhead : head.kind = .directive)
    (hyear : head.text = "Y" ∨ head.text = "year" →
      ∃ tok, Builder.firstOf? .text rest = some tok ∧ IsYear tok.text) :
    LineForm .directive (head :: rest)
  | format {indent head : Token} {rest : List Token} (hindent : indent.kind = .indent)
    (hhead : head.kind = .directive) (hname : head.text = "format") :
    LineForm .directive (indent :: head :: rest)
  | posting {indent head : Token} {rest : List Token} (hindent : indent.kind = .indent)
    (hhead : head.kind = .status ∨ head.kind = .account) :
    LineForm .posting (indent :: head :: rest)
  | nothing : LineForm .unknown []
  | unknown {tok : Token} (htok : tok.kind = .text) : LineForm .unknown [tok]

section Forms

variable {tokens : List Token} {taken : List Char} {fs : List (Field × List Char)}
  {symbolAlone : Bool}

/-- A field whose tokens start with a certain content gives the first token. -/
theorem exists_cons_of_contents {c : TokenKind × String} {cs : List (TokenKind × String)}
    (h : tokens.map Token.content = c :: cs) :
    ∃ tok rest, tokens = tok :: rest ∧ tok.kind = c.1 ∧ tok.text = c.2 ∧
      rest.map Token.content = cs := by
  obtain ⟨tok, rest, rfl, htok, hrest⟩ := List.map_eq_cons_iff.mp h
  exact ⟨tok, rest, rfl, congrArg Prod.fst htok, congrArg Prod.snd htok, hrest⟩

theorem fieldContents_indent {cs : List Char} (h : cs ≠ []) :
    fieldContents symbolAlone (.indent, cs) = [(.indent, String.ofList cs)] := by
  have hne : ¬cs.isEmpty := by simpa using h
  simp only [fieldContents, fieldTokens, Field.tokenKind, if_neg hne]
  rfl

theorem fieldContents_comment (symbolAlone : Bool) (cs : List Char) :
    ∃ rest, fieldContents symbolAlone (.comment, cs) =
      (.comment, String.ofList (trimChars cs)) :: rest :=
  ⟨_, rfl⟩

/-- A field of a plain kind has one token, if it is not blank. -/
theorem fieldContents_plain (field : Field) {cs : List Char}
    (hfield : field.tokenKind ∉ [TokenKind.indent, .comment, .note, .amount])
    (h : trimChars cs ≠ []) :
    fieldContents symbolAlone (field, cs) =
      [(field.tokenKind, String.ofList (trimChars cs))] := by
  have hne : ¬(trimChars cs).isEmpty := by simpa using h
  cases field <;> first
    | exact absurd (by decide) hfield
    | simp only [fieldContents, fieldTokens, Field.tokenKind, if_neg hne]; rfl

theorem ne_nil_of_fits_someGap (h : (someGap : Pattern Field).Fits taken fs) : taken ≠ [] := by
  obtain ⟨-, hlength, -⟩ := Pattern.fits_many.mp h
  exact List.ne_nil_of_length_pos hlength

/-- A date starts with a digit. -/
theorem exists_digit_of_fits {γ : Type} {taken : List Char} {fs : List (γ × List Char)}
    (h : (Calendar.datePattern : Pattern γ).Fits taken fs) :
    ∃ x xs, taken = x :: xs ∧ isDigit x = true := by
  have hfirst : ∀ {least most : Nat} {ps : List (Pattern γ)} {cs : List Char}
      {fs : List (γ × List Char)}, 1 ≤ least →
      (Pattern.all (.between isDigit least most :: ps)).Fits cs fs →
        ∃ x xs, cs = x :: xs ∧ isDigit x = true := by
    intro least most ps cs fs hleast h
    obtain ⟨digits, _, rest, _, hdigits, -, rfl, -⟩ := Pattern.fits_all_cons.mp h
    obtain ⟨hdigit, hlength, -, -⟩ := Pattern.fits_between.mp hdigits
    obtain ⟨x, xs, rfl⟩ := List.exists_cons_of_length_pos (Nat.lt_of_lt_of_le hleast hlength)
    exact ⟨x, xs ++ rest, rfl, hdigit x List.mem_cons_self⟩
  rcases h with h | h | h <;> exact hfirst (by decide) h

/-- A date starts with a digit, so it is not blank. -/
theorem trimChars_date_ne_nil (h : (Calendar.datePattern : Pattern Field).Fits taken fs) :
    trimChars taken ≠ [] := by
  obtain ⟨x, xs, rfl, hx⟩ := exists_digit_of_fits h
  exact trimChars_ne_nil List.mem_cons_self (isBlank_of_isDigit hx)

theorem lineForm_blank (h : LineRule.blank.pattern.Fits taken fs)
    (hcontents : tokens.map Token.content = fs.flatMap (fieldContents symbolAlone)) :
    LineForm .blank tokens := by
  cases h.eq_nil rfl
  cases List.map_eq_nil_iff.mp hcontents
  exact .blank

theorem lineForm_comment (h : LineRule.comment.pattern.Fits taken fs)
    (hcontents : tokens.map Token.content = fs.flatMap (fieldContents symbolAlone)) :
    LineForm .comment tokens := by
  obtain ⟨gaps, _, _, -, hsign, rfl⟩ := h.of_group_cons rfl
  obtain ⟨_, hcomment⟩ := hsign.of_plain_cons rfl
  obtain ⟨comment, _, _, -, -, rfl⟩ := hcomment.of_group_cons rfl
  obtain ⟨tags, htags⟩ := fieldContents_comment symbolAlone comment
  simp only [List.flatMap_cons, htags, List.cons_append] at hcontents
  by_cases hgaps : gaps = []
  · have hnone : fieldContents symbolAlone (.indent, gaps) = [] := by
      rw [hgaps]
      rfl
    rw [hnone] at hcontents
    obtain ⟨head, rest, rfl, hhead, -, -⟩ := exists_cons_of_contents hcontents
    exact .comment hhead
  · rw [fieldContents_indent hgaps] at hcontents
    obtain ⟨indent, others, rfl, hindent, -, hcontents⟩ := exists_cons_of_contents hcontents
    obtain ⟨head, rest, rfl, hhead, -, -⟩ := exists_cons_of_contents hcontents
    exact .indentedComment hindent hhead

theorem lineForm_starComment (h : LineRule.starComment.pattern.Fits taken fs)
    (hcontents : tokens.map Token.content = fs.flatMap (fieldContents symbolAlone)) :
    LineForm .comment tokens := by
  obtain ⟨_, hcomment⟩ := h.of_plain_cons rfl
  obtain ⟨comment, _, _, -, -, rfl⟩ := hcomment.of_group_cons rfl
  obtain ⟨tags, htags⟩ := fieldContents_comment symbolAlone comment
  simp only [List.flatMap_cons, htags, List.cons_append] at hcontents
  obtain ⟨head, rest, rfl, hhead, -, -⟩ := exists_cons_of_contents hcontents
  exact .comment hhead

theorem lineForm_transaction (h : LineRule.transaction.pattern.Fits taken fs)
    (hcontents : tokens.map Token.content = fs.flatMap (fieldContents symbolAlone)) :
    LineForm .transaction tokens := by
  obtain ⟨date, _, _, hdate, -, rfl⟩ := h.of_group_cons rfl
  have hblank : trimChars date ≠ [] := trimChars_date_ne_nil hdate
  rw [List.flatMap_cons, fieldContents_plain _ (by decide) hblank] at hcontents
  obtain ⟨head, rest, rfl, hhead, -, -⟩ := exists_cons_of_contents hcontents
  exact .transaction hhead

/-- A rule that starts with the name of a directive. -/
theorem lineForm_directive (word : String) {ps : List (Pattern Field)}
    (h : (Pattern.all (directiveWord word :: ps)).Fits taken fs)
    (hcontents : tokens.map Token.content = fs.flatMap (fieldContents symbolAlone))
    (hword : trimChars word.toList = word.toList ∧ word.toList ≠ [])
    (hyear : word ≠ "Y" ∧ word ≠ "year") : LineForm .directive tokens := by
  obtain ⟨name, _, _, hname, -, rfl⟩ := h.of_group_cons (Pattern.groups_literal word)
  obtain ⟨rfl, -⟩ := Pattern.fits_literal.mp hname
  have hblank : trimChars word.toList ≠ [] := by
    rw [hword.1]
    exact hword.2
  rw [List.flatMap_cons, fieldContents_plain _ (by decide) hblank, hword.1,
    String.ofList_toList] at hcontents
  obtain ⟨head, rest, rfl, hhead, htext, -⟩ := exists_cons_of_contents hcontents
  refine .directive hhead fun hname => ?_
  rw [htext] at hname
  rcases hname with hname | hname
  · exact absurd hname hyear.1
  · exact absurd hname hyear.2

theorem lineForm_format (h : LineRule.format.pattern.Fits taken fs)
    (hcontents : tokens.map Token.content = fs.flatMap (fieldContents symbolAlone)) :
    LineForm .directive tokens := by
  obtain ⟨gaps, _, _, hgaps, hdirective, rfl⟩ := h.of_group_cons rfl
  obtain ⟨name, _, _, hname, -, rfl⟩ := hdirective.of_group_cons rfl
  obtain ⟨rfl, -⟩ := Pattern.fits_literal.mp hname
  rw [List.flatMap_cons, List.flatMap_cons, fieldContents_indent (ne_nil_of_fits_someGap hgaps),
    fieldContents_plain _ (by decide) (by decide)] at hcontents
  obtain ⟨indent, others, rfl, hindent, -, hcontents⟩ := exists_cons_of_contents hcontents
  obtain ⟨head, rest, rfl, hhead, htext, -⟩ := exists_cons_of_contents hcontents
  exact .format hindent hhead (htext.trans (by decide))

theorem lineForm_year (h : LineRule.year.pattern.Fits taken fs)
    (hcontents : tokens.map Token.content = fs.flatMap (fieldContents symbolAlone)) :
    LineForm .directive tokens := by
  obtain ⟨name, _, _, hname, hgap, rfl⟩ := h.of_group_cons rfl
  obtain ⟨_, hyear⟩ := hgap.of_plain_cons rfl
  obtain ⟨year, _, _, hdigits, -, rfl⟩ := hyear.of_group_cons rfl
  have hname : trimChars name ≠ [] := by
    rcases hname with hname | hname <;>
    · obtain ⟨rfl, -⟩ := Pattern.fits_literal.mp hname
      decide
  obtain ⟨hdigit, hleast, hmost, -⟩ := Pattern.fits_between.mp hdigits
  have hself : trimChars year = year :=
    trimChars_eq_self fun x hx => isBlank_of_isDigit (hdigit x hx)
  have hyear : trimChars year ≠ [] := by
    rw [hself]
    exact List.ne_nil_of_length_pos (by omega)
  rw [List.flatMap_cons, List.flatMap_cons, fieldContents_plain _ (by decide) hname,
    fieldContents_plain _ (by decide) hyear, hself] at hcontents
  obtain ⟨head, others, rfl, hhead, -, hcontents⟩ := exists_cons_of_contents hcontents
  obtain ⟨tok, rest, rfl, hkind, htext, -⟩ := exists_cons_of_contents hcontents
  refine .directive hhead fun _ => ⟨tok, ?_, year, htext, by omega, hdigit⟩
  rw [Builder.firstOf?, List.find?_cons, hkind]
  rfl

/-- An account holds a character that is not blank. -/
theorem trimChars_account_ne_nil
    (h : (Pattern.seq (.opt (.one fun c => c == '(' || c == '[')) accountPattern :
      Pattern Field).Fits taken fs) : trimChars taken ≠ [] := by
  obtain ⟨bracket, _, _, _, -, ⟨_, _, more, _, ⟨x, hx, rfl, -⟩, -, rfl, -⟩, rfl, -⟩ := h
  rw [isAccountChar, Bool.and_eq_true, Bool.not_eq_true'] at hx
  exact trimChars_ne_nil (x := x) (by simp) hx.1

theorem isStatus_iff {c : Char} : isStatus c = true ↔ c = '*' ∨ c = '!' := by
  rw [isStatus, Bool.or_eq_true, beq_iff_eq, beq_iff_eq]

theorem trimChars_status {x : Char} (h : isStatus x = true) : trimChars [x] = [x] := by
  refine trimChars_eq_self fun y hy => ?_
  rw [List.mem_singleton.mp hy]
  rcases isStatus_iff.mp h with rfl | rfl <;> decide

theorem lineForm_posting (h : LineRule.posting.pattern.Fits taken fs)
    (hcontents : tokens.map Token.content = fs.flatMap (fieldContents symbolAlone)) :
    LineForm .posting tokens := by
  obtain ⟨gaps, _, _, hgaps, hline, rfl⟩ := h.of_group_cons rfl
  obtain ⟨_, marked, _, _, hmarked, hmore, -, rfl⟩ := Pattern.fits_all_cons.mp hline
  obtain ⟨account, _, _, haccount, -, rfl⟩ := hmore.of_group_cons rfl
  rw [List.flatMap_cons, fieldContents_indent (ne_nil_of_fits_someGap hgaps)] at hcontents
  obtain ⟨indent, others, rfl, hindent, -, hcontents⟩ := exists_cons_of_contents hcontents
  -- A status in front of the account is a token of its own.
  rcases hmarked with ⟨_, _, _, _, ⟨_, ⟨x, hx, rfl, rfl⟩, rfl⟩, hgap, -, rfl⟩ | ⟨-, rfl⟩
  · cases hgap.eq_nil rfl
    have hstatus : trimChars [x] ≠ [] := by
      rw [trimChars_status hx]
      exact List.cons_ne_nil _ _
    simp only [List.nil_append, List.append_nil, List.singleton_append, List.flatMap_cons,
      fieldContents_plain .status (by decide) hstatus] at hcontents
    obtain ⟨head, rest, rfl, hhead, -, -⟩ := exists_cons_of_contents hcontents
    exact .posting hindent (.inl hhead)
  · rw [List.nil_append, List.flatMap_cons, fieldContents_plain _ (by decide)
      (trimChars_account_ne_nil haccount)] at hcontents
    obtain ⟨head, rest, rfl, hhead, -, -⟩ := exists_cons_of_contents hcontents
    exact .posting hindent (.inr hhead)

theorem lineForm_unknown (h : LineRule.unknown.pattern.Fits taken fs)
    (hcontents : tokens.map Token.content = fs.flatMap (fieldContents symbolAlone)) :
    LineForm .unknown tokens := by
  obtain ⟨text, _, _, -, hend, rfl⟩ := h.of_group_cons rfl
  cases hend.eq_nil rfl
  rw [List.flatMap_cons, List.flatMap_nil, List.append_nil] at hcontents
  by_cases hblank : trimChars text = []
  · have hnone : fieldContents symbolAlone (.text, text) = [] := by
      simp [fieldContents, fieldTokens, Field.tokenKind, hblank]
    cases List.map_eq_nil_iff.mp (hcontents.trans hnone)
    exact .nothing
  · rw [fieldContents_plain _ (by decide) hblank] at hcontents
    obtain ⟨tok, rest, rfl, hkind, -, hcontents⟩ := exists_cons_of_contents hcontents
    cases List.map_eq_nil_iff.mp hcontents
    exact .unknown hkind

end Forms

/-- **The tokens of a line have the form that its kind calls for.** -/
theorem lineForm_tokens {cs : List Char} {r : ReadLine} (h : readLine? cs = some r) (line : Int) :
    LineForm r.rule.kind (r.tokens line) := by
  obtain ⟨hmem, taken, hfits⟩ := fits_of_readLine? h
  have hcontents := r.contents_tokens line
  generalize r.tokens line = tokens at hcontents ⊢
  generalize r.fields = fs at hcontents hfits
  generalize r.rule = rule at hmem hfits hcontents ⊢
  simp only [LineRule.table, List.mem_cons, List.not_mem_nil, or_false] at hmem
  rcases hmem with rfl | rfl | rfl | rfl | rfl | rfl | rfl | rfl | rfl | rfl | rfl | rfl | rfl |
    rfl | rfl | rfl | rfl
  · exact lineForm_blank hfits hcontents
  · exact lineForm_comment hfits hcontents
  · exact lineForm_starComment hfits hcontents
  · exact lineForm_transaction hfits hcontents
  · exact lineForm_directive "account" hfits hcontents (by decide) (by decide)
  · exact lineForm_directive "commodity" hfits hcontents (by decide) (by decide)
  · exact lineForm_format hfits hcontents
  · exact lineForm_directive "D" hfits hcontents (by decide) (by decide)
  · exact lineForm_directive "decimal-mark" hfits hcontents (by decide) (by decide)
  · exact lineForm_directive "include" hfits hcontents (by decide) (by decide)
  · exact lineForm_directive "P" hfits hcontents (by decide) (by decide)
  · exact lineForm_directive "payee" hfits hcontents (by decide) (by decide)
  · exact lineForm_directive "tag" hfits hcontents (by decide) (by decide)
  · exact lineForm_directive "alias" hfits hcontents (by decide) (by decide)
  · exact lineForm_year hfits hcontents
  · exact lineForm_posting hfits hcontents
  · exact lineForm_unknown hfits hcontents

/-! ## Statuses and amounts -/

/-- The only groups for a status are those for one status marker. -/
theorem status_of_mem_groups {rule : LineRule} (hrule : rule ∈ LineRule.table)
    {q : Pattern Field} (h : (Field.status, q) ∈ rule.pattern.groups) : q = .one isStatus := by
  have hgroups : rule.pattern.groups.filter (·.1 = .status) = [] ∨
      rule.pattern.groups.filter (·.1 = .status) = [(.status, .one isStatus)] := by
    simp only [LineRule.table, List.mem_cons, List.not_mem_nil, or_false] at hrule
    rcases hrule with rfl | rfl | rfl | rfl | rfl | rfl | rfl | rfl | rfl | rfl | rfl | rfl | rfl |
      rfl | rfl | rfl | rfl <;> first | exact .inl rfl | exact .inr rfl
  have hmem : (Field.status, q) ∈ rule.pattern.groups.filter (·.1 = .status) :=
    List.mem_filter.mpr ⟨h, by simp⟩
  rcases hgroups with hnone | hone
  · rw [hnone] at hmem
    cases hmem
  · rw [hone] at hmem
    cases List.mem_singleton.mp hmem
    rfl

/-- A token of an amount is its quantity, a symbol, or text that is not understood. -/
theorem mem_amountTokens {symbolAlone : Bool} {cs : List Char} {line : Int} {column : Nat}
    {tok : Token} (h : tok ∈ amountTokens symbolAlone cs line column) :
    (∃ a, Amount.ofChars? cs = some a ∧ tok.kind = .amount ∧ tok.text = a.quantity) ∨
      tok.kind = .commodity ∨ tok.kind = .text := by
  unfold amountTokens amountPieces at h
  split at h
  · cases h
  · split at h
    · rename_i a ha
      dsimp only at h
      split at h
      · cases List.mem_singleton.mp h
        exact .inl ⟨a, ha, rfl, rfl⟩
      · split at h
        · rcases List.mem_pair.mp h with rfl | rfl
          · exact .inl ⟨a, ha, rfl, rfl⟩
          · exact .inr (.inl rfl)
        · rcases List.mem_pair.mp h with rfl | rfl
          · exact .inr (.inl rfl)
          · exact .inl ⟨a, ha, rfl, rfl⟩
    · cases List.mem_singleton.mp h
      rw [trimmedToken]
      dsimp only
      split
      · exact .inr (.inl rfl)
      · exact .inr (.inr rfl)

/-- The kinds of the tokens of a comment or a note. -/
theorem mem_taggedTokens {kind : TokenKind} {cs : List Char} {line : Int} {column : Nat}
    {tok : Token} (h : tok ∈ taggedTokens kind cs line column) :
    tok.kind = kind ∨ tok.kind = .tagKey ∨ tok.kind = .tagValue := by
  rw [taggedTokens, List.mem_cons, List.mem_flatMap] at h
  rcases h with rfl | ⟨m, -, h⟩
  · exact .inl rfl
  · rcases List.mem_pair.mp h with rfl | rfl
    · exact .inr (.inl rfl)
    · exact .inr (.inr rfl)

/-- Where the status tokens and the amount tokens of a field come from. -/
theorem mem_fieldTokens {symbolAlone : Bool} {line : Int} {field : Field} {cs : List Char}
    {column : Nat} {tok : Token} (h : tok ∈ fieldTokens symbolAlone line field cs column) :
    (tok.kind = .status → field = .status ∧ tok.text = String.ofList (trimChars cs)) ∧
      (tok.kind = .amount → ∃ a, Amount.ofChars? cs = some a ∧ tok.text = a.quantity) := by
  unfold fieldTokens at h
  split at h
  · split at h
    · cases h
    · cases List.mem_singleton.mp h
      exact ⟨nofun, nofun⟩
  · rcases mem_taggedTokens h with hkind | hkind | hkind <;>
    · rw [hkind]
      exact ⟨nofun, nofun⟩
  · split at h
    · cases h
    · rcases mem_taggedTokens h with hkind | hkind | hkind <;>
      · rw [hkind]
        exact ⟨nofun, nofun⟩
  · rcases mem_amountTokens h with ⟨a, ha, hkind, htext⟩ | hkind | hkind
    · rw [hkind]
      exact ⟨nofun, fun _ => ⟨a, ha, htext⟩⟩
    · rw [hkind]
      exact ⟨nofun, nofun⟩
    · rw [hkind]
      exact ⟨nofun, nofun⟩
  · rename_i hamount
    split at h
    · cases h
    · cases List.mem_singleton.mp h
      refine ⟨fun hkind => ⟨?_, rfl⟩, fun hkind => absurd hkind hamount⟩
      cases field <;> first | rfl | cases hkind

/-- A token of a kind that neither comments nor amounts have is the whole of its field. -/
theorem plain_of_mem_fieldTokens {symbolAlone : Bool} {line : Int} {field : Field}
    {cs : List Char} {column : Nat} {tok : Token}
    (h : tok ∈ fieldTokens symbolAlone line field cs column)
    (hkind : tok.kind ∉ [TokenKind.indent, .comment, .note, .tagKey, .tagValue, .amount, .commodity,
      .text]) :
    field.tokenKind = tok.kind ∧ tok.text = String.ofList (trimChars cs) := by
  unfold fieldTokens at h
  split at h
  · split at h
    · cases h
    · cases List.mem_singleton.mp h
      exact absurd List.mem_cons_self hkind
  · rcases mem_taggedTokens h with hother | hother | hother <;>
      exact absurd (by rw [hother]; decide) hkind
  · split at h
    · cases h
    · rcases mem_taggedTokens h with hother | hother | hother <;>
        exact absurd (by rw [hother]; decide) hkind
  · rcases mem_amountTokens h with ⟨_, _, hother, _⟩ | hother | hother <;>
      exact absurd (by rw [hother]; decide) hkind
  · split at h
    · cases h
    · cases List.mem_singleton.mp h
      exact ⟨rfl, rfl⟩

/-- Only the field of a payee has payee tokens. -/
theorem payee_of_mem_fieldTokens {symbolAlone : Bool} {line : Int} {field : Field}
    {cs : List Char} {column : Nat} {tok : Token}
    (h : tok ∈ fieldTokens symbolAlone line field cs column) (hkind : tok.kind = .payee) :
    field = .payee := by
  obtain ⟨hfield, -⟩ := plain_of_mem_fieldTokens h (by rw [hkind]; decide)
  rw [hkind] at hfield
  cases field <;> first | rfl | cases hfield

/-- Only the field of a directive has directive tokens. -/
theorem directive_of_mem_fieldTokens {symbolAlone : Bool} {line : Int} {field : Field}
    {cs : List Char} {column : Nat} {tok : Token}
    (h : tok ∈ fieldTokens symbolAlone line field cs column) (hkind : tok.kind = .directive) :
    field = .directive ∧ tok.text = String.ofList (trimChars cs) := by
  obtain ⟨hfield, htext⟩ := plain_of_mem_fieldTokens h (by rw [hkind]; decide)
  refine ⟨?_, htext⟩
  rw [hkind] at hfield
  cases field <;> first | rfl | cases hfield

/-- The tokens of a line are those of its fields. -/
theorem exists_field_of_mem_tokens {r : ReadLine} {line : Int} {tok : Token}
    (h : tok ∈ r.tokens line) :
    ∃ field cs column, (field, cs) ∈ r.fields ∧
      tok ∈ fieldTokens r.rule.symbolAlone line field cs column := by
  obtain ⟨s, hs, htok⟩ := List.mem_flatMap.mp h
  exact ⟨s.label, _, s.start, List.mem_map_of_mem hs, htok⟩

/-- A status token of a line is a status marker. -/
theorem status_of_mem_tokens {cs : List Char} {r : ReadLine} (hr : readLine? cs = some r)
    {line : Int} {tok : Token} (h : tok ∈ r.tokens line) (hkind : tok.kind = .status) :
    tok.text = "*" ∨ tok.text = "!" := by
  obtain ⟨field, text, column, hfield, htok⟩ := exists_field_of_mem_tokens h
  obtain ⟨rfl, htext⟩ := (mem_fieldTokens htok).1 hkind
  obtain ⟨hrule, taken, hfits⟩ := fits_of_readLine? hr
  obtain ⟨q, inner, hgroup, hq⟩ := hfits.exists_group hfield
  cases status_of_mem_groups hrule hgroup
  obtain ⟨x, hx, rfl, -⟩ : ∃ x, isStatus x = true ∧ text = [x] ∧ inner = [] := hq
  rw [htext, trimChars_status hx]
  rcases isStatus_iff.mp hx with rfl | rfl
  · exact .inl rfl
  · exact .inr rfl

/-- An amount token of a line is the quantity of an amount. -/
theorem amount_of_mem_tokens {r : ReadLine} {line : Int} {tok : Token} (h : tok ∈ r.tokens line)
    (hkind : tok.kind = .amount) :
    ∃ cs a, Amount.ofChars? cs = some a ∧ tok.text = a.quantity := by
  obtain ⟨field, cs, column, -, htok⟩ := exists_field_of_mem_tokens h
  obtain ⟨a, ha, htext⟩ := (mem_fieldTokens htok).2 hkind
  exact ⟨cs, a, ha, htext⟩

end Journal

end Daybook
