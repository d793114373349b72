import Daybook.Proofs.Amount.Rendered
import Daybook.Proofs.Builder.PostingParts
import Daybook.Proofs.Journal.WrittenPosting
import Daybook.Template.Rendered

/-!
# Templates that are read back

A template writes the postings of a transaction anew: the account behind an indent, and behind two
spaces the amount in the format of its commodity.  Where such a line is put into a journal, it should
say what the posting said that the template was taken from.

The account ends where it should because it is a row of words and two spaces follow.  The amount holds
no sign of an operator or a comment, because its symbol comes from the amount of the posting and the
rest of it is a number.  And no other rule takes the line, because none took the posting.  What can go
wrong is that the account is a lone status marker: behind `*` or `!` two spaces and an amount are an
account, too.

* `Origin`, `exists_origin`: what is known of a posting that was read.
* `writtenAmount`, `toList_rendered`: the line of a posting, piece by piece.
* `readsBack_of_unmarked`, `status_of_marked`: the two ways in which the line can be read.
* `rendered_reads_back`: one of them, for every posting and every format;
  `lone_marker_not_read_back`.
-/

namespace Daybook.Template

open Text Journal Amount

section Reading

variable {b : Builder} {p : Posting} {line account behind : List Char}

/-! ## The posting that was read -/

/-- What is known of a posting that was read from a line without a status marker. -/
structure Origin (b : Builder) (p : Posting) (line account behind : List Char) : Prop where
  noBreak : '\n' ∉ line
  isPosting : ∃ r, readLine? line = some r ∧ r.rule.kind = .posting
  reads : ∃ indent more, ReadsPosting line indent account behind more
  account_eq : p.account = String.ofList (trimChars account)
  clean : Builder.cleanAccount? p.account = some p.account
  no_amount : p.amount = none → p.commodity = none
  amount : ∀ q ∈ p.amount, behind.head?.any isGap = true ∧
    (∃ sign number, q = String.ofList (sign ++ number) ∧ IsSignText sign ∧ IsNumber number) ∧
    ∃ v, readQuantity (b.decimalMarkFor p.commodity) (some q) = .ok v
  symbol : ∀ c ∈ p.commodity, ∀ x ∈ c.toList, x ∈ behind ∧ x ≠ '@' ∧ x ≠ '=' ∧ x ≠ ';'
  writable : ∀ c ∈ p.commodity, c ≠ "" ∧ symbolOf? (quoteSymbol c) = some c

/-- **Where a posting comes from.** -/
theorem exists_origin {r : ReadLine} {n : Int} {indent : Token} {body : List Token}
    (hbreak : '\n' ∉ line) (hr : readLine? line = some r) (hkind : r.rule.kind = .posting)
    (htokens : r.tokens n = indent :: body) (hstatus : ∀ tok ∈ body, tok.kind ≠ .status)
    (haccount : ∀ tok ∈ body, tok.kind = .account →
      Builder.cleanAccount? tok.text = some tok.text)
    (hread : b.readPosting body = .ok (some p))
    (hsymbol : ∀ c ∈ p.commodity, c ≠ "" ∧ symbolOf? (quoteSymbol c) = some c) :
    ∃ account behind, Origin b p line account behind := by
  obtain ⟨hrule, hmatch⟩ := match?_of_readLineFrom hr
  have hposting : r.rule = .posting := posting_of_kind hrule hkind
  have hfields : ∀ f ∈ r.found.fields, f.1 ≠ .status := by
    rintro ⟨_, marker⟩ hf rfl
    obtain ⟨tok, htok, hmarker, -⟩ := exists_status_token hr hf n
    obtain ⟨_, _, heq, hindent⟩ := exists_indent_token hr hkind n
    cases htokens.symm.trans heq
    rw [htokens] at htok
    rcases List.mem_cons.mp htok with rfl | htok
    · cases hindent.symm.trans hmarker
    · exact hstatus tok htok hmarker
  obtain ⟨gaps, account, behind, more, hreads, hsplit⟩ :=
    readsPosting_of_match? hbreak (hposting ▸ hmatch) hfields
  -- the tokens behind the indent are the account and what follows it
  obtain ⟨name, hname, htrim, -⟩ := hreads.isAccount.exists_name
  obtain ⟨_, tok, rest, heq, -, htok, htext, hcontents⟩ := exists_account_token hposting hsplit
    hreads.indent_ne_nil (htrim ▸ hname.ne_nil) n
  cases htokens.symm.trans heq
  have hclean := haccount tok List.mem_cons_self htok
  obtain ⟨-, account', parts, hname', hparts, rfl, hquantity⟩ :=
    (Builder.readPosting_eq_some_iff (hstatus tok List.mem_cons_self)).mp hread
  obtain rfl : tok.text = account' := Option.some.inj (hclean.symm.trans hname')
  refine ⟨account, behind, ?_⟩
  rcases Builder.exists_amount_of_readPostingParts hreads.fits hcontents hparts with
    ⟨hnone, hnone'⟩ | ⟨amount, a, ha, hgap, hplain, hamount, hcommodity⟩
  · exact
      { noBreak := hbreak
        isPosting := ⟨r, hr, hkind⟩
        reads := ⟨gaps, more, hreads⟩
        account_eq := htext
        clean := hclean
        no_amount := fun _ => hnone'
        amount := fun q hq => by cases hnone.symm.trans hq
        symbol := fun c hc => by cases hnone'.symm.trans hc
        writable := hsymbol }
  · refine
      { noBreak := hbreak
        isPosting := ⟨r, hr, hkind⟩
        reads := ⟨gaps, more, hreads⟩
        account_eq := htext
        clean := hclean
        no_amount := fun hno => by cases hamount.symm.trans hno
        amount := fun q hq => ⟨hgap, ?_, hquantity q hq⟩
        symbol := fun c hc x hx =>
          hplain x (mem_of_commodity ha (hcommodity.symm.trans hc) hx)
        writable := hsymbol }
    obtain rfl : a.quantity = q := Option.some.inj (hamount.symm.trans hq)
    obtain ⟨sign, number, hq, hsign, hnumber, -⟩ := exists_pieces_of_ofChars? ha
    exact ⟨sign, number, hq, hsign, hnumber⟩

/-! ## The line that is written -/

variable {formatOf : String → Option CommodityFormat} {cs : List Char}

/-- What a template keeps of a posting. -/
def kept (p : Posting) : TemplatePosting :=
  ⟨p.account, p.amount, p.commodity⟩

/-- The amount of a posting as a template writes it. -/
def writtenAmount (formatOf : String → Option CommodityFormat) (p : Posting) :
    Option (List Char) :=
  p.amount.map fun quantity =>
    (renderAmount quantity p.commodity ((p.commodity.filter (!·.isEmpty)).bind formatOf)).toList

/-- The line of a posting is an indent, its account and its amount. -/
theorem toList_rendered (formatOf : String → Option CommodityFormat) (p : Posting) :
    ((kept p).rendered formatOf).toList =
      postingIndent.toList ++ (p.account.toList ++ behindAccount (writtenAmount formatOf p)) := by
  have hspaces : "  ".toList = [' ', ' '] := rfl
  rw [TemplatePosting.rendered, kept, writtenAmount]
  cases p.amount with
  | none => simp [behindAccount]
  | some quantity => simp [behindAccount, hspaces]

theorem isGap_postingIndent : ∀ x ∈ postingIndent.toList, isGap x = true := by
  intro x hx
  have hx : x ∈ List.replicate 4 ' ' := hx
  rw [List.eq_of_mem_replicate hx]
  rfl

/-- A character that is not part of a quantity is not written, if it is not part of the symbol. -/
theorem Origin.not_mem_written (h : Origin b p line account behind)
    (hcs : cs ∈ writtenAmount formatOf p) {x : Char} (hsign : isSign x = false)
    (hnumber : isNumberChar x = false) (hother : x ≠ ' ' ∧ x ≠ '"')
    (hx : ∀ c ∈ p.commodity, x ∉ c.toList) : x ∉ cs := by
  intro hmem
  obtain ⟨q, hq, rfl⟩ := Option.map_eq_some_iff.mp hcs
  obtain ⟨-, ⟨sign, number, hquantity, hsign', hnumber'⟩, -⟩ := h.amount q hq
  rcases mem_renderAmount hquantity hsign' hnumber' (fun c hc => (h.writable c hc).1) hmem with
    hmem | hmem | hmem | ⟨c, hc, hmem⟩
  · rw [hquantity, String.toList_ofList, List.mem_append] at hmem
    rcases hmem with hmem | hmem
    · rcases hsign' with rfl | ⟨c, hc, rfl⟩
      · cases hmem
      · rw [List.mem_singleton.mp hmem, hc] at hsign
        cases hsign
    · rw [hnumber'.isNumberChar x hmem] at hnumber
      cases hnumber
  · exact hother.1 hmem
  · exact hother.2 hmem
  · exact hx c hc hmem

/-- What is written for an amount has no sign of an operator or a comment. -/
theorem Origin.plain_written (h : Origin b p line account behind)
    (hcs : cs ∈ writtenAmount formatOf p) : ∀ x ∈ cs, x ≠ '@' ∧ x ≠ '=' ∧ x ≠ ';' := by
  have hno : ∀ {y : Char}, isSign y = false → isNumberChar y = false → y ≠ ' ' ∧ y ≠ '"' →
      (∀ c ∈ p.commodity, y ∉ c.toList) → ∀ x ∈ cs, x ≠ y := by
    rintro y hy hy' hother hc x hx rfl
    exact h.not_mem_written hcs hy hy' hother hc hx
  intro x hx
  exact ⟨hno (by decide) (by decide +kernel) (by decide)
      (fun c hc hmem => (h.symbol c hc _ hmem).2.1 rfl) x hx,
    hno (by decide) (by decide +kernel) (by decide)
      (fun c hc hmem => (h.symbol c hc _ hmem).2.2.1 rfl) x hx,
    hno (by decide) (by decide +kernel) (by decide)
      (fun c hc hmem => (h.symbol c hc _ hmem).2.2.2 rfl) x hx⟩

/-- What is written for an amount is an amount again. -/
theorem Origin.ofChars?_written (h : Origin b p line account behind)
    (hcs : cs ∈ writtenAmount formatOf p) :
    NoBlankEnds cs ∧ ∃ q ∈ p.amount, ∃ a, ofChars? cs = some a ∧ a.quantity = withoutPlus q ∧
      a.commodity = p.commodity := by
  obtain ⟨q, hq, rfl⟩ := Option.map_eq_some_iff.mp hcs
  obtain ⟨-, ⟨sign, number, hquantity, hsign, hnumber⟩, -⟩ := h.amount q hq
  obtain ⟨hends, a, ha, haq, hac⟩ := ofChars?_renderAmount hquantity hsign hnumber h.writable
    ((p.commodity.filter (!·.isEmpty)).bind formatOf)
  exact ⟨hends, q, hq, a, ha, haq, hac⟩

/-- The line holds no line break. -/
theorem Origin.noBreak_rendered (h : Origin b p line account behind) :
    '\n' ∉ ((kept p).rendered formatOf).toList := by
  obtain ⟨indent, more, hreads⟩ := h.reads
  obtain ⟨name, hname, htrim, -⟩ := hreads.isAccount.exists_name
  intro hmem
  rw [toList_rendered, h.account_eq, String.toList_ofList, htrim] at hmem
  rcases List.mem_append.mp hmem with hmem | hmem
  · exact absurd (isGap_postingIndent _ hmem) (by decide)
  rcases List.mem_append.mp hmem with hmem | hmem
  · rcases hname.mem hmem with hchar | hspace
    · exact absurd hchar (by decide)
    · exact absurd hspace (by decide)
  cases hwritten : writtenAmount formatOf p with
  | none =>
    rw [hwritten] at hmem
    cases hmem
  | some cs =>
    have hbehind : '\n' ∉ behind := fun hmem => h.noBreak (by
      rw [hreads.line_eq]
      simp [hmem])
    have hno : '\n' ∉ cs := h.not_mem_written hwritten (by decide) (by decide +kernel)
      (by decide) fun c hc hmem => hbehind (h.symbol c hc _ hmem).1
    rw [hwritten] at hmem
    simp [behindAccount, hno] at hmem

/-! ## How the line is read -/

/-- What the rule for postings finds in the line is the reading of it. -/
theorem Origin.readLine?_rendered (h : Origin b p line account behind) {found : Match Field}
    (hfound : LineRule.posting.pattern.match? ((kept p).rendered formatOf).toList = some found) :
    readLine? ((kept p).rendered formatOf).toList = some ⟨15, .posting, found⟩ := by
  obtain ⟨r, hr, hkind⟩ := h.isPosting
  obtain ⟨indent, more, hreads⟩ := h.reads
  have haccount : p.account.toList = trimChars account := by
    rw [h.account_eq, String.toList_ofList]
  have hbehind : (writtenAmount formatOf p).isSome → behind.head?.any isGap = true := by
    intro hsome
    rw [writtenAmount, Option.isSome_map] at hsome
    obtain ⟨q, hq⟩ := Option.isSome_iff_exists.mp hsome
    exact (h.amount q hq).1
  rw [toList_rendered, haccount] at hfound ⊢
  exact hreads.readLine?_again h.noBreak hr hkind (by decide) isGap_postingIndent hbehind hfound

/-- The token at the end of the line of a posting. -/
def lineEnd (formatOf : String → Option CommodityFormat) (p : Posting) (n : Int) : Token :=
  ⟨.newline, "\n", n, ((kept p).rendered formatOf).toList.length⟩

theorem lineTokens_rendered {r : ReadLine} {first : Token} {body : List Token} {n : Int}
    (hr : readLine? ((kept p).rendered formatOf).toList = some r)
    (htokens : r.tokens n = first :: body) :
    lineTokens ((kept p).rendered formatOf).toList n =
      .ok (first :: (body ++ [lineEnd formatOf p n])) := by
  rw [lineTokens, hr]
  dsimp only
  rw [htokens]
  rfl

/-- The parts of the posting come back from the tokens behind its account. -/
theorem Origin.readPostingParts_written (h : Origin b p line account behind) {rest : List Token}
    (hcontents : rest.map Token.content = ((writtenAmount formatOf p).toList.map
      ((Field.amount, ·))).flatMap (fieldContents false)) :
    Builder.readPostingParts ⟨none, none, false, [], []⟩ rest =
      some ⟨p.amount.map withoutPlus, p.commodity, false, [], []⟩ := by
  cases hwritten : writtenAmount formatOf p with
  | none =>
    have hnone : p.amount = none := Option.map_eq_none_iff.mp hwritten
    rw [hwritten] at hcontents
    rw [List.map_eq_nil_iff.mp hcontents, hnone, h.no_amount hnone]
    rfl
  | some cs =>
    obtain ⟨-, q, hq, a, ha, hquantity, hcommodity⟩ := h.ofChars?_written hwritten
    have hamount : rest.map Token.content = fieldContents false (.amount, cs) := by
      rw [hcontents, hwritten]
      exact List.append_nil _
    have hstart : (⟨none, none, false, [], []⟩ : Builder.PostingParts).afterOperator = false := rfl
    have hparts := Builder.readPostingParts_amount hstart ha hamount []
    rw [List.append_nil] at hparts
    rw [hparts, hquantity, hcommodity, Option.mem_def.mp hq]
    cases p.commodity <;> rfl

/-- The quantity is read as it is written. -/
theorem Origin.readQuantity_written (h : Origin b p line account behind) :
    ∀ q ∈ p.amount.map withoutPlus, ∃ v,
      readQuantity (b.decimalMarkFor p.commodity) (some q) = .ok v := by
  intro _ hwithout
  obtain ⟨q, hq, rfl⟩ := Option.map_eq_some_iff.mp hwithout
  obtain ⟨-, ⟨sign, number, hquantity, hsign, hnumber⟩, v, hv⟩ := h.amount q hq
  exact ⟨v, readQuantity_withoutPlus hquantity hsign hnumber hv⟩

/-- **A line whose account is not taken for a status marker is read back.** -/
theorem Origin.readsBack_of_unmarked (h : Origin b p line account behind)
    (hmarked : marked.leaves (p.account.toList ++ behindAccount (writtenAmount formatOf p)) = [])
    (n : Int) :
    ∃ first body, lineTokens ((kept p).rendered formatOf).toList n =
        .ok (first :: (body ++ [lineEnd formatOf p n])) ∧ first.kind = .indent ∧
      (∀ tok ∈ body, tok.kind ≠ .status) ∧ b.readPosting body =
        .ok (some ⟨p.account, p.amount.map withoutPlus, p.commodity, [], []⟩) := by
  obtain ⟨indent, more, hreads⟩ := h.reads
  obtain ⟨name, hname, htrim, -⟩ := hreads.isAccount.exists_name
  have haccount : p.account.toList = name := by
    rw [h.account_eq, String.toList_ofList, htrim]
  rw [haccount] at hmarked
  obtain ⟨found, hfound, hfields⟩ := exists_match?_written (by decide) isGap_postingIndent hname
    (fun cs hcs => (h.ofChars?_written hcs).1) (fun cs hcs => h.plain_written hcs) hmarked
  rw [← haccount, ← toList_rendered] at hfound
  have hline := h.readLine?_rendered hfound
  -- the tokens are the indent, the account and those of the amount
  have hown : trimChars name = name := hname.noBlankEnds.trimChars_eq
  obtain ⟨first, tok, rest, htokens, hfirst, htok, htext, hcontents⟩ :=
    exists_account_token (r := ⟨15, .posting, found⟩) rfl hfields (by decide)
      (by rw [hown]; exact hname.ne_nil) n
  have hstatus : ∀ t ∈ tok :: rest, t.kind ≠ .status := by
    have hno : ∀ f ∈ found.fields, f.1 ≠ .status := by
      rw [hfields]
      simp
    intro t ht
    exact no_status_token (r := ⟨15, .posting, found⟩) hno n t
      (htokens ▸ List.mem_cons_of_mem first ht)
  refine ⟨first, tok :: rest, lineTokens_rendered hline htokens, hfirst, hstatus, ?_⟩
  refine (Builder.readPosting_eq_some_iff (hstatus tok List.mem_cons_self)).mpr
    ⟨htok, p.account, _, ?_, h.readPostingParts_written hcontents, rfl, h.readQuantity_written⟩
  rw [htext, hown, ← haccount, String.ofList_toList]
  exact h.clean

/-- **An account that is taken for a status marker** is a lone one in front of an amount. -/
theorem Origin.status_of_marked (h : Origin b p line account behind)
    (hmarked : marked.leaves (p.account.toList ++ behindAccount (writtenAmount formatOf p)) ≠ [])
    (n : Int) :
    (p.account = "*" ∨ p.account = "!") ∧ p.amount.isSome ∧ ∃ first body,
      lineTokens ((kept p).rendered formatOf).toList n =
        .ok (first :: (body ++ [lineEnd formatOf p n])) ∧ first.kind = .indent ∧
      ∃ tok ∈ body, tok.kind = .status ∧ tok.text = p.account := by
  obtain ⟨indent, more, hreads⟩ := h.reads
  have haccount : p.account.toList = trimChars account := by
    rw [h.account_eq, String.toList_ofList]
  rw [haccount] at hmarked
  obtain ⟨⟨x, hx, hlone⟩, hsome⟩ := hreads.lone_of_marked hmarked
  have hname : p.account = String.ofList [x] := by rw [h.account_eq, hlone]
  have hamount : (writtenAmount formatOf p).isSome := by
    cases hwritten : writtenAmount formatOf p with
    | none =>
      rw [hwritten] at hsome
      exact absurd rfl hsome
    | some cs => rfl
  have hmatch : (LineRule.posting.pattern.match? ((kept p).rendered formatOf).toList).isSome := by
    rw [toList_rendered, haccount]
    exact isSome_match?_of_marked (by decide) isGap_postingIndent hmarked
  obtain ⟨found, hfound⟩ := Option.isSome_iff_exists.mp hmatch
  have hline := h.readLine?_rendered hfound
  have hfield : (Field.status, [x]) ∈ found.fields := by
    have hbreak : '\n' ∉ ((kept p).rendered formatOf).toList := h.noBreak_rendered
    rw [toList_rendered, haccount, hlone] at hfound hbreak
    rw [hlone] at hmarked
    exact status_mem_of_marked hx isGap_postingIndent hbreak hfound hmarked
  obtain ⟨first, body, htokens, hfirst⟩ := exists_indent_token hline rfl n
  obtain ⟨tok, htok, hstatus, htext⟩ := exists_status_token hline hfield n
  rw [htokens] at htok
  refine ⟨?_, ?_, first, body, lineTokens_rendered hline htokens, hfirst, tok, ?_, hstatus,
    htext.trans hname.symm⟩
  · rw [hname]
    rcases isStatus_iff.mp hx with rfl | rfl
    · exact .inl rfl
    · exact .inr rfl
  · rwa [writtenAmount, Option.isSome_map] at hamount
  · refine (List.mem_cons.mp htok).resolve_left ?_
    rintro rfl
    rw [hfirst] at hstatus
    cases hstatus

end Reading

/-! ## Reading back -/

/-- **The line that a template writes for a posting is read back.**  Take a posting that was read from
a line without a status marker, with an account that stands as it is and a symbol that can be written.
Whatever the format, the line of the posting is read as the same account with the same amount, less a
plus in front of the quantity.  The one exception is a marker that stands alone as an account in front
of an amount, where it is taken for the status of the line. -/
theorem rendered_reads_back {line : List Char} {r : ReadLine} {n : Int} {indent : Token}
    {body : List Token} {b : Builder} {p : Posting} (hbreak : '\n' ∉ line)
    (hr : readLine? line = some r) (hkind : r.rule.kind = .posting)
    (htokens : r.tokens n = indent :: body) (hstatus : ∀ tok ∈ body, tok.kind ≠ .status)
    (haccount : ∀ tok ∈ body, tok.kind = .account →
      Builder.cleanAccount? tok.text = some tok.text)
    (hread : b.readPosting body = .ok (some p))
    (hsymbol : ∀ c ∈ p.commodity, c ≠ "" ∧ symbolOf? (quoteSymbol c) = some c)
    (formatOf : String → Option CommodityFormat) (m : Int) :
    ∃ first rest, lineTokens ((kept p).rendered formatOf).toList m =
        .ok (first :: (rest ++ [lineEnd formatOf p m])) ∧ first.kind = .indent ∧
      (((∀ tok ∈ rest, tok.kind ≠ .status) ∧ b.readPosting rest =
          .ok (some ⟨p.account, p.amount.map withoutPlus, p.commodity, [], []⟩)) ∨
        ((p.account = "*" ∨ p.account = "!") ∧ p.amount.isSome ∧
          ∃ tok ∈ rest, tok.kind = .status ∧ tok.text = p.account)) := by
  obtain ⟨account, behind, h⟩ :=
    exists_origin hbreak hr hkind htokens hstatus haccount hread hsymbol
  by_cases hmarked :
      marked.leaves (p.account.toList ++ behindAccount (writtenAmount formatOf p)) = []
  · obtain ⟨first, rest, hline, hfirst, hnone, hback⟩ := h.readsBack_of_unmarked hmarked m
    exact ⟨first, rest, hline, hfirst, .inl ⟨hnone, hback⟩⟩
  · obtain ⟨hlone, hamount, first, rest, hline, hfirst, hmarker⟩ := h.status_of_marked hmarked m
    exact ⟨first, rest, hline, hfirst, .inr ⟨hlone, hamount, hmarker⟩⟩

/-- A builder before any line. -/
def freshBuilder : Builder :=
  Builder.start ⟨.dayFirst, none, none, ⟨2024, 1, 5, by decide⟩⟩

/-- A plus is lost, and so is the tag of the posting. -/
theorem rendered_reads_back_of_plus :
    ∃ first rest,
      lineTokens ((kept ⟨"a:b", some "+5", some "$", [("k", "v")], []⟩).rendered fun _ => none).toList
        7 = .ok (first :: (rest ++
          [lineEnd (fun _ => none) ⟨"a:b", some "+5", some "$", [("k", "v")], []⟩ 7])) ∧
      first.kind = .indent ∧
      (((∀ tok ∈ rest, tok.kind ≠ .status) ∧ freshBuilder.readPosting rest =
          .ok (some ⟨"a:b", some "5", some "$", [], []⟩)) ∨
        (("a:b" = "*" ∨ "a:b" = "!") ∧ (some "+5").isSome ∧
          ∃ tok ∈ rest, tok.kind = .status ∧ tok.text = "a:b")) := by
  have hline : (readLine? "  a:b  $+5  ; k:v".toList).map (fun r => (r.rule.kind, r.tokens 0)) =
      some (.posting, [⟨.indent, "  ", 0, 0⟩, ⟨.account, "a:b", 0, 2⟩, ⟨.commodity, "$", 0, 7⟩,
        ⟨.amount, "+5", 0, 8⟩, ⟨.comment, "k:v", 0, 14⟩, ⟨.tagKey, "k", 0, 14⟩,
        ⟨.tagValue, "v", 0, 16⟩]) := by decide +kernel
  obtain ⟨r, hr, hread⟩ := Option.map_eq_some_iff.mp hline
  obtain ⟨hkind, htokens⟩ := Prod.mk.inj hread
  exact rendered_reads_back (by decide) hr hkind htokens (by decide) (by decide +kernel)
    (by decide +kernel) (by decide +kernel) _ 7

/-- **A marker that stands alone as an account is not read back.**  At the end of the first line stands
a blank that is no gap, so that behind the marker there is no account; behind the marker that is
written there is one. -/
theorem lone_marker_not_read_back :
    (readLine? " *  5\u00a0".toList).map (fun r => (r.rule.kind, r.tokens 0)) =
        some (.posting, [⟨.indent, " ", 0, 0⟩, ⟨.account, "*", 0, 1⟩, ⟨.amount, "5", 0, 4⟩]) ∧
      Builder.cleanAccount? "*" = some "*" ∧
      freshBuilder.readPosting [⟨.account, "*", 0, 1⟩, ⟨.amount, "5", 0, 4⟩] =
        .ok (some ⟨"*", some "5", none, [], []⟩) ∧
      ((kept ⟨"*", some "5", none, [], []⟩).rendered fun _ => none) = "    *  5" ∧
      lineTokens "    *  5".toList 0 = .ok [⟨.indent, "    ", 0, 0⟩, ⟨.status, "*", 0, 4⟩,
        ⟨.account, "5", 0, 7⟩, ⟨.newline, "\n", 0, 8⟩] ∧
      freshBuilder.readPosting [⟨.status, "*", 0, 4⟩, ⟨.account, "5", 0, 7⟩] =
        .ok (some ⟨"5", none, none, [], []⟩) := by
  decide +kernel

end Daybook.Template
