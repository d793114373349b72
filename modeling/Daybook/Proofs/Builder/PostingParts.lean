import Daybook.Proofs.Amount.Split
import Daybook.Proofs.Journal.Posting

/-!
# The parts of a posting

A builder reads the tokens behind an account one by one.  The amount comes first and gives the
quantity and the symbol; what an operator or a comment starts changes neither.

* `readPosting_eq_some_iff`: when the tokens of a line are a posting, and which.
* `readPostingParts_amount`: what the tokens of an amount do.
* `readPostingParts_keeps`, `readPostingParts_afterAmount`: operators and comments keep amount and
  symbol.
* `exists_amount_of_readPostingParts`: what is taken from the fields behind an account.
* `exists_readPostingParts`, `readPosting_amount`: where all is understood, a posting is read if its
  quantity is.
-/

namespace Daybook.Builder

open Text Journal Amount

section Parts

variable {tokens more : List Token} {parts parts' : PostingParts} {cs : List Char} {a : Amount}

/-! ## The tokens of an amount -/

/-- What the tokens of an amount say. -/
theorem fieldContents_amount (symbolAlone : Bool) (h : ofChars? cs = some a) :
    fieldContents symbolAlone (.amount, cs) =
      match a.commoditySpan with
      | none => [(.amount, a.quantity)]
      | some (start, stop) =>
        if a.start ≤ start then
          [(.amount, a.quantity), (.commodity, String.ofList (Match.slice cs start stop))]
        else [(.commodity, String.ofList (Match.slice cs start stop)), (.amount, a.quantity)] := by
  have hsome : ¬(trimChars cs).isEmpty := by
    intro hempty
    rw [ofChars?, List.isEmpty_iff.mp hempty] at h
    cases h
  simp only [fieldContents, fieldTokens, Field.tokenKind, amountTokens, if_neg hsome, h]
  unfold amountPieces
  cases a.commoditySpan with
  | none => rfl
  | some span =>
    dsimp only
    split <;> rfl

/-- **The tokens of an amount** give the quantity and, if there is one, the symbol. -/
theorem readPostingParts_amount (hparts : parts.afterOperator = false) (h : ofChars? cs = some a)
    (htokens : tokens.map Token.content = fieldContents false (.amount, cs)) (more : List Token) :
    readPostingParts parts (tokens ++ more) =
      readPostingParts { parts with
        amount := some a.quantity
        commodity := a.commodity <|> parts.commodity } more := by
  rw [fieldContents_amount false h] at htokens
  obtain ⟨-, -, -, -, -, -, ⟨hcommodity, hspan⟩ | ⟨start, stop, hspan, hcommodity, -⟩⟩ :=
    exists_pieces_of_ofChars? h
  · rw [hspan] at htokens
    obtain ⟨tok, rest, rfl, hkind, htext, hrest⟩ := exists_cons_of_contents htokens
    cases List.map_eq_nil_iff.mp hrest
    simp [readPostingParts, hkind, htext, hparts, hcommodity]
  · have hsymbol : unquoteSymbol (String.ofList (Match.slice cs start stop)) =
        String.ofList (unquoteChars (Match.slice cs start stop)) := by
      rw [unquoteSymbol, String.toList_ofList]
    rw [hspan] at htokens
    dsimp only at htokens
    split at htokens
    all_goals
      obtain ⟨first, rest, rfl, hfirst, hfirstText, hrest⟩ := exists_cons_of_contents htokens
      obtain ⟨second, rest', rfl, hsecond, hsecondText, hrest'⟩ := exists_cons_of_contents hrest
      cases List.map_eq_nil_iff.mp hrest'
      simp [readPostingParts, hfirst, hfirstText, hsecond, hsecondText, hparts, hcommodity,
        hsymbol]

/-! ## Operators and comments -/

/-- Behind an operator, neither the quantity nor the symbol changes. -/
theorem readPostingParts_afterOperator (hparts : parts.afterOperator = true)
    (h : readPostingParts parts tokens = some parts') :
    parts'.amount = parts.amount ∧ parts'.commodity = parts.commodity := by
  induction tokens generalizing parts with
  | nil =>
    cases h
    exact ⟨rfl, rfl⟩
  | cons tok rest ih =>
    unfold readPostingParts at h
    split at h
    · cases h
    · cases h
      exact ⟨rfl, rfl⟩
    · exact @ih ⟨_, _, true, _, _⟩ rfl h
    · rw [if_pos hparts] at h
      exact ih hparts h
    · simp only [hparts, Bool.not_true, Bool.false_eq_true, if_false] at h
      split at h
      · exact ih hparts h
      · exact @ih ⟨_, _, true, _, _⟩ rfl h
    · exact ih hparts h

/-- **Operators and comments** change neither the quantity nor the symbol. -/
theorem readPostingParts_keeps
    (htokens : tokens = [] ∨ ∃ tok rest, tokens = tok :: rest ∧
      (tok.kind = .operator ∨ tok.kind = .comment))
    (h : readPostingParts parts tokens = some parts') :
    parts'.amount = parts.amount ∧ parts'.commodity = parts.commodity := by
  rcases htokens with rfl | ⟨tok, rest, rfl, hkind | hkind⟩
  · cases h
    exact ⟨rfl, rfl⟩
  · rw [readPostingParts, hkind] at h
    exact @readPostingParts_afterOperator _ ⟨_, _, true, _, _⟩ _ rfl h
  · rw [readPostingParts, hkind] at h
    cases h
    exact ⟨rfl, rfl⟩

/-- What stands behind the amount changes neither the quantity nor the symbol. -/
theorem readPostingParts_afterAmount {fs : List (Field × List Char)} (hfits : afterAmount.Fits cs fs)
    (htokens : tokens.map Token.content = fs.flatMap (fieldContents false))
    (h : readPostingParts parts tokens = some parts') :
    parts'.amount = parts.amount ∧ parts'.commodity = parts.commodity := by
  refine readPostingParts_keeps ?_ h
  rcases contents_of_fits_afterAmount hfits with hnil | ⟨c, rest, hcons, hkind⟩
  · rw [hnil] at htokens
    exact .inl (List.map_eq_nil_iff.mp htokens)
  · rw [hcons] at htokens
    obtain ⟨tok, others, rfl, htok, -, -⟩ := exists_cons_of_contents htokens
    exact .inr ⟨tok, others, rfl, by rwa [htok]⟩

/-- **What a builder takes from the fields behind an account**: the quantity and the symbol of the
amount in front of any operator, if there is one. -/
theorem exists_amount_of_readPostingParts {behind : List Char} {fields : List (Field × List Char)}
    (hfits : afterAccount.Fits behind fields)
    (htokens : tokens.map Token.content = fields.flatMap (fieldContents false))
    (h : readPostingParts ⟨none, none, false, [], []⟩ tokens = some parts) :
    (parts.amount = none ∧ parts.commodity = none) ∨
      ∃ amount a, ofChars? amount = some a ∧ behind.head?.any isGap = true ∧
        (∀ x ∈ amount, x ∈ behind ∧ x ≠ '@' ∧ x ≠ '=' ∧ x ≠ ';') ∧
        parts.amount = some a.quantity ∧ parts.commodity = a.commodity := by
  rcases amount_of_fits_afterAccount hfits with
    ⟨amount, rest, others, rfl, hgap, hplain, hothers⟩ | hfits
  · rw [List.flatMap_cons, List.map_eq_append_iff] at htokens
    obtain ⟨front, back, rfl, hfront, hback⟩ := htokens
    cases hamount : ofChars? amount with
    | some a =>
      rw [readPostingParts_amount rfl hamount hfront] at h
      obtain ⟨hquantity, hsymbol⟩ := readPostingParts_afterAmount hothers hback h
      refine .inr ⟨amount, a, hamount, hgap, hplain, hquantity, ?_⟩
      rw [hsymbol]
      cases a.commodity <;> rfl
    | none =>
      by_cases hblank : (trimChars amount).isEmpty
      · have hnone : fieldContents false (.amount, amount) = [] := by
          simp [fieldContents, fieldTokens, Field.tokenKind, amountTokens, hblank]
        rw [hnone, List.map_eq_nil_iff] at hfront
        rw [hfront, List.nil_append] at h
        exact .inl (readPostingParts_afterAmount hothers hback h)
      · -- an amount that cannot be taken apart makes the posting unreadable
        have htext : fieldContents false (.amount, amount) =
            [(.text, String.ofList (trimChars amount))] := by
          simp [fieldContents, fieldTokens, Field.tokenKind, amountTokens, hblank, hamount,
            trimmedToken, Token.content]
        rw [htext] at hfront
        obtain ⟨tok, others, rfl, htok, -, -⟩ := exists_cons_of_contents hfront
        rw [List.cons_append, readPostingParts, htok] at h
        cases h
  · exact .inl (readPostingParts_afterAmount hfits htokens h)

/-- Where everything was understood, the parts of a posting are read. -/
theorem exists_readPostingParts (h : ∀ tok ∈ tokens, tok.kind ≠ .text)
    (parts : PostingParts) : ∃ parts', readPostingParts parts tokens = some parts' := by
  induction tokens generalizing parts with
  | nil => exact ⟨parts, rfl⟩
  | cons tok rest ih =>
    have hrest := ih fun t ht => h t (List.mem_cons_of_mem _ ht)
    unfold readPostingParts
    split
    · rename_i hkind
      exact absurd hkind (h tok List.mem_cons_self)
    · exact ⟨_, rfl⟩
    · exact hrest _
    · split
      · exact hrest _
      · exact hrest _
    · dsimp only
      split
      · exact hrest _
      · split
        · exact hrest _
        · exact hrest _
    · exact hrest _

end Parts

/-! ## Postings -/

/-- **When the tokens of a line are a posting**, and which.  A status marker has been taken off. -/
theorem readPosting_eq_some_iff {b : Builder} {tok : Token} {rest : List Token} {p : Posting}
    (hstatus : tok.kind ≠ .status) :
    b.readPosting (tok :: rest) = .ok (some p) ↔
      tok.kind = .account ∧ ∃ account parts, cleanAccount? tok.text = some account ∧
        readPostingParts ⟨none, none, false, [], []⟩ rest = some parts ∧
        p = ⟨account, parts.amount, parts.commodity, parts.tags, parts.side⟩ ∧
        ∀ q ∈ parts.amount, ∃ v,
          readQuantity (b.decimalMarkFor parts.commodity) (some q) = .ok v := by
  have hany : ¬(tok :: rest).head?.any (fun t => t.kind = .status) = true := by
    simpa using hstatus
  rw [readPosting, if_neg hany]
  by_cases haccount : tok.kind = .account
  · cases hname : cleanAccount? tok.text with
    | none => simp [haccount, hname]
    | some account =>
      cases hparts : readPostingParts ⟨none, none, false, [], []⟩ rest with
      | none => simp [haccount, hname, hparts]
      | some parts =>
        cases hamount : parts.amount with
        | none => simp [haccount, hname, hparts, hamount, eq_comm]
        | some amount =>
          cases hquantity : readQuantity (b.decimalMarkFor parts.commodity) (some amount) with
          | ok v => simp [haccount, hname, hparts, hamount, hquantity, eq_comm]
          | error e => cases e <;> simp [haccount, hname, hparts, hamount, hquantity]
  · simp [haccount]

/-- A marker in front of an account is passed over. -/
theorem readPosting_marker {b : Builder} {status tok : Token} (hstatus : status.kind = .status)
    (htok : tok.kind = .account) (rest : List Token) :
    b.readPosting (status :: tok :: rest) = b.readPosting (tok :: rest) := by
  simp [readPosting, hstatus, htok]

/-- A posting with an amount is read if its quantity is. -/
theorem readPosting_amount {tok : Token} {rest : List Token} {account quantity : String}
    {parts : PostingParts} (htok : tok.kind = .account)
    (haccount : cleanAccount? tok.text = some account)
    (hparts : readPostingParts ⟨none, none, false, [], []⟩ rest = some parts)
    (hamount : parts.amount = some quantity) (b : Builder) :
    b.readPosting (tok :: rest) =
      match readQuantity (b.decimalMarkFor parts.commodity) (some quantity) with
      | .ok _ => .ok (some ⟨account, some quantity, parts.commodity, parts.tags, parts.side⟩)
      | .error .overflow => .error .quantityOverflow
      | .error _ => .ok none := by
  cases hread : readQuantity (b.decimalMarkFor parts.commodity) (some quantity) with
  | ok v => simp [readPosting, htok, haccount, hparts, hamount, hread]
  | error e => cases e <;> simp [readPosting, htok, haccount, hparts, hamount, hread]

end Daybook.Builder
