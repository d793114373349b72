import Daybook.Proofs.Journal.LineParts

/-!
# Posting lines that are put together

A posting is put together from an indent, perhaps a status, an account, an amount, perhaps its cost,
perhaps an asserted balance and perhaps a comment.  The line is taken apart at exactly these places:
no rule in front of the rule for postings takes it, the account ends where the gap in front of the
amount starts, and each amount ends where the next sign starts, because nothing that stands inside an
amount can be read as a sign.

* `OperatorKind`, `OperatorText`: the signs of costs and of asserted balances, with their amounts.
* `StatusText`, `IsUnmistakable`: the status, and what an account must not look like without one.
* `PostingLine`: a posting that is put together, with its characters and its tokens.
* `lineTokens_postingLine`: these are the tokens of the line.
-/

namespace Daybook.Journal

open Text Amount Pattern

/-! ## Operators -/

/-- Whether a sign that is made of the characters of operators ends in front of a text. -/
def EndsSign (rest : List Char) : Prop :=
  ∀ x ∈ rest.head?, x ≠ '@' ∧ x ≠ '=' ∧ x ≠ '*'

/-- A kind of operator: the fields that its sign and its amount are recorded as, the pattern of its
sign with the character that it starts with, the characters of its amount and the signs themselves. -/
structure OperatorKind where
  label : Field
  amountLabel : Field
  first : Char
  more : Pattern Field
  inside : Char → Bool
  signs : List (List Char)
  tokenKind_label : label.tokenKind = .operator
  tokenKind_amountLabel : amountLabel.tokenKind = .amount
  isGap_first : isGap first = false
  inside_of_plain : ∀ x, x ≠ '@' → x ≠ '=' → x ≠ ';' → inside x = true
  head_signs : ∀ sign ∈ signs, sign.head? = some first
  solid_signs : ∀ x ∈ signs.flatten, isBlank x = false
  takesText_signs : ∀ sign ∈ signs, ∀ rest, EndsSign rest →
    (Pattern.seq (.one (· == first)) more).TakesText sign rest

theorem takesText_opt_one {x : Char} {rest : List Char} :
    (Pattern.opt (.one (· == x)) : Pattern Field).TakesText [x] rest :=
  takesText_either_left (takesText_one (beq_self_eq_true x))

theorem takesText_opt_one_none {x : Char} {rest : List Char} (h : ∀ y ∈ rest.head?, y ≠ x) :
    (Pattern.opt (.one (· == x)) : Pattern Field).TakesText [] rest := by
  refine takesText_opt_none ?_
  cases rest with
  | nil => rfl
  | cons y ys => exact if_neg (by simpa using h y rfl)

/-- The signs of costs. -/
def costKind : OperatorKind where
  label := .operator
  amountLabel := .costAmount
  first := '@'
  more := .opt (.one (· == '@'))
  inside c := c != '=' && c != ';'
  signs := [['@'], ['@', '@']]
  tokenKind_label := rfl
  tokenKind_amountLabel := rfl
  isGap_first := rfl
  inside_of_plain x _ hequals hsemicolon := by simp [hequals, hsemicolon]
  head_signs := by decide
  solid_signs := forall_mem_of_all (by decide)
  takesText_signs sign hsign rest hrest := by
    have hnone := takesText_opt_one_none fun y hy => (hrest y hy).1
    simp only [List.mem_cons, List.not_mem_nil, or_false] at hsign
    rcases hsign with rfl | rfl
    · exact takesText_seq (takesText_one rfl) hnone
    · exact takesText_seq (t := ['@']) (takesText_one rfl) takesText_opt_one

/-- The signs of asserted balances. -/
def assertionKind : OperatorKind where
  label := .assertion
  amountLabel := .assertedAmount
  first := '='
  more := .seq (.opt (.one (· == '='))) (.opt (.one (· == '*')))
  inside := isBody
  signs := [['='], ['=', '='], ['=', '*'], ['=', '=', '*']]
  tokenKind_label := rfl
  tokenKind_amountLabel := rfl
  isGap_first := rfl
  inside_of_plain x _ _ hsemicolon := bne_iff_ne.mpr hsemicolon
  head_signs := by decide
  solid_signs := forall_mem_of_all (by decide)
  takesText_signs sign hsign rest hrest := by
    have hequals := takesText_opt_one_none fun y hy => (hrest y hy).2.1
    have hstar := takesText_opt_one_none fun y hy => (hrest y hy).2.2
    have hskip : (Pattern.opt (.one (· == '=')) : Pattern Field).TakesText [] ('*' :: rest) :=
      takesText_opt_one_none (by rintro y ⟨⟩; decide)
    simp only [List.mem_cons, List.not_mem_nil, or_false] at hsign
    rcases hsign with rfl | rfl | rfl | rfl
    · exact takesText_seq (takesText_one rfl) (takesText_seq hequals hstar)
    · exact takesText_seq (t := ['=']) (takesText_one rfl)
        (takesText_seq (t := []) takesText_opt_one hstar)
    · exact takesText_seq (t := ['*']) (takesText_one rfl)
        (takesText_seq (s := []) hskip takesText_opt_one)
    · exact takesText_seq (t := ['=', '*']) (takesText_one rfl)
        (takesText_seq (t := ['*']) takesText_opt_one takesText_opt_one)

/-- The pattern of an operator with its amount. -/
def OperatorKind.part (kind : OperatorKind) : Pattern Field :=
  .all [gap, .group kind.label (.seq (.one (· == kind.first)) kind.more), gap,
    .group kind.amountLabel (.few kind.inside)]

theorem afterAmount_eq :
    afterAmount = .seq (.opt costKind.part) (.seq (.opt assertionKind.part) tail) :=
  rfl

/-- A sign with the amount that it introduces, and the blanks around the sign. -/
structure OperatorText (kind : OperatorKind) where
  before : List Char
  sign : List Char
  after : List Char
  amount : AmountText
  sign_mem : sign ∈ kind.signs
  isGap_before : ∀ x ∈ before, isGap x = true
  isGap_after : ∀ x ∈ after, isGap x = true

section Operators

variable {kind : OperatorKind}

theorem OperatorText.sign_ne_nil (o : OperatorText kind) : o.sign ≠ [] := by
  intro hnil
  have hhead := kind.head_signs o.sign o.sign_mem
  rw [hnil] at hhead
  cases hhead

theorem OperatorText.noBlankEnds_sign (o : OperatorText kind) : NoBlankEnds o.sign where
  head x hx := kind.solid_signs x (List.mem_flatten_of_mem o.sign_mem (List.mem_of_mem_head? hx))
  last x hx := kind.solid_signs x
    (List.mem_flatten_of_mem o.sign_mem (List.mem_of_mem_getLast? hx))

/-- The parts of an operator with its amount, if it is there. -/
def OperatorText.parts : Option (OperatorText kind) → List LinePart
  | none => []
  | some o => [.blank o.before,
      .word kind.label o.sign (by rw [kind.tokenKind_label]; decide) o.sign_ne_nil
        o.noBlankEnds_sign,
      .blank o.after, .amount kind.amountLabel kind.tokenKind_amountLabel o.amount]

end Operators

/-! ## Amounts in lines -/

section Amounts

/-- No amount starts with a star. -/
theorem leaves_amountPattern_star (cs : List Char) : amountPattern.leaves ('*' :: cs) = [] :=
  rfl

/-- What an amount does not start with. -/
theorem AmountText.head (a : AmountText) :
    ∀ x ∈ a.chars.head?, isGap x = false ∧ x ≠ '@' ∧ x ≠ '=' ∧ x ≠ '*' := by
  intro x hx
  have hplain := a.plain x (List.mem_of_mem_head? hx)
  refine ⟨isGap_of_not_isBlank (a.noBlankEnds.head x hx), hplain.1, hplain.2.1, ?_⟩
  rintro rfl
  obtain ⟨more, hmore⟩ := List.head?_eq_some_iff.mp hx
  have hsplit := a.split
  rw [ofChars?, a.trimmed, hmore,
    match?_eq_none_iff.mpr (leaves_amountPattern_star more)] at hsplit
  cases hsplit

theorem AmountText.head_append (a : AmountText) (rest : List Char) :
    ∀ x ∈ (a.chars ++ rest).head?, isGap x = false ∧ x ≠ '@' ∧ x ≠ '=' ∧ x ≠ '*' := by
  rw [List.head?_append_of_ne_nil _ a.ne_nil]
  exact a.head

/-- Inside an amount there is no operator. -/
theorem OperatorKind.blocks (kind : OperatorKind) (a : AmountText)
    (hfirst : ∀ x ∈ a.chars, x ≠ kind.first) (r : Pattern Field) (rest : List Char) :
    (Pattern.seq kind.part r).Blocks a.chars rest := by
  have hsign : ∀ x ∈ a.chars, (x == kind.first) = false := fun x hx =>
    beq_eq_false_iff_ne.mpr (hfirst x hx)
  exact (blocks_many_seq (isGap_last a.noBlankEnds)
    ((blocks_one hsign).seq.group kind.label).seq).seq

end Amounts

/-! ## The end of a posting -/

section Ends

variable {kind : OperatorKind} {r : Pattern Field} {parts : List LinePart}

/-- An operator is read as it is put together. -/
theorem OperatorKind.takes_part (o : OperatorText kind)
    (hblocks : r.Blocks o.amount.chars (LinePart.lineOf parts))
    (hr : r.Takes (parts.map LinePart.piece)) :
    (Pattern.seq kind.part r).Takes ((OperatorText.parts (some o) ++ parts).map LinePart.piece) := by
  have hamount := o.amount.head_append (LinePart.lineOf parts)
  have hbefore : (gap : Pattern Field).TakesText o.before
      (o.sign ++ (o.after ++ (o.amount.chars ++ LinePart.lineOf parts))) :=
    takesText_gap o.isGap_before (isGap_head o.noBlankEnds_sign o.sign_ne_nil _)
  have hsign : (Pattern.seq (.one (· == kind.first)) kind.more).TakesText o.sign
      (o.after ++ (o.amount.chars ++ LinePart.lineOf parts)) := by
    refine kind.takesText_signs o.sign o.sign_mem _ fun x hx => ?_
    cases hafter : o.after with
    | nil =>
      rw [hafter] at hx
      exact (hamount x hx).2
    | cons y ys =>
      have hgap : isGap y = true := o.isGap_after y (by rw [hafter]; exact List.mem_cons_self)
      rw [hafter] at hx
      cases hx
      exact ⟨ne_of_isGap hgap rfl, ne_of_isGap hgap rfl, ne_of_isGap hgap rfl⟩
  have hafter : (gap : Pattern Field).TakesText o.after
      (o.amount.chars ++ LinePart.lineOf parts) :=
    takesText_gap o.isGap_after fun x hx => (hamount x hx).1
  have hinside : ∀ x ∈ o.amount.chars, kind.inside x = true := fun x hx =>
    kind.inside_of_plain x (o.amount.plain x hx).1 (o.amount.plain x hx).2.1
      (o.amount.plain x hx).2.2
  rw [← LinePart.text_map_piece] at hbefore hsign hafter hblocks
  exact takes_assoc.mpr (takes_seq hbefore (takes_assoc.mpr (takes_seq_group hsign
    (takes_assoc.mpr (takes_seq hafter (takes_few hinside hblocks hr))))))

/-- An operator that is not there is not read, if what follows the blanks is no sign of it. -/
theorem OperatorKind.leaves_part (kind : OperatorKind) (r : Pattern Field) {cs : List Char}
    (h : ∀ x ∈ (cs.dropWhile isGap).head?, x ≠ kind.first) :
    (Pattern.seq kind.part r).leaves cs = [] := by
  refine leaves_seq_of_eq_nil ?_
  have hstarts := ((startsWith_one (γ := Field) (· == kind.first)).seq kind.more).group kind.label
  refine (hstarts.seq _).leaves_many_seq (fun x hx => ?_) fun x hx =>
    beq_eq_false_iff_ne.mpr (h x hx)
  exact beq_eq_false_iff_ne.mpr (ne_of_isGap hx kind.isGap_first)

/-- What the end of a posting starts with behind the blanks. -/
theorem OperatorText.head_parts {P : Char → Prop} (o : Option (OperatorText kind))
    (hfirst : P kind.first)
    (hrest : ∀ x ∈ ((LinePart.lineOf parts).dropWhile isGap).head?, P x) :
    ∀ x ∈ ((LinePart.lineOf (OperatorText.parts o ++ parts)).dropWhile isGap).head?, P x := by
  cases o with
  | none => exact hrest
  | some o =>
    intro x hx
    obtain ⟨more, hsign⟩ := List.head?_eq_some_iff.mp (kind.head_signs o.sign o.sign_mem)
    have hline : LinePart.lineOf (OperatorText.parts (some o) ++ parts) = o.before ++
        kind.first :: (more ++ (o.after ++ (o.amount.chars ++ LinePart.lineOf parts))) := by
      rw [← List.cons_append, ← hsign]
      rfl
    rw [hline, head_dropWhile_gaps o.isGap_before kind.isGap_first] at hx
    cases hx
    exact hfirst

variable (a : AmountText) (rest : List Char)

theorem blocks_asserted : (Pattern.seq (.opt assertionKind.part) tail).Blocks a.chars rest :=
  (assertionKind.blocks a (fun x hx => (a.plain x hx).2.1) tail rest).seq_opt
    (CommentText.blocks_tail a.noBlankEnds (fun x hx => (a.plain x hx).2.2) rest)

/-- Inside an amount, nothing is read that can stand behind an amount. -/
theorem blocks_afterAmount : afterAmount.Blocks a.chars rest :=
  (costKind.blocks a (fun x hx => (a.plain x hx).1) _ rest).seq_opt (blocks_asserted a rest)

variable (cost : Option (OperatorText costKind)) (assertion : Option (OperatorText assertionKind))
  (comment : Option CommentText)

theorem takes_asserted :
    (Pattern.seq (.opt assertionKind.part) tail).Takes
      ((OperatorText.parts assertion ++ CommentText.parts comment).map LinePart.piece) := by
  cases assertion with
  | none =>
    refine takes_opt_none (assertionKind.leaves_part tail fun x hx => ?_)
      (CommentText.takes_tail comment)
    rw [LinePart.text_map_piece] at hx
    rw [CommentText.head_parts comment x hx]
    decide
  | some o =>
    exact takes_opt (assertionKind.takes_part o (CommentText.blocks_tail o.amount.noBlankEnds
      (fun x hx => (o.amount.plain x hx).2.2) _) (CommentText.takes_tail comment))

/-- What stands behind the amount of a posting. -/
def behindAmount : List LinePart :=
  OperatorText.parts cost ++ (OperatorText.parts assertion ++ CommentText.parts comment)

/-- What stands behind the amount is read as it is put together. -/
theorem takes_afterAmount :
    afterAmount.Takes ((behindAmount cost assertion comment).map LinePart.piece) := by
  rw [afterAmount_eq]
  cases cost with
  | none =>
    refine takes_opt_none (costKind.leaves_part _ fun x hx => ?_) (takes_asserted assertion comment)
    rw [LinePart.text_map_piece] at hx
    refine OperatorText.head_parts (P := (· ≠ '@')) assertion (by decide) (fun y hy => ?_) x hx
    rw [CommentText.head_parts comment y hy]
    decide
  | some o =>
    exact takes_opt (costKind.takes_part o (blocks_asserted o.amount _)
      (takes_asserted assertion comment))

end Ends

/-! ## Status, account and amount -/

section Fronts

variable {cs rest : List Char} {parts : List LinePart}

/-- An amount behind its gap is read as it is put together. -/
theorem takes_amountPart {r : Pattern Field} {ps : List (Piece Field)} (a : AmountText)
    (hgaps : ∀ x ∈ cs, isGap x = true) (hwide : cs.head? = some '\t' ∨ [' ', ' '] <+: cs)
    (hblocks : r.Blocks a.chars (Piece.text ps)) (hr : r.Takes ps) :
    (Pattern.seq amountPart r).Takes (⟨none, cs⟩ :: ⟨some .amount, a.chars⟩ :: ps) := by
  have hplain : ∀ x ∈ a.chars, (x != '@' && x != '=' && x != ';') = true := fun x hx => by
    simp [a.plain x hx]
  have hseparator : (Pattern.seq separator gap : Pattern Field).TakesText cs
      (a.chars ++ Piece.text ps) :=
    takesText_separator hgaps hwide fun x hx => (a.head_append _ x hx).1
  have hsame : ∀ c, (Pattern.seq amountPart r).outcomes c =
      (Pattern.seq (.seq separator gap) (.seq
        (.group .amount (.few fun c => c != '@' && c != '=' && c != ';')) r)).outcomes c :=
    fun c => by simp only [amountPart, all, outcomes, List.flatMap_assoc]
  exact (takes_congr hsame).mpr (takes_seq hseparator (takes_few hplain hblocks hr))

end Fronts

/-! ## Posting lines -/

/-- Whether an account cannot be taken for anything else where no status stands in front of it: for a
comment, for a status, or for the directive that declares a format. -/
structure IsUnmistakable (account : List Char) : Prop where
  not_comment : account.head? ≠ some '#'
  not_status : ∀ marker, isStatus marker = true →
    account ≠ [marker] ∧ ¬[marker, ' '] <+: account
  not_format : account ≠ "format".toList ∧ ¬"format ".toList <+: account

/-- A posting that is put together. -/
structure PostingLine where
  indent : List Char
  status : Option StatusText
  account : List Char
  /-- What stands between the account and its amount. -/
  separator : List Char
  amount : AmountText
  cost : Option (OperatorText costKind)
  assertion : Option (OperatorText assertionKind)
  comment : Option CommentText
  indent_ne_nil : indent ≠ []
  isGap_indent : ∀ x ∈ indent, isGap x = true
  isAccount : IsAccountText account []
  unmistakable : status = none → IsUnmistakable account
  isGap_separator : ∀ x ∈ separator, isGap x = true
  wide_separator : separator.head? = some '\t' ∨ [' ', ' '] <+: separator

namespace PostingLine

variable (p : PostingLine)

/-- The parts from the separator on. -/
def behindAccount : List LinePart :=
  .blank p.separator :: .amount .amount rfl p.amount ::
    behindAmount p.cost p.assertion p.comment

/-- The parts from the account on. -/
def fromAccount : List LinePart :=
  .word .account p.account (by decide) p.isAccount.ne_nil p.isAccount.noBlankEnds ::
    p.behindAccount

/-- The parts of a posting. -/
def parts : List LinePart :=
  .indent p.indent p.indent_ne_nil ::
    ((p.status.elim [] fun s => [s.part, .blank s.gaps]) ++ p.fromAccount)

/-- The characters of a posting. -/
def chars : List Char :=
  LinePart.lineOf p.parts

/-- The tokens of a posting: those of its parts, and the end of the line. -/
def tokens (line : Int) : List Token :=
  LinePart.tokensFrom line 0 p.parts ++ [⟨.newline, "\n", line, p.chars.length⟩]

/-- The separator ends an account. -/
theorem stops_separator (rest : List Char) : Stops continuesAccount (p.separator ++ rest) := by
  rcases p.wide_separator with htab | ⟨more, hmore⟩
  · obtain ⟨more, hmore⟩ := List.head?_eq_some_iff.mp htab
    rw [hmore]
    rfl
  · rw [← hmore]
    rfl

/-- A posting is read as it is put together from its account on. -/
theorem takes_unmarked : unmarked.Takes (p.fromAccount.map LinePart.piece) := by
  have haccount : (accountField : Pattern Field).TakesText p.account
      (LinePart.lineOf p.behindAccount) :=
    prefers_accountField (p.isAccount.in_front _) (p.stops_separator _)
  rw [← LinePart.text_map_piece] at haccount
  exact takes_seq_group haccount (takes_opt (takes_amountPart p.amount p.isGap_separator
    p.wide_separator (blocks_afterAmount p.amount _)
    (takes_afterAmount p.cost p.assertion p.comment)))

/-- The account of a posting without a status is not read as a status. -/
theorem leaves_marked (h : IsUnmistakable p.account) :
    marked.leaves (LinePart.lineOf p.fromAccount) = [] := by
  obtain ⟨x, more, haccount, hx, hmore⟩ := p.isAccount
  have hline : LinePart.lineOf p.fromAccount = x :: (more ++ LinePart.lineOf p.behindAccount) := by
    rw [← List.cons_append, ← haccount]
    rfl
  rw [hline]
  refine leaves_seq_of_eq_nil ?_
  by_cases hstatus : isStatus x = true
  · obtain ⟨hlone, hspace⟩ := h.not_status x hstatus
    rw [haccount] at hlone hspace
    obtain ⟨y, ys, rfl⟩ := List.exists_cons_of_ne_nil fun hnil => hlone (hnil ▸ rfl)
    -- what stands behind the marker is no gap
    have hy : isGap y = false := by
      rcases continuesAccount_iff.mp hmore.1 with hy | ⟨rfl, -⟩
      · exact isGap_of_isAccountChar hy
      · exact absurd ⟨ys, rfl⟩ hspace
    have hmarker : (Pattern.group Field.status (.one isStatus)).leaves
        (x :: (y :: ys ++ LinePart.lineOf p.behindAccount)) =
          [y :: ys ++ LinePart.lineOf p.behindAccount] := if_pos hstatus
    rw [leaves_seq_of_eq_singleton hmarker, List.cons_append, someGap, leaves_many_one_cons,
      if_neg (by rw [hy]; decide)]
  · exact leaves_seq_of_eq_nil (if_neg hstatus)

/-- Behind the account stands a gap. -/
theorem isGap_head_behindAccount :
    ∀ x ∈ (LinePart.lineOf p.behindAccount).head?, isGap x = true := by
  intro x hx
  have hne : p.separator ≠ [] := by
    rcases p.wide_separator with htab | ⟨more, hmore⟩
    · exact List.ne_nil_of_mem (List.mem_of_mem_head? htab)
    · rw [← hmore]
      exact List.cons_ne_nil _ _
  have hline : LinePart.lineOf p.behindAccount = p.separator ++
      LinePart.lineOf (.amount .amount rfl p.amount ::
        behindAmount p.cost p.assertion p.comment) := rfl
  rw [hline, List.head?_append_of_ne_nil _ hne] at hx
  exact p.isGap_separator x (List.mem_of_mem_head? hx)

/-- The account of a posting without a status is not the name of a directive. -/
theorem ne_format (h : IsUnmistakable p.account) {x : Char} (hx : isGap x = true)
    (rest : List Char) :
    p.account ++ LinePart.lineOf p.behindAccount ≠ "format".toList ++ x :: rest := by
  intro heq
  rcases List.append_eq_append_iff.mp heq with ⟨between, hformat, hbehind⟩ | ⟨more, haccount, hrest⟩
  · -- the account is not a part of the name
    cases between with
    | nil => exact h.not_format.1 (by rw [hformat, List.append_nil])
    | cons y ys =>
      have hy : y ∈ "format".toList := by rw [hformat]; simp
      have hletters : ∀ y ∈ "format".toList, isGap y = false := forall_mem_of_all (by decide)
      have hgap := p.isGap_head_behindAccount y (by rw [hbehind]; rfl)
      rw [hletters y hy] at hgap
      cases hgap
  · -- the name is not the first word of the account
    cases more with
    | nil => exact h.not_format.1 (by rw [haccount, List.append_nil])
    | cons y ys =>
      obtain ⟨rfl, -⟩ := List.cons.inj hrest
      have hmem : x ∈ p.account := by rw [haccount]; simp
      rcases p.isAccount.mem hmem with hchar | rfl
      · rw [isGap_of_isAccountChar hchar] at hx
        cases hx
      · exact h.not_format.2 ⟨ys, haccount.symm⟩

/-- No rule in front of the rule for postings takes a posting. -/
theorem readLine?_eq {found : Match Field}
    (h : LineRule.posting.pattern.match? p.chars = some found) :
    readLine? p.chars = some ⟨15, .posting, found⟩ := by
  cases hstatus : p.status with
  | none =>
    have hclear := p.unmistakable hstatus
    have hline : p.chars = p.indent ++ (p.account ++ LinePart.lineOf p.behindAccount) := by
      rw [chars, parts, hstatus]
      rfl
    rw [hline] at h ⊢
    exact readLine?_of_posting p.indent_ne_nil p.isGap_indent (p.isAccount.in_front _)
      (fun x hx heq => hclear.not_comment (heq ▸ hx)) (fun x rest hx => p.ne_format hclear hx rest)
      h
  | some s =>
    have hline : p.chars = p.indent ++ ([s.marker] ++ (s.gaps ++ LinePart.lineOf p.fromAccount)) := by
      rw [chars, parts, hstatus]
      rfl
    -- for the rules in front, the marker might as well be an account
    have hmarker : IsAccountText [s.marker] (s.gaps ++ LinePart.lineOf p.fromAccount) := by
      refine ⟨s.marker, [], rfl, ?_, trivial⟩
      rcases isStatus_iff.mp s.isStatus_marker with hm | hm <;> rw [hm] <;> decide
    have hcomment : ∀ x ∈ [s.marker].head?, x ≠ '#' := by
      rintro x ⟨⟩
      rcases isStatus_iff.mp s.isStatus_marker with hm | hm <;> rw [hm] <;> decide
    have hformat : ∀ x rest, isGap x = true →
        [s.marker] ++ (s.gaps ++ LinePart.lineOf p.fromAccount) ≠ "format".toList ++ x :: rest := by
      intro x rest _ heq
      have hm : s.marker = 'f' := (List.cons.inj heq).1
      have hno := s.isStatus_marker
      rw [hm] at hno
      cases hno
    rw [hline] at h ⊢
    exact readLine?_of_posting p.indent_ne_nil p.isGap_indent hmarker hcomment hformat h

theorem isGap_head_fromAccount :
    ∀ x ∈ (LinePart.lineOf p.fromAccount).head?, isGap x = false :=
  isGap_head p.isAccount.noBlankEnds p.isAccount.ne_nil _

/-- A posting is read as it is put together. -/
theorem takes_posting : LineRule.posting.pattern.Takes (p.parts.map LinePart.piece) := by
  have haccount := p.isGap_head_fromAccount
  rw [← LinePart.text_map_piece] at haccount
  rw [posting_pattern_eq]
  cases hstatus : p.status with
  | none =>
    rw [parts, hstatus]
    refine takes_seq_group (takesText_someGap p.indent_ne_nil p.isGap_indent haccount)
      (takes_opt_none ?_ p.takes_unmarked)
    rw [LinePart.text_map_piece]
    exact p.leaves_marked (p.unmistakable hstatus)
  | some s =>
    rw [parts, hstatus]
    have hgaps := takesText_someGap s.gaps_ne_nil s.isGap_gaps haccount
    refine takes_seq_group (takesText_someGap p.indent_ne_nil p.isGap_indent ?_) (takes_opt
      (takes_assoc.mpr (takes_seq_group (takesText_one s.isStatus_marker)
        (takes_seq hgaps p.takes_unmarked))))
    rintro x ⟨⟩
    exact isGap_of_isStatus s.isStatus_marker

end PostingLine

/-- **The tokens of a posting that was put together** are those of its parts. -/
theorem lineTokens_postingLine (p : PostingLine) (line : Int) :
    lineTokens p.chars line = .ok (p.tokens line) :=
  lineTokens_of_takes rfl (fun _ => p.readLine?_eq) p.takes_posting line

/-- A posting in which nothing is missing. -/
def PostingLine.complete : PostingLine where
  indent := ['\t']
  status := some ⟨'*', [' ', ' '], rfl, by decide, forall_mem_of_all (by decide)⟩
  account := "[Активы:Наличные деньги]".toList
  separator := ['\t', ' ']
  amount := ⟨"-$5".toList, ⟨"-5", some "$", true, false, 2, 3, some (1, 2)⟩,
    by decide +kernel, by decide +kernel, forall_mem_of_all (by decide)⟩
  cost := some ⟨[' '], ['@', '@'], [], ⟨"3 EUR".toList,
    ⟨"3", some "EUR", false, true, 0, 1, some (2, 5)⟩, by decide +kernel, by decide +kernel,
    forall_mem_of_all (by decide)⟩, by decide, forall_mem_of_all (by decide), nofun⟩
  assertion := some ⟨[], ['=', '=', '*'], ['\t'], ⟨"\"x y\" 7".toList,
    ⟨"7", some "x y", true, true, 6, 7, some (0, 5)⟩, by decide +kernel, by decide +kernel,
    forall_mem_of_all (by decide)⟩, by decide, nofun, forall_mem_of_all (by decide)⟩
  comment := some ⟨[' '], " k: v".toList, forall_mem_of_all (by decide), by decide⟩
  indent_ne_nil := by decide
  isGap_indent := forall_mem_of_all (by decide)
  isAccount := by decide +kernel
  unmistakable := nofun
  isGap_separator := forall_mem_of_all (by decide)
  wide_separator := .inl rfl

/-- Every part of a posting at once. -/
theorem lineTokens_postingLine_complete :
    PostingLine.complete.chars =
        "\t*  [Активы:Наличные деньги]\t -$5 @@3 EUR==*\t\"x y\" 7 ; k: v".toList ∧
      lineTokens PostingLine.complete.chars 4 = .ok
        [⟨.indent, "\t", 4, 0⟩, ⟨.status, "*", 4, 1⟩, ⟨.account, "[Активы:Наличные деньги]", 4, 4⟩,
          ⟨.commodity, "$", 4, 31⟩, ⟨.amount, "-5", 4, 32⟩, ⟨.operator, "@@", 4, 34⟩,
          ⟨.amount, "3", 4, 36⟩, ⟨.commodity, "EUR", 4, 38⟩, ⟨.operator, "==*", 4, 41⟩,
          ⟨.commodity, "\"x y\"", 4, 45⟩, ⟨.amount, "7", 4, 51⟩, ⟨.comment, "k: v", 4, 55⟩,
          ⟨.tagKey, "k", 4, 55⟩, ⟨.tagValue, "v", 4, 58⟩, ⟨.newline, "\n", 4, 59⟩] :=
  ⟨by decide +kernel, (lineTokens_postingLine _ 4).trans (congrArg Except.ok (by decide +kernel))⟩

end Daybook.Journal
