import Daybook.Proofs.Journal.Posting

/-!
# Posting lines that are written

A line of an indent, an account and perhaps an amount is meant to be read as just that.  It is,
if no rule in front of the rule for postings takes it and its account is not taken for a status
marker; and if the account was read before, the first never happens, and the second only to a marker
that stands alone.

* `behindAccount`: what is written behind an account.
* `exists_match?_written`: how the rule for postings reads such a line; `status_mem_of_marked`.
* `ReadsPosting.lone_of_marked`: only a lone marker is taken off an account that was read.
* `ReadsPosting.readLine?_again`: an account that was read falls under the rule for postings again.
-/

namespace Daybook.Journal

open Text Pattern

/-! ## Behind the account -/

section Behind

variable {cs : List Char} {pos : Nat} {spans : List (Span Field)}

/-- What holds no sign of an operator or a comment and does not end with a blank is not read behind
an amount. -/
theorem leaves_afterAmount_eq_nil (hsome : cs ≠ []) (hlast : ∀ x ∈ cs.getLast?, isBlank x = false)
    (hplain : ∀ x ∈ cs, x ≠ '@' ∧ x ≠ '=' ∧ x ≠ ';') : afterAmount.leaves cs = [] := by
  have hcost : ∀ x ∈ cs, (x == '@') = false := fun x hx =>
    beq_eq_false_iff_ne.mpr (hplain x hx).1
  have hassertion : ∀ x ∈ cs, (x == '=') = false := fun x hx =>
    beq_eq_false_iff_ne.mpr (hplain x hx).2.1
  have hcomment : ∀ x ∈ cs, (x == ';') = false := fun x hx =>
    beq_eq_false_iff_ne.mpr (hplain x hx).2.2
  have hend : ∀ rest ∈ (gap : Pattern Field).leaves cs,
      (atEnd : Pattern Field).leaves rest = [] := by
    intro rest hrest
    refine if_neg fun hend => ?_
    obtain ⟨taken, rfl, -, htaken⟩ := mem_leaves_run_iff.mp hrest
    have hblank : ∀ x ∈ taken ++ rest, isBlank x = true := by
      intro x hx
      rcases List.mem_append.mp hx with hx | hx
      · exact isBlank_of_isGap (accepted_class.mp htaken x hx)
      · rcases (by simpa using hend : rest = [] ∨ rest = ['\n']) with rfl | rfl
        · cases hx
        · rw [List.mem_singleton.mp hx]
          decide
    have hx := List.getLast?_eq_some_getLast hsome
    have hno := hlast _ hx
    rw [hblank _ (List.mem_of_mem_getLast? hx)] at hno
    cases hno
  -- cost and asserted balance are not there, and neither is a comment
  refine leaves_seq_opt_eq_nil (leaves_seq_of_eq_nil (leaves_seq_eq_nil_iff.mpr fun rest hrest =>
    leaves_seq_of_eq_nil (leaves_seq_of_eq_nil (leaves_one_behind_gap hcost rest hrest)))) ?_
  refine leaves_seq_opt_eq_nil (leaves_seq_of_eq_nil (leaves_seq_eq_nil_iff.mpr fun rest hrest =>
    leaves_seq_of_eq_nil (leaves_seq_of_eq_nil (leaves_one_behind_gap hassertion rest hrest)))) ?_
  refine leaves_seq_eq_nil_iff.mpr fun rest hrest => leaves_seq_opt_eq_nil ?_ (hend rest hrest)
  exact leaves_seq_of_eq_nil (leaves_seq_of_eq_nil (leaves_one_behind_gap hcomment rest hrest))

theorem prefers_afterAmount_none : afterAmount.Prefers ⟨pos, [], spans⟩ ⟨pos, [], spans⟩ :=
  have hend : ∀ x ∈ ([] : List Char).head?, isGap x = false := nofun
  prefers_opt_none rfl (prefers_opt_none rfl (prefers_seq (prefers_many_none hend pos spans)
    (prefers_opt_none rfl (prefers_atEnd pos spans))))

/-- An account without an amount. -/
theorem prefers_afterAccount_none : afterAccount.Prefers ⟨pos, [], spans⟩ ⟨pos, [], spans⟩ :=
  prefers_opt_none rfl prefers_afterAmount_none

/-- An amount behind two spaces. -/
theorem prefers_afterAccount_amount {amount : List Char}
    (hends : Amount.NoBlankEnds amount) (hplain : ∀ x ∈ amount, x ≠ '@' ∧ x ≠ '=' ∧ x ≠ ';') :
    afterAccount.Prefers ⟨pos, ' ' :: ' ' :: amount, spans⟩
      ⟨pos + 2 + amount.length, [],
        ⟨.amount, pos + 2, pos + 2 + amount.length⟩ :: spans⟩ := by
  have hhead : ∀ {x}, x ∈ amount.head? → ∀ {y}, isBlank y = true → (x == y) = false := by
    intro x hx y hy
    refine beq_eq_false_iff_ne.mpr ?_
    rintro rfl
    rw [hends.head x hx] at hy
    cases hy
  have hspaces : ∀ x ∈ [' ', ' '], (x == ' ') = true := by simp
  have hseparator : (separator : Pattern Field).Prefers ⟨pos, ' ' :: ' ' :: amount, spans⟩
      ⟨pos + 2, amount, spans⟩ :=
    prefers_either_right rfl (prefers_many hspaces (fun x hx => hhead hx (by decide))
      (Nat.le_refl 2) pos spans)
  have hgap : (gap : Pattern Field).Prefers ⟨pos + 2, amount, spans⟩ ⟨pos + 2, amount, spans⟩ := by
    refine prefers_many_none (fun x hx => ?_) (pos + 2) spans
    rw [isGap, hhead hx (by decide), hhead hx (by decide)]
    rfl
  have hclass : ∀ x ∈ amount, (x != '@' && x != '=' && x != ';') = true := fun x hx => by
    simp [hplain x hx]
  -- what is cut off at the end of the amount would be left over
  have hlonger : ∀ before after, amount = before ++ after → after ≠ [] →
      afterAmount.leaves (after ++ []) = [] := by
    intro before after hsplit hne
    rw [List.append_nil]
    refine leaves_afterAmount_eq_nil hne (fun x hx => hends.last x ?_) fun x hx => hplain x ?_
    · rw [hsplit, List.getLast?_append_of_ne_nil _ hne]
      exact hx
    · rw [hsplit]
      exact List.mem_append_right before hx
  have hamount := prefers_few Field.amount hclass hlonger (pos + 2) spans prefers_afterAmount_none
  rw [List.append_nil] at hamount
  exact prefers_opt (prefers_assoc (prefers_seq hseparator (prefers_assoc
    (prefers_seq hgap hamount))))

end Behind

/-! ## Lines that are written to be read -/

section Written

variable {indent account behind : List Char} {c : Cursor Field}

/-- A posting without a status marker is read field by field. -/
theorem prefers_posting (hindent : indent ≠ []) (hgaps : ∀ x ∈ indent, isGap x = true)
    (haccount : IsAccountText account behind) (hstop : Stops continuesAccount behind)
    (hmarked : marked.leaves (account ++ behind) = [])
    (h : afterAccount.Prefers ⟨indent.length + account.length, behind,
      [⟨.account, indent.length, indent.length + account.length⟩, ⟨.indent, 0, indent.length⟩]⟩ c) :
    LineRule.posting.pattern.Prefers ⟨0, indent ++ (account ++ behind), []⟩ c := by
  have hhead : ∀ x ∈ (account ++ behind).head?, isGap x = false := by
    intro x hx
    rw [List.head?_append_of_ne_nil _ haccount.ne_nil] at hx
    exact isGap_of_isAccountChar (haccount.head x hx)
  have hgap := prefers_many hgaps hhead (List.length_pos_of_ne_nil hindent) 0
    ([] : List (Span Field))
  rw [Nat.zero_add] at hgap
  have hunmarked : unmarked.Prefers ⟨indent.length, account ++ behind,
      [⟨.indent, 0, indent.length⟩]⟩ c :=
    prefers_seq (prefers_group Field.account (prefers_accountField haccount hstop _ _)) h
  have hrest : (Pattern.seq (.opt (.seq (.group .status (.one isStatus)) someGap)) unmarked).Prefers
      ⟨indent.length, account ++ behind, [⟨Field.indent, 0, indent.length⟩]⟩ c :=
    prefers_opt_none hmarked hunmarked
  rw [posting_pattern_eq]
  exact prefers_seq (prefers_group .indent hgap) hrest

/-- Where a gap in front of an account can end. -/
theorem mem_leaves_gap_indented {least : Nat} {rest : List Char}
    (hgaps : ∀ x ∈ indent, isGap x = true) (haccount : IsAccountText account behind)
    (h : rest ∈ (many isGap least : Pattern Field).leaves (indent ++ (account ++ behind))) :
    rest = account ++ behind ∨ ∃ x more, rest = x :: more ∧ isGap x = true := by
  obtain ⟨taken, hsplit, -, htaken⟩ := mem_leaves_run_iff.mp h
  rcases List.append_eq_append_iff.mp hsplit with ⟨between, rfl, hbetween⟩ | ⟨left, rfl, rfl⟩
  · cases between with
    | nil => exact .inl hbetween.symm
    | cons x xs =>
      have hgap : isGap x = true := accepted_class.mp htaken x (by simp)
      have hx : x ∈ account.head? := by
        have hfirst : (account ++ behind).head? = account.head? :=
          List.head?_append_of_ne_nil _ haccount.ne_nil
        rw [← hfirst, hbetween]
        rfl
      rw [isGap_of_isAccountChar (haccount.head x hx)] at hgap
      cases hgap
  · cases left with
    | nil => exact .inl rfl
    | cons x xs => exact .inr ⟨x, _, rfl, hgaps x (by simp)⟩

/-- What matches neither the account nor a gap does not match behind a gap in front of the account. -/
theorem leaves_indented_eq_nil {least : Nat} {p : Pattern Field}
    (hgaps : ∀ x ∈ indent, isGap x = true) (haccount : IsAccountText account behind)
    (hhere : p.leaves (account ++ behind) = [])
    (hgap : ∀ x more, isGap x = true → p.leaves (x :: more) = []) :
    ∀ rest ∈ (many isGap least : Pattern Field).leaves (indent ++ (account ++ behind)),
      p.leaves rest = [] := by
  intro rest hrest
  rcases mem_leaves_gap_indented hgaps haccount hrest with rfl | ⟨x, more, rfl, hx⟩
  · exact hhere
  · exact hgap x more hx

/-- A line with an account is not blank. -/
theorem match?_blank_eq_none (hgaps : ∀ x ∈ indent, isGap x = true)
    (haccount : IsAccountText account behind) :
    LineRule.blank.pattern.match? (indent ++ (account ++ behind)) = none := by
  have hend : ∀ {x more}, x ≠ '\n' → (atEnd : Pattern Field).leaves (x :: more) = [] := by
    intro x more hx
    exact if_neg (by simpa using fun h => absurd h hx)
  obtain ⟨first, name, hname, hfirst, -⟩ := id haccount
  refine match?_eq_none_iff.mpr (leaves_seq_eq_nil_iff.mpr
    (leaves_indented_eq_nil hgaps haccount ?_ fun x more hx => hend (ne_of_isGap hx (by decide))))
  rw [hname]
  exact hend (by rintro rfl; cases hfirst)

/-- A line with an account is no comment, if the account does not start with a sign of comments. -/
theorem match?_comment_eq_none (hgaps : ∀ x ∈ indent, isGap x = true)
    (haccount : IsAccountText account behind) (hcomment : ∀ x ∈ account.head?, x ≠ '#') :
    LineRule.comment.pattern.match? (indent ++ (account ++ behind)) = none := by
  have hsign : ∀ {x more}, x ≠ ';' → x ≠ '#' →
      (one fun c => c == ';' || c == '#' : Pattern Field).leaves (x :: more) = [] := by
    intro x more hsemicolon hno
    exact if_neg (by simpa using ⟨hsemicolon, hno⟩)
  obtain ⟨first, name, hname, hfirst, -⟩ := id haccount
  refine match?_eq_none_iff.mpr (leaves_seq_eq_nil_iff.mpr (leaves_indented_eq_nil hgaps haccount
    (leaves_seq_of_eq_nil ?_) fun x more hx => leaves_seq_of_eq_nil
      (hsign (ne_of_isGap hx (by decide)) (ne_of_isGap hx (by decide)))))
  rw [hname]
  exact hsign (ne_semicolon_of_isAccountChar hfirst) (hcomment first (by rw [hname]; rfl))

/-- A line with an account is no format, if the account does not start with the name of that directive
and a gap behind it. -/
theorem match?_format_eq_none (hgaps : ∀ x ∈ indent, isGap x = true)
    (haccount : IsAccountText account behind)
    (hformat : ∀ x rest, isGap x = true → account ++ behind ≠ "format".toList ++ x :: rest) :
    LineRule.format.pattern.match? (indent ++ (account ++ behind)) = none := by
  refine match?_eq_none_iff.mpr (leaves_seq_eq_nil_iff.mpr
    (leaves_indented_eq_nil hgaps haccount ?_ fun x more hx => ?_))
  · refine leaves_seq_eq_nil_iff.mpr fun rest hrest => leaves_seq_of_eq_nil ?_
    obtain ⟨_, _, ⟨_, hword, -⟩, hsplit⟩ := exists_fits_of_mem_leaves hrest
    obtain ⟨rfl, -⟩ := fits_literal.mp hword
    by_contra hgap
    obtain ⟨_, hmem⟩ := List.exists_mem_of_ne_nil _ hgap
    obtain ⟨taken, rfl, hlength, htaken⟩ := mem_leaves_run_iff.mp hmem
    obtain ⟨x, xs, rfl⟩ := List.exists_cons_of_length_pos hlength
    exact hformat x _ (accepted_class.mp htaken x List.mem_cons_self) hsplit
  · rcases isGap_iff.mp hx with rfl | rfl <;> rfl

/-- **A posting falls under no rule in front of its own**, unless it is a comment or names the
directive of formats. -/
theorem readLine?_of_posting {found : Match Field} (hindent : indent ≠ [])
    (hgaps : ∀ x ∈ indent, isGap x = true) (haccount : IsAccountText account behind)
    (hcomment : ∀ x ∈ account.head?, x ≠ '#')
    (hformat : ∀ x rest, isGap x = true → account ++ behind ≠ "format".toList ++ x :: rest)
    (h : LineRule.posting.pattern.match? (indent ++ (account ++ behind)) = some found) :
    readLine? (indent ++ (account ++ behind)) = some ⟨15, .posting, found⟩ := by
  obtain ⟨x, more, hline, hx⟩ : ∃ x more, indent ++ (account ++ behind) = x :: more ∧
      isGap x = true := by
    obtain ⟨x, xs, rfl⟩ := List.exists_cons_of_ne_nil hindent
    exact ⟨x, _, rfl, hgaps x List.mem_cons_self⟩
  -- only three rules in front of it match lines that start with a gap
  have hother : ∀ rule ∈ [LineRule.starComment, .transaction, .account, .commodity,
      .defaultCommodity, .decimalMark, .inclusion, .price, .payee, .tag, .accountAlias, .year],
      rule.pattern.match? (indent ++ (account ++ behind)) = none := by
    intro rule hrule
    rw [hline]
    simp only [List.mem_cons, List.not_mem_nil, or_false] at hrule
    rcases isGap_iff.mp hx with rfl | rfl <;>
      rcases hrule with rfl | rfl | rfl | rfl | rfl | rfl | rfl | rfl | rfl | rfl | rfl | rfl <;> rfl
  simp only [List.forall_mem_cons] at hother
  simp only [readLine?, LineRule.table, readLineFrom, match?_blank_eq_none hgaps haccount,
    match?_comment_eq_none hgaps haccount hcomment, match?_format_eq_none hgaps haccount hformat,
    hother, h]

/-- What is written behind an account: two spaces and the amount, or nothing. -/
def behindAccount : Option (List Char) → List Char
  | none => []
  | some amount => ' ' :: ' ' :: amount

theorem stops_behindAccount (amount : Option (List Char)) :
    Stops continuesAccount (behindAccount amount) := by
  cases amount with
  | none => trivial
  | some amount => rfl

/-- **What is read of a posting that is written field by field.** -/
theorem exists_match?_written {amount : Option (List Char)} (hindent : indent ≠ [])
    (hgaps : ∀ x ∈ indent, isGap x = true) (haccount : IsAccountText account [])
    (hends : ∀ cs ∈ amount, Amount.NoBlankEnds cs)
    (hplain : ∀ cs ∈ amount, ∀ x ∈ cs, x ≠ '@' ∧ x ≠ '=' ∧ x ≠ ';')
    (hmarked : marked.leaves (account ++ behindAccount amount) = []) :
    ∃ found, LineRule.posting.pattern.match? (indent ++ (account ++ behindAccount amount)) =
        some found ∧
      found.fields = (.indent, indent) :: (.account, account) ::
        amount.toList.map ((Field.amount, ·)) := by
  have hindentSlice : ∀ behind, Match.slice (indent ++ (account ++ behind)) 0 indent.length =
      indent := fun behind => by simpa using slice_append [] indent (account ++ behind)
  have haccountSlice : ∀ behind, Match.slice (indent ++ (account ++ behind)) indent.length
      (indent.length + account.length) = account := slice_append indent account
  cases amount with
  | none =>
    refine ⟨_, match?_of_prefers (prefers_posting hindent hgaps (haccount.in_front _)
      (stops_behindAccount none) hmarked prefers_afterAccount_none), ?_⟩
    simp [Match.fields, Match.fieldOf, hindentSlice, haccountSlice]
  | some cs =>
    refine ⟨_, match?_of_prefers (prefers_posting hindent hgaps (haccount.in_front _)
      (stops_behindAccount (some cs)) hmarked
      (prefers_afterAccount_amount (hends cs rfl) (hplain cs rfl))), ?_⟩
    have hamountSlice : Match.slice (indent ++ (account ++ behindAccount (some cs)))
        (indent.length + account.length + 2) (indent.length + account.length + 2 + cs.length) =
          cs := by
      simpa [behindAccount, Nat.add_assoc] using
        slice_append (indent ++ (account ++ [' ', ' '])) cs []
    simp [Match.fields, Match.fieldOf, hindentSlice, haccountSlice, hamountSlice]

/-- What can be read with a status marker is a posting. -/
theorem isSome_match?_of_marked {rest : List Char} (hindent : indent ≠ [])
    (hgaps : ∀ x ∈ indent, isGap x = true) (h : marked.leaves rest ≠ []) :
    (LineRule.posting.pattern.match? (indent ++ rest)).isSome := by
  obtain ⟨left, hleft⟩ := List.exists_mem_of_ne_nil _ h
  have hindent : rest ∈ (Pattern.group Field.indent someGap).leaves (indent ++ rest) :=
    mem_leaves_run (γ := Field) .longest rest hgaps (List.length_pos_of_ne_nil hindent)
  have hrest : left ∈ (Pattern.seq (.opt (.seq (.group Field.status (.one isStatus)) someGap))
      unmarked).leaves rest := by
    rw [leaves_seq_opt]
    exact List.mem_append_left _ hleft
  rw [isSome_match?_iff, posting_pattern_eq]
  exact List.ne_nil_of_mem (mem_leaves_seq hindent hrest)

/-- A posting that can be read with a status marker is read so. -/
theorem status_mem_of_marked {found : Match Field} {x : Char} (hx : isStatus x = true)
    (hgaps : ∀ y ∈ indent, isGap y = true) (hbreak : '\n' ∉ indent ++ x :: behind)
    (hmatch : LineRule.posting.pattern.match? (indent ++ x :: behind) = some found)
    (hmarked : marked.leaves (x :: behind) ≠ []) : (.status, [x]) ∈ found.fields := by
  -- the first character behind the gaps is the same in every reading
  have hhead : ∀ {gaps rest : List Char} {y : Char}, (∀ z ∈ gaps, isGap z = true) →
      isGap y = false → indent ++ x :: behind = gaps ++ y :: rest → x :: behind = y :: rest := by
    intro gaps rest y hgaps' hy heq
    have hstop : ∀ z ∈ (x :: behind).head?, isGap z = false := by
      rintro _ ⟨⟩
      exact isGap_of_isStatus hx
    have hdrop := dropWhile_append_of_stop hgaps hstop
    rw [heq, dropWhile_append_of_stop hgaps' (by rintro _ ⟨⟩; exact hy)] at hdrop
    exact hdrop.symm
  obtain ⟨-, taken, hfits, left, hleft⟩ := fits_of_match? hmatch
  obtain ⟨gaps, fs, rest, fs', ⟨_, hgap, rfl⟩, hrest, rfl, hfields⟩ := fits_all_cons.mp hfits
  obtain ⟨marks, fs₁, rest', fs₂, hmarks, hrest', rfl, rfl⟩ := fits_all_cons.mp hrest
  rcases fits_opt.mp hmarks with ⟨_, _, _, _, ⟨_, ⟨y, hy, rfl, rfl⟩, rfl⟩, -, rfl, rfl⟩ | ⟨rfl, rfl⟩
  · simp only [List.append_assoc, List.cons_append, List.nil_append] at hleft
    obtain ⟨rfl, -⟩ := List.cons.inj
      (hhead (fits_many.mp hgap).1 (isGap_of_isStatus hy) hleft.symm)
    rw [hfields]
    simp
  · refine absurd ?_ hmarked
    have hstatus : ∀ f ∈ found.fields, f.1 ≠ .status := by
      intro f hf hlabel
      rw [hfields] at hf
      have hf' : f ∈ fs₂ := by
        obtain ⟨-, -, rfl⟩ := fits_many.mp hgap
        rcases List.mem_cons.mp hf with rfl | hf
        · cases hlabel
        · exact hf
      have hmem := Fits.label_mem hrest' hf'
      rw [hlabel] at hmem
      exact absurd hmem (by decide)
    obtain ⟨indent', account, behind', more, hreads, -⟩ := readsPosting_of_match? hbreak hmatch hstatus
    obtain ⟨y, name, rfl, hy, -⟩ := id hreads.isAccount
    have heq := hhead hreads.gaps (y := y) (isGap_of_isAccountChar hy) hreads.line_eq
    rw [heq]
    exact hreads.not_marked

end Written

/-! ## Postings that are written again -/

section Again

variable {line indent account behind : List Char} {more : List (Field × List Char)} {r : ReadLine}

/-- Only a lone marker is taken off an account that was read without one. -/
theorem ReadsPosting.lone_of_marked (h : ReadsPosting line indent account behind more)
    {behind' : List Char} (hmarked : marked.leaves (trimChars account ++ behind') ≠ []) :
    (∃ x, isStatus x = true ∧ trimChars account = [x]) ∧ behind' ≠ [] := by
  obtain ⟨name, hname, htrim, haccount⟩ := h.isAccount.exists_name
  rw [htrim] at hmarked ⊢
  obtain ⟨_, hmem⟩ := List.exists_mem_of_ne_nil _ hmarked
  obtain ⟨_, hmem, -⟩ := List.mem_flatMap.mp hmem
  obtain ⟨mid, hmid, hgap⟩ := List.mem_flatMap.mp hmem
  obtain ⟨_, _, ⟨_, ⟨x, hx, rfl, rfl⟩, rfl⟩, hsplit⟩ := exists_fits_of_mem_leaves hmid
  obtain ⟨gaps, rfl, hlength, hgaps⟩ := mem_leaves_run_iff.mp hgap
  obtain ⟨y, ys, rfl⟩ := List.exists_cons_of_length_pos hlength
  have hy : isGap y = true := accepted_class.mp hgaps y List.mem_cons_self
  obtain ⟨first, rest, rfl, hfirst, hrest⟩ := id hname
  simp only [List.cons_append, List.nil_append, List.cons.injEq] at hsplit
  obtain ⟨rfl, hsplit⟩ := hsplit
  cases rest with
  | nil =>
    refine ⟨⟨_, hx, rfl⟩, ?_⟩
    rintro rfl
    cases hsplit
  | cons z zs =>
    -- behind the marker there would be a space and more of the account
    rw [List.cons_append, List.cons.injEq] at hsplit
    obtain ⟨rfl, -⟩ := hsplit
    obtain ⟨rfl, hnext⟩ := (continuesAccount_iff.mp hrest.1).resolve_left fun hz => by
      rw [isGap_of_isAccountChar hz] at hy
      cases hy
    cases zs with
    | nil => cases hnext
    | cons w ws =>
      have hspaces : ∃ spaces, account = first :: ' ' :: w :: ws ++ spaces :=
        haccount.elim (fun h => ⟨[], h.trans (List.append_nil _).symm⟩) fun h => ⟨[' '], h.1⟩
      obtain ⟨spaces, hspaces⟩ := hspaces
      rw [h.not_status hspaces] at hx
      cases hx

/-- Neither the rule for comments nor the one for formats matches a posting. -/
theorem match?_eq_none_of_posting (hr : readLine? line = some r) (hkind : r.rule.kind = .posting) :
    LineRule.comment.pattern.match? line = none ∧ LineRule.format.pattern.match? line = none := by
  have htake : LineRule.table.takeWhile (fun rule => rule.kind ≠ r.rule.kind) =
      LineRule.table.take 15 := by
    rw [hkind]
    rfl
  constructor
  · exact match?_eq_none_of_readLineFrom hr (htake ▸ by simp [LineRule.table])
  · exact match?_eq_none_of_readLineFrom hr (htake ▸ by simp [LineRule.table])

/-- The account of a posting is not the name of a directive with a gap behind it when it is written
again either. -/
theorem ReadsPosting.not_format_again (h : ReadsPosting line indent account behind more)
    (hformat : ∀ x rest, isGap x = true → account ++ behind ≠ "format".toList ++ x :: rest)
    {amount : Option (List Char)} (hbehind : amount.isSome → behind.head?.any isGap = true) {x : Char}
    {rest : List Char} (hx : isGap x = true) :
    trimChars account ++ behindAccount amount ≠ "format".toList ++ x :: rest := by
  intro heq
  obtain ⟨name, hname, htrim, haccount⟩ := h.isAccount.exists_name
  rw [htrim] at heq
  -- a name that goes on behind the word goes on with a gap, so it is the word alone
  have hword : name = "format".toList := by
    rcases List.append_eq_append_iff.mp heq with ⟨left, hleft, hrest⟩ | ⟨left, rfl, hrest⟩
    · cases left with
      | nil => exact ((List.append_nil _).symm.trans hleft.symm)
      | cons y ys =>
        cases amount with
        | none => cases hrest
        | some cs =>
          obtain ⟨rfl, -⟩ := List.cons.inj hrest
          have hspace : ' ' ∈ "format".toList := by
            rw [hleft]
            simp
          exact absurd hspace (by decide)
    · cases left with
      | nil => exact List.append_nil _
      | cons y ys =>
        obtain ⟨rfl, -⟩ := List.cons.inj hrest
        rcases haccount with rfl | ⟨rfl, -⟩
        · exact absurd (by simp) (hformat x (ys ++ behind) hx)
        · exact absurd (by simp) (hformat x (ys ++ ' ' :: behind) hx)
  rw [hword] at haccount heq
  rcases haccount with rfl | ⟨rfl, -⟩
  · cases amount with
    | none => cases List.append_cancel_left heq
    | some cs =>
      have hgap := hbehind rfl
      cases behind with
      | nil => cases hgap
      | cons y ys => exact hformat y ys hgap rfl
  · exact hformat ' ' behind rfl (by simp)

/-- **A posting that is written again falls under the rule for postings**, if it had an amount before
where it has one now. -/
theorem ReadsPosting.readLine?_again (h : ReadsPosting line indent account behind more)
    (hbreak : '\n' ∉ line) (hr : readLine? line = some r) (hkind : r.rule.kind = .posting)
    {indent' : List Char} {amount : Option (List Char)} (hindent : indent' ≠ [])
    (hgaps : ∀ x ∈ indent', isGap x = true)
    (hbehind : amount.isSome → behind.head?.any isGap = true) {found : Match Field}
    (hfound : LineRule.posting.pattern.match?
      (indent' ++ (trimChars account ++ behindAccount amount)) = some found) :
    readLine? (indent' ++ (trimChars account ++ behindAccount amount)) =
      some ⟨15, .posting, found⟩ := by
  obtain ⟨hcomment, hformat⟩ := match?_eq_none_of_posting hr hkind
  obtain ⟨name, hname, htrim, haccount⟩ := h.isAccount.exists_name
  have hhead : (trimChars account).head? = account.head? := by
    rw [htrim]
    rcases haccount with rfl | ⟨rfl, -⟩
    · rfl
    · rw [List.head?_append_of_ne_nil _ hname.ne_nil]
  exact readLine?_of_posting hindent hgaps (htrim ▸ hname.in_front _)
    (hhead ▸ h.not_comment hbreak hcomment)
    (fun x rest hx => h.not_format_again (fun x rest => h.not_format hbreak hformat) hbehind hx)
    hfound

end Again

end Daybook.Journal
