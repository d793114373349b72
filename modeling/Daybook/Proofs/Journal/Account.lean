import Daybook.Proofs.Amount.Split
import Daybook.Proofs.Journal.Marks

/-!
# Accounts in lines

An account is a row of words that are joined by single spaces, so where it ends depends on what
follows it.  As a field it can end anywhere that leaves the rest of the line readable, even behind
one of its spaces; its name is what trimming leaves, and that is again a row of words.

* `IsAccountText`: whether a text is an account in front of another one.
* `mem_leaves_accountPattern_iff`, `mem_leaves_accountField_iff`: where an account and its field can end.
* `prefers_accountPattern`, `prefers_accountField`: where they do end if nothing prevents it.
* `IsAccountText.exists_name`: the name in the field of an account.
-/

namespace Daybook.Journal

open Text Pattern

/-- The field of the account of a posting. -/
def accountField {γ : Type} : Pattern γ :=
  .seq (.opt (.one fun c => c == '(' || c == '[')) accountPattern

/-- Whether a text is an account in front of `rest`. -/
def IsAccountText (cs rest : List Char) : Prop :=
  ∃ x more, cs = x :: more ∧ isAccountChar x = true ∧ Accepted continuesAccount more rest

theorem isAccountText_cons {x : Char} {more rest : List Char} :
    IsAccountText (x :: more) rest ↔
      isAccountChar x = true ∧ Accepted continuesAccount more rest := by
  constructor
  · rintro ⟨_, _, heq, h⟩
    obtain ⟨rfl, rfl⟩ := List.cons.inj heq
    exact h
  · exact fun h => ⟨x, more, rfl, h⟩

instance : ∀ cs rest, Decidable (IsAccountText cs rest)
  | [], _ => .isFalse nofun
  | _ :: _, _ => decidable_of_iff' _ isAccountText_cons

section

variable {γ : Type} {x : Char} {cs more rest rest' name : List Char}

/-! ## Account characters -/

theorem isBlank_of_isAccountChar (h : isAccountChar x = true) : isBlank x = false := by
  simpa using (Bool.and_eq_true_iff.mp h).1

theorem isGap_of_isAccountChar (h : isAccountChar x = true) : isGap x = false := by
  by_contra hgap
  have hno := isBlank_of_isAccountChar h
  rw [isBlank_of_isGap (by simpa using hgap)] at hno
  cases hno

theorem ne_semicolon_of_isAccountChar (h : isAccountChar x = true) : x ≠ ';' := by
  simpa using (Bool.and_eq_true_iff.mp h).2

theorem isAccountChar_of_bracket (h : (x == '(' || x == '[') = true) : isAccountChar x = true := by
  rw [Bool.or_eq_true, beq_iff_eq, beq_iff_eq] at h
  rcases h with rfl | rfl <;> decide

theorem continuesAccount_iff :
    continuesAccount x rest = true ↔
      isAccountChar x = true ∨ x = ' ' ∧ rest.head?.any isAccountChar = true := by
  rw [continuesAccount, Bool.or_eq_true, Bool.and_eq_true, beq_iff_eq]

theorem continuesAccount_of_isAccountChar (h : isAccountChar x = true) (rest : List Char) :
    continuesAccount x rest = true :=
  continuesAccount_iff.mpr (.inl h)

/-! ## Runs of account characters -/

theorem accepted_append {ok : Char → List Char → Bool} {first second : List Char} :
    Accepted ok (first ++ second) rest ↔
      Accepted ok first (second ++ rest) ∧ Accepted ok second rest := by
  induction first with
  | nil => exact (and_iff_right trivial).symm
  | cons x xs ih => rw [List.cons_append, Accepted, Accepted, ih, List.append_assoc, and_assoc]

/-- What follows a run matters only for a space at its end. -/
theorem accepted_of_head (h : Accepted continuesAccount cs rest)
    (hhead : rest.head?.any isAccountChar = true → rest'.head?.any isAccountChar = true) :
    Accepted continuesAccount cs rest' := by
  induction cs with
  | nil => trivial
  | cons x xs ih =>
    obtain ⟨hx, hxs⟩ := h
    refine ⟨continuesAccount_iff.mpr ((continuesAccount_iff.mp hx).imp_right ?_), ih hxs⟩
    rintro ⟨rfl, hnext⟩
    refine ⟨rfl, ?_⟩
    cases xs with
    | nil => exact hhead hnext
    | cons y ys => exact hnext

/-- A row of words can stand in front of anything. -/
theorem IsAccountText.in_front (h : IsAccountText cs []) (rest : List Char) :
    IsAccountText cs rest := by
  obtain ⟨x, more, rfl, hx, hmore⟩ := h
  exact ⟨x, more, rfl, hx, accepted_of_head hmore nofun⟩

theorem IsAccountText.ne_nil (h : IsAccountText cs rest) : cs ≠ [] := by
  obtain ⟨x, more, rfl, -⟩ := h
  exact List.cons_ne_nil x more

theorem IsAccountText.head (h : IsAccountText cs rest) : ∀ x ∈ cs.head?, isAccountChar x = true := by
  obtain ⟨x, more, rfl, hx, -⟩ := h
  rintro _ ⟨⟩
  exact hx

theorem mem_of_accepted (h : Accepted continuesAccount cs rest) (hx : x ∈ cs) :
    isAccountChar x = true ∨ x = ' ' := by
  induction cs with
  | nil => cases hx
  | cons y ys ih =>
    rcases List.mem_cons.mp hx with rfl | hx
    · exact (continuesAccount_iff.mp h.1).imp_right And.left
    · exact ih h.2 hx

/-- An account holds account characters and spaces only. -/
theorem IsAccountText.mem (h : IsAccountText cs rest) (hx : x ∈ cs) :
    isAccountChar x = true ∨ x = ' ' := by
  obtain ⟨y, more, rfl, hy, hmore⟩ := h
  rcases List.mem_cons.mp hx with rfl | hx
  · exact .inl hy
  · exact mem_of_accepted hmore hx

/-- A row of words does not end with a space. -/
theorem IsAccountText.noBlankEnds (h : IsAccountText cs []) : Amount.NoBlankEnds cs where
  head x hx := isBlank_of_isAccountChar (h.head x hx)
  last x hx := by
    obtain ⟨y, more, rfl, hy, hmore⟩ := h
    rcases List.eq_nil_or_concat' more with rfl | ⟨first, last, rfl⟩
    · cases hx
      exact isBlank_of_isAccountChar hy
    · rw [← List.cons_append, List.getLast?_concat] at hx
      cases hx
      have hlast := (accepted_append.mp hmore).2.1
      rcases continuesAccount_iff.mp hlast with hlast | ⟨-, hnext⟩
      · exact isBlank_of_isAccountChar hlast
      · cases hnext

/-- **The name in the field of an account**: the field without a space at its end. -/
theorem IsAccountText.exists_name (h : IsAccountText cs rest) :
    ∃ name, IsAccountText name [] ∧ trimChars cs = name ∧
      (cs = name ∨ cs = name ++ [' '] ∧ rest.head?.any isAccountChar = true) := by
  obtain ⟨x, more, rfl, hx, hmore⟩ := h
  -- a field that ends with an account character is a name already
  have hself : ∀ {name}, IsAccountText name [] → trimChars name = name :=
    fun hname => hname.noBlankEnds.trimChars_eq
  rcases List.eq_nil_or_concat' more with rfl | ⟨first, last, rfl⟩
  · have hname : IsAccountText [x] [] := ⟨x, [], rfl, hx, trivial⟩
    exact ⟨[x], hname, hself hname, .inl rfl⟩
  · obtain ⟨hfirst, hlast, -⟩ := accepted_append.mp hmore
    rcases continuesAccount_iff.mp hlast with hlast | ⟨rfl, hnext⟩
    · have hname : IsAccountText (x :: (first ++ [last])) [] :=
        ⟨x, _, rfl, hx, accepted_append.mpr ⟨accepted_of_head hfirst id,
          continuesAccount_of_isAccountChar hlast [], trivial⟩⟩
      exact ⟨_, hname, hself hname, .inl rfl⟩
    · have hname : IsAccountText (x :: first) [] :=
        ⟨x, first, rfl, hx, accepted_of_head hfirst fun hspace =>
          absurd (show isAccountChar ' ' = true from hspace) (by decide)⟩
      refine ⟨_, hname, ?_, .inr ⟨rfl, hnext⟩⟩
      rw [← List.cons_append, trimChars_append_of_blank_right (by simp; decide), hself hname]

/-! ## Where the field of an account ends -/

/-- Where an account can end. -/
theorem mem_leaves_accountPattern_iff :
    rest ∈ (accountPattern : Pattern γ).leaves cs ↔ ∃ taken, cs = taken ++ rest ∧
      IsAccountText taken rest := by
  rw [accountPattern, leaves, List.mem_flatMap]
  constructor
  · rintro ⟨mid, hmid, hrest⟩
    obtain ⟨more, rfl, -, hmore⟩ := mem_leaves_run_iff.mp hrest
    cases cs with
    | nil => cases hmid
    | cons x xs =>
      rw [leaves] at hmid
      split at hmid
      · rename_i hx
        cases List.mem_singleton.mp hmid
        exact ⟨x :: more, rfl, x, more, rfl, hx, hmore⟩
      · cases hmid
  · rintro ⟨_, rfl, x, more, rfl, hx, hmore⟩
    refine ⟨more ++ rest, ?_, mem_leaves_run_iff.mpr ⟨more, rfl, Nat.zero_le _, hmore⟩⟩
    rw [List.cons_append, leaves, if_pos hx]
    exact List.mem_singleton_self _

/-- **Where the field of an account can end.**  Its bracket is an account character as well. -/
theorem mem_leaves_accountField_iff :
    rest ∈ (accountField : Pattern γ).leaves cs ↔ ∃ taken, cs = taken ++ rest ∧
      IsAccountText taken rest := by
  rw [accountField, leaves_seq_opt, List.mem_append, mem_leaves_accountPattern_iff,
    or_iff_right_of_imp]
  intro h
  obtain ⟨mid, hmid, hrest⟩ := List.mem_flatMap.mp h
  obtain ⟨_, rfl, y, more, rfl, hy, hmore⟩ := mem_leaves_accountPattern_iff.mp hrest
  cases cs with
  | nil => cases hmid
  | cons x xs =>
    rw [leaves] at hmid
    split at hmid
    · rename_i hx
      cases List.mem_singleton.mp hmid
      exact ⟨x :: y :: more, rfl, x, _, rfl, isAccountChar_of_bracket hx,
        continuesAccount_of_isAccountChar hy _, hmore⟩
    · cases hmid

/-- An account is taken as a whole. -/
theorem prefers_accountPattern (h : IsAccountText name rest) (hstop : Stops continuesAccount rest)
    (pos : Nat) (spans : List (Span γ)) :
    (accountPattern : Pattern γ).Prefers ⟨pos, name ++ rest, spans⟩
      ⟨pos + name.length, rest, spans⟩ := by
  obtain ⟨x, more, rfl, hx, hmore⟩ := h
  have hway := prefers_seq (prefers_one isAccountChar hx pos spans)
    (prefers_run hmore hstop (Nat.zero_le _) (pos + 1) spans)
  rw [Nat.add_assoc, Nat.add_comm 1] at hway
  exact hway

/-- **Where the field of an account ends**, if the rest can be read from there. -/
theorem prefers_accountField (h : IsAccountText name rest) (hstop : Stops continuesAccount rest)
    (pos : Nat) (spans : List (Span γ)) :
    (accountField : Pattern γ).Prefers ⟨pos, name ++ rest, spans⟩
      ⟨pos + name.length, rest, spans⟩ := by
  obtain ⟨x, more, rfl, hx, hmore⟩ := h
  by_cases hbracket : (x == '(' || x == '[') = true ∧ ∃ y ys, more = y :: ys ∧ isAccountChar y = true
  · obtain ⟨hbracket, y, ys, rfl, hy⟩ := hbracket
    have hway := prefers_seq (prefers_one (fun c => c == '(' || c == '[') hbracket pos spans)
      (prefers_accountPattern ⟨y, ys, rfl, hy, hmore.2⟩ hstop (pos + 1) spans)
    rw [Nat.add_assoc, Nat.add_comm 1] at hway
    exact prefers_opt hway
  · refine prefers_opt_none ?_
      (prefers_accountPattern ⟨x, more, rfl, hx, hmore⟩ hstop pos spans)
    -- behind the bracket there is no account
    refine leaves_seq_eq_nil_iff.mpr fun mid hmid => ?_
    rw [List.cons_append, leaves] at hmid
    split at hmid
    · rename_i hx'
      cases List.mem_singleton.mp hmid
      refine leaves_seq_of_eq_nil ?_
      cases hmore' : more ++ rest with
      | nil => rfl
      | cons y ys =>
        refine if_neg fun hy => ?_
        cases more with
        | nil =>
          rw [List.nil_append] at hmore'
          subst hmore'
          have hno : continuesAccount y ys = false := hstop
          rw [continuesAccount_of_isAccountChar hy] at hno
          cases hno
        | cons z zs =>
          obtain ⟨rfl, -⟩ := List.cons.inj hmore'
          exact hbracket ⟨hx', z, zs, rfl, hy⟩
    · cases hmid

/-! ## Behind an account -/

/-- A gap that is wide enough to end an account is taken as a whole. -/
theorem takesText_separator (hgaps : ∀ x ∈ cs, isGap x = true)
    (hwide : cs.head? = some '\t' ∨ [' ', ' '] <+: cs) (hrest : ∀ x ∈ rest.head?, isGap x = false) :
    (Pattern.seq separator gap : Pattern γ).TakesText cs rest := by
  rw [separator, takesText_either_seq]
  rcases hwide with htab | ⟨more, rfl⟩
  · obtain ⟨more, rfl⟩ := List.head?_eq_some_iff.mp htab
    have hmore : ∀ x ∈ more, isGap x = true := fun x hx => hgaps x (List.mem_cons_of_mem _ hx)
    exact takesText_either_left (takesText_seq (s := ['\t']) (takesText_one rfl)
      (takesText_many hmore hrest (Nat.zero_le _)))
  · -- the separator takes all spaces, and the gap what follows them
    have hspace : ∀ x, (x == ' ') = true → isGap x = true := fun x hx => by rw [isGap, hx, Bool.true_or]
    have htwo : [' ', ' '].length ≤ ((' ' :: ' ' :: more).takeWhile (· == ' ')).length :=
      Nat.le_add_left 2 _
    exact takesText_either_right rfl (takesText_many_seq_many hspace hgaps hrest htwo)

end

end Daybook.Journal
