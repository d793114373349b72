import Daybook.Proofs.Journal.Form
import Daybook.Proofs.Pattern.Leaves

/-!
# Dates, status and code

The heading of a transaction is a date, perhaps a second one, a status and a code.  More than one
pattern takes a heading off a line, each with its own labels and its own idea of what may follow.

The dates end at the same place for all of them, because a date goes on as long as there are digits
and separators.  Status and code are optional, and there is at most one way to take off each of them;
so there are at most three texts that can be left, and patterns differ only in which of these they
accept first.

* `isDateChar`, `afterDates`, `eq_afterDates`: where the dates end.
* `statusPattern`, `codePattern`, `leaves_statusPattern`, `leaves_codePattern`: the marks, one by one.
* `MarkBefore`: two texts of which one has a mark more in front.
* `readings_of_marks`: of two readings of which the first accepts less, the first takes off the same
  marks or one mark less.
-/

namespace Daybook

open Text Calendar

namespace Journal

/-! ## Characters -/

theorem isGap_iff {c : Char} : isGap c = true ↔ c = ' ' ∨ c = '\t' := by
  rw [isGap, Bool.or_eq_true, beq_iff_eq, beq_iff_eq]

theorem isBlank_of_isGap {c : Char} (h : isGap c = true) : isBlank c = true := by
  rcases isGap_iff.mp h with rfl | rfl <;> decide

/-- Whether a character can be part of a date. -/
def isDateChar (c : Char) : Bool :=
  isDigit c || isDateSeparator c

theorem isBlank_of_isDateChar {x : Char} (h : isDateChar x = true) : isBlank x = false := by
  rcases Bool.or_eq_true_iff.mp h with h | h
  · exact isBlank_of_isDigit h
  · simp only [isDateSeparator, Bool.or_eq_true, beq_iff_eq] at h
    rcases h with (rfl | rfl) | rfl <;> decide

theorem isDateChar_of_isGap {c : Char} (h : isGap c = true) : isDateChar c = false := by
  rcases isGap_iff.mp h with rfl | rfl <;> decide

theorem ne_of_isGap {c d : Char} (h : isGap c = true) (hd : isGap d = false) : c ≠ d := by
  rintro rfl
  rw [h] at hd
  cases hd

theorem isGap_of_isStatus {c : Char} (h : isStatus c = true) : isGap c = false := by
  rcases isStatus_iff.mp h with rfl | rfl <;> decide

/-- A sign that does not occur is not found behind a gap. -/
theorem leaves_one_behind_gap {γ : Type} {ok : Char → Bool} {cs : List Char}
    (h : ∀ x ∈ cs, ok x = false) :
    ∀ rest ∈ (gap : Pattern γ).leaves cs, (Pattern.one ok : Pattern γ).leaves rest = [] := by
  intro rest hrest
  cases rest with
  | nil => rfl
  | cons x xs =>
    refine if_neg ?_
    rw [h x (Pattern.subset_of_mem_leaves hrest List.mem_cons_self)]
    decide

/-! ## Dates -/

/-- The dates of a header. -/
def datesPattern {γ : Type} : Pattern γ :=
  .seq datePattern (.opt (.seq (.one (· == '=')) datePattern))

/-- What stands behind the dates of a header. -/
def afterDates (line : List Char) : List Char :=
  match line.dropWhile isDateChar with
  | '=' :: rest => rest.dropWhile isDateChar
  | rest => rest

/-- Whether dates can end in front of a text. -/
def EndsDates (rest : List Char) : Prop :=
  ∀ c ∈ rest.head?, isDateChar c = false ∧ c ≠ '='

theorem isDateChar_of_fits_between {γ : Type} (least most : Nat) (cs : List Char)
    (fs : List (γ × List Char)) (h : (Pattern.between isDigit least most : Pattern γ).Fits cs fs) :
    ∀ x ∈ cs, isDateChar x = true := by
  intro x hx
  rw [isDateChar, (Pattern.fits_between.mp h).1 x hx, Bool.true_or]

theorem isDateChar_of_fits_separator {γ : Type} (cs : List Char) (fs : List (γ × List Char))
    (h : (dateSeparatorPattern : Pattern γ).Fits cs fs) : ∀ x ∈ cs, isDateChar x = true := by
  obtain ⟨y, hy, rfl, -⟩ := h
  intro x hx
  rw [List.mem_singleton.mp hx, isDateChar, hy, Bool.or_true]

/-- A date consists of date characters. -/
theorem isDateChar_of_fits {γ : Type} {taken : List Char} {fs : List (γ × List Char)}
    (h : (datePattern : Pattern γ).Fits taken fs) : ∀ x ∈ taken, isDateChar x = true := by
  rcases h with h | h | h <;>
  · refine Pattern.forall_mem_of_fits_all (fun q hq => ?_) h
    simp only [List.mem_cons, List.not_mem_nil, or_false] at hq
    rcases hq with rfl | rfl | rfl | rfl | rfl <;>
      first
      | exact isDateChar_of_fits_between _ _
      | exact isDateChar_of_fits_separator

/-- **The dates of a header end where no date goes on.** -/
theorem eq_afterDates {γ : Type} {line rest : List Char}
    (h : rest ∈ (datesPattern : Pattern γ).leaves line) (hrest : EndsDates rest) :
    rest = afterDates line := by
  obtain ⟨_, _, ⟨first, _, second, _, hfirst, hsecond, rfl, -⟩, rfl⟩ :=
    Pattern.exists_fits_of_mem_leaves h
  have hstop : ∀ x ∈ rest.head?, isDateChar x = false := fun x hx => (hrest x hx).1
  rw [afterDates, List.append_assoc]
  rcases hsecond with ⟨_, _, date, _, ⟨y, hy, rfl, -⟩, hdate, rfl, -⟩ | ⟨rfl, -⟩
  · cases beq_iff_eq.mp hy
    have hequals : ∀ x ∈ ('=' :: (date ++ rest)).head?, isDateChar x = false := by
      rintro x ⟨⟩
      decide
    rw [List.singleton_append, List.cons_append,
      dropWhile_append_of_stop (isDateChar_of_fits hfirst) hequals]
    exact (dropWhile_append_of_stop (isDateChar_of_fits hdate) hstop).symm
  · rw [List.nil_append, dropWhile_append_of_stop (isDateChar_of_fits hfirst) hstop]
    cases rest with
    | nil => rfl
    | cons x xs =>
      have hx : x ≠ '=' := (hrest x rfl).2
      split
      · rename_i heq
        exact absurd (List.cons.inj heq).1 hx
      · rfl

/-! ## Status and code -/

/-- A status marker behind a gap. -/
def statusPattern {γ : Type} : Pattern γ := .seq someGap (.one isStatus)

/-- A code behind a gap. -/
def codePattern {γ : Type} : Pattern γ :=
  .all [someGap, .one (· == '('), .many (· != ')') 0, .one (· == ')')]

/-- The status and the code of a header, each of them or not. -/
def marksPattern {γ : Type} : Pattern γ := .seq (.opt statusPattern) (.opt codePattern)

section Marks

variable {γ : Type}

/-- A gap in front of a pattern that does not start with a gap ends at one place. -/
theorem leaves_someGap_seq {q : Pattern γ} (hq : ∀ x xs, isGap x = true → q.leaves (x :: xs) = [])
    (line : List Char) :
    (Pattern.seq someGap q).leaves line = [] ∨
      ∃ gaps rest, line = gaps ++ rest ∧ gaps ≠ [] ∧ (∀ c ∈ gaps, isGap c = true) ∧
        (Pattern.seq someGap q).leaves line = q.leaves rest := by
  rw [someGap, Pattern.leaves_many_one_seq hq]
  by_cases hhead : line.head?.any isGap = true
  · refine .inr ⟨line.takeWhile isGap, line.dropWhile isGap,
      List.takeWhile_append_dropWhile.symm, ?_, fun c hc => List.mem_takeWhile_imp hc,
      if_pos hhead⟩
    cases line with
    | nil => cases hhead
    | cons x xs =>
      have hx : isGap x = true := hhead
      rw [List.takeWhile_cons_of_pos hx]
      exact List.cons_ne_nil _ _
  · exact .inl (if_neg hhead)

/-- There is at most one way to take off a status. -/
theorem leaves_statusPattern (line : List Char) :
    (statusPattern : Pattern γ).leaves line = [] ∨
      ∃ gaps x rest, line = gaps ++ x :: rest ∧ gaps ≠ [] ∧ (∀ c ∈ gaps, isGap c = true) ∧
        isStatus x = true ∧ (statusPattern : Pattern γ).leaves line = [rest] := by
  have hgap : ∀ x xs, isGap x = true →
      (Pattern.one isStatus : Pattern γ).leaves (x :: xs) = [] := by
    intro x xs hx
    refine if_neg fun hstatus => ?_
    rw [isGap_of_isStatus hstatus] at hx
    cases hx
  rcases leaves_someGap_seq hgap line with h | ⟨gaps, rest, hline, hne, hgaps, h⟩
  · exact .inl h
  · cases rest with
    | nil => exact .inl h
    | cons x rest =>
      by_cases hx : isStatus x = true
      · exact .inr ⟨gaps, x, rest, hline, hne, hgaps, hx, h.trans (if_pos hx)⟩
      · exact .inl (h.trans (if_neg hx))

/-- There is at most one way to take off a code. -/
theorem leaves_codePattern (line : List Char) :
    (codePattern : Pattern γ).leaves line = [] ∨
      ∃ gaps inner rest, line = gaps ++ '(' :: (inner ++ ')' :: rest) ∧ gaps ≠ [] ∧
        (∀ c ∈ gaps, isGap c = true) ∧ (codePattern : Pattern γ).leaves line = [rest] := by
  have hinner : ∀ x xs, (x != ')') = true →
      (Pattern.one (· == ')') : Pattern γ).leaves (x :: xs) = [] := fun x xs hx =>
    if_neg fun h => bne_iff_ne.mp hx (beq_iff_eq.mp h)
  -- behind the opening bracket the inner run takes everything up to the first closing one
  have hbracket : ∀ xs, (Pattern.all [.one (· == '('), .many (· != ')') 0, .one (· == ')')] :
      Pattern γ).leaves ('(' :: xs) =
        (Pattern.one (· == ')') : Pattern γ).leaves (xs.dropWhile (· != ')')) := fun xs =>
    (List.append_nil _).trans (Pattern.leaves_many_seq hinner xs)
  have hother : ∀ x xs, x ≠ '(' → (Pattern.all [.one (· == '('), .many (· != ')') 0,
      .one (· == ')')] : Pattern γ).leaves (x :: xs) = [] := by
    intro x xs hx
    have hone : (Pattern.one (· == '(') : Pattern γ).leaves (x :: xs) = [] :=
      if_neg fun h => hx (beq_iff_eq.mp h)
    exact congrArg (List.flatMap _) hone
  rcases leaves_someGap_seq (fun x xs hx => hother x xs (ne_of_isGap hx (by decide))) line with
    h | ⟨gaps, rest, hline, hne, hgaps, h⟩
  · exact .inl h
  · cases rest with
    | nil => exact .inl h
    | cons x xs =>
      by_cases hx : x = '('
      · subst hx
        rw [hbracket] at h
        have hsplit := (List.takeWhile_append_dropWhile (p := (· != ')')) (l := xs)).symm
        cases hclose : xs.dropWhile (· != ')') with
        | nil =>
          rw [hclose] at h
          exact .inl h
        | cons y rest =>
          have hy : y = ')' := by
            have hhead := List.head?_dropWhile_not (· != ')') xs
            simpa [hclose] using hhead
          rw [hclose, hy] at hsplit h
          exact .inr ⟨gaps, _, rest, hsplit ▸ hline, hne, hgaps, h⟩
      · exact .inl (h.trans (hother x xs hx))

/-- Marks are taken off a text that starts with a gap. -/
theorem head_of_mem_marksPattern {line rest : List Char}
    (h : rest ∈ (marksPattern : Pattern γ).leaves line) :
    rest = line ∨ line.head?.any isGap = true := by
  have hgap : ∀ {taken more : List Char} {fs : List (γ × List Char)} {q : Pattern γ},
      (Pattern.seq someGap q).Fits taken fs → (taken ++ more).head?.any isGap = true := by
    rintro taken more fs q ⟨gaps, _, behind, _, hgaps, -, rfl, -⟩
    obtain ⟨hgap, hlength, -⟩ := Pattern.fits_many.mp hgaps
    obtain ⟨x, xs, rfl⟩ := List.exists_cons_of_length_pos hlength
    exact hgap x List.mem_cons_self
  obtain ⟨_, _, ⟨status, _, code, _, hstatus, hcode, rfl, -⟩, rfl⟩ :=
    Pattern.exists_fits_of_mem_leaves h
  rw [List.append_assoc]
  rcases hstatus with hstatus | ⟨rfl, -⟩
  · exact .inr (hgap hstatus)
  · rw [List.nil_append]
    rcases hcode with hcode | ⟨rfl, -⟩
    · exact .inr (hgap hcode)
    · exact .inl rfl

/-- What is left when one mark less is taken off. -/
inductive MarkBefore (rest : List Char) : List Char → Prop where
  | status {gaps : List Char} {x : Char} (hne : gaps ≠ []) (hgaps : ∀ c ∈ gaps, isGap c = true)
    (hx : isStatus x = true) : MarkBefore rest (gaps ++ x :: rest)
  | code {gaps inner : List Char} (hne : gaps ≠ []) (hgaps : ∀ c ∈ gaps, isGap c = true) :
    MarkBefore rest (gaps ++ '(' :: (inner ++ ')' :: rest))

/-- A text starts with a status or with a code, not with both. -/
theorem leaves_codePattern_eq_nil {gaps rest : List Char} {x : Char}
    (hgaps : ∀ c ∈ gaps, isGap c = true) (hx : isStatus x = true) :
    (codePattern : Pattern γ).leaves (gaps ++ x :: rest) = [] := by
  rcases leaves_codePattern (γ := γ) (gaps ++ x :: rest) with
    h | ⟨gaps', inner, rest', h, -, hgaps', -⟩
  · exact h
  · have hstatus : ∀ y ∈ (x :: rest).head?, isGap y = false := by
      rintro y ⟨⟩
      exact isGap_of_isStatus hx
    have hcode : ∀ y ∈ ('(' :: (inner ++ ')' :: rest')).head?, isGap y = false := by
      rintro y ⟨⟩
      decide
    have hdrop := dropWhile_append_of_stop hgaps hstatus
    rw [h, dropWhile_append_of_stop hgaps' hcode] at hdrop
    rw [← (List.cons.inj hdrop).1] at hx
    exact absurd hx (by decide)

/-- The first of two members in two readings, where what the first reading accepts is accepted by the
second. -/
theorem first_of_pair {α : Type} {first second : α → Bool} {a b c d : α}
    (himp : first a = true → second a = true) (hfirst : [a, b].find? first = some c)
    (hsecond : [a, b].find? second = some d) : c = d ∨ (first a = false ∧ d = a ∧ c = b) := by
  rw [List.find?_cons] at hfirst hsecond
  cases ha : first a with
  | true =>
    rw [ha] at hfirst
    rw [himp ha] at hsecond
    exact .inl (Option.some.inj (hfirst.symm.trans hsecond))
  | false =>
    rw [ha] at hfirst
    have hc : c = b := (List.mem_singleton.mp (List.mem_of_find?_eq_some hfirst))
    cases hb : second a with
    | true =>
      rw [hb] at hsecond
      exact .inr ⟨rfl, (Option.some.inj hsecond).symm, hc⟩
    | false =>
      rw [hb] at hsecond
      exact .inl (hc.trans (List.mem_singleton.mp (List.mem_of_find?_eq_some hsecond)).symm)

/-- **Where status and code end in both readings.**  If whatever the first reading accepts is accepted
by the second, and the first accepts whatever starts with a code, then both readings take off the same
marks, or the first one takes off one mark less because it does not accept what the second leaves. -/
theorem readings_of_marks {first second : List Char → Bool} {line rest rest' : List Char}
    (himp : ∀ cs ∈ (marksPattern : Pattern γ).leaves line, first cs = true → second cs = true)
    (hcode : ∀ gaps inner cs, gaps ≠ [] → (∀ c ∈ gaps, isGap c = true) →
      gaps ++ '(' :: (inner ++ ')' :: cs) ∈ (marksPattern : Pattern γ).leaves line →
        first (gaps ++ '(' :: (inner ++ ')' :: cs)) = true)
    (hfirst : ((marksPattern : Pattern γ).leaves line).find? first = some rest)
    (hsecond : ((marksPattern : Pattern γ).leaves line).find? second = some rest') :
    rest = rest' ∨ (first rest' = false ∧ MarkBefore rest' rest) := by
  have hleaves : (marksPattern : Pattern γ).leaves line =
      ((statusPattern : Pattern γ).leaves line ++ [line]).flatMap
        fun cs => (codePattern : Pattern γ).leaves cs ++ [cs] := rfl
  rw [hleaves] at himp hcode hfirst hsecond
  rcases leaves_statusPattern (γ := γ) line with
    hstatus | ⟨gaps, x, behind, rfl, hne, hgaps, hx, hstatus⟩
  · rw [hstatus, List.nil_append, List.flatMap_singleton] at himp hcode hfirst hsecond
    rcases leaves_codePattern (γ := γ) line with
      hnone | ⟨gaps, inner, behind, rfl, hne, hgaps, hone⟩
    · -- no mark at all
      rw [hnone, List.nil_append] at hfirst hsecond
      exact .inl ((List.mem_singleton.mp (List.mem_of_find?_eq_some hfirst)).trans
        (List.mem_singleton.mp (List.mem_of_find?_eq_some hsecond)).symm)
    · -- a code alone
      rw [hone, List.singleton_append] at himp hfirst hsecond
      rcases first_of_pair (himp _ List.mem_cons_self) hfirst hsecond with h | ⟨h, rfl, rfl⟩
      · exact .inl h
      · exact .inr ⟨h, .code hne hgaps⟩
  · have hwhole : (codePattern : Pattern γ).leaves (gaps ++ x :: behind) = [] :=
      leaves_codePattern_eq_nil hgaps hx
    rw [hstatus, List.singleton_append, List.flatMap_cons, List.flatMap_singleton, hwhole,
      List.nil_append] at himp hcode hfirst hsecond
    rcases leaves_codePattern (γ := γ) behind with
      hnone | ⟨gaps', inner, behind', rfl, hne', hgaps', hone⟩
    · -- a status alone
      rw [hnone, List.nil_append, List.singleton_append] at himp hfirst hsecond
      rcases first_of_pair (himp _ List.mem_cons_self) hfirst hsecond with h | ⟨h, rfl, rfl⟩
      · exact .inl h
      · exact .inr ⟨h, .status hne hgaps hx⟩
    · -- both: the text that starts with the code is accepted, so the line is not tried
      rw [hone] at himp hcode hfirst hsecond
      have haccept := hcode gaps' inner behind' hne' hgaps' (by simp)
      have hpair : ∀ {p : List Char → Bool} {a b c : List Char}, p b = true →
          ([a] ++ [b] ++ [c]).find? p = [a, b].find? p := by
        intro p a b c hb
        cases ha : p a <;> simp [ha, hb]
      rw [hpair haccept] at hfirst
      rw [hpair (himp _ (by simp) haccept)] at hsecond
      rcases first_of_pair (himp _ (by simp)) hfirst hsecond with h | ⟨h, rfl, rfl⟩
      · exact .inl h
      · exact .inr ⟨h, .code hne' hgaps'⟩

end Marks

end Journal

end Daybook
