import Daybook.Proofs.Builder.Outcome
import Mathlib.Data.List.Basic

/-!
# Builds line by line

The tokens of a text come line by line, each line closed by a token of its own, so a build of a text
is a sequence of handled lines and then the end.

* `Journal.Token.relocate`: a token on another line.  `Journal.ReadLine.tokens_relocate`: the number
  of a line shows in its tokens only as their place.
* `Journal.ReadLine.kind_ne_newline`: no token inside a line ends it.
* `Builder.outcome_feedTokens_line`: the tokens of a line are handled together.
* `Builder.outcome_feedLineTokens_cons`: a line, and then the lines after it.
* `Snapshot.ofText_eq`: the snapshot of a text is what is recorded when all its lines are handled and
  the last transaction is closed.
-/

namespace Daybook

open Journal

/-! ## The tokens of a line -/

namespace Journal

/-- The same token some lines further down. -/
def Token.relocate (n : Int) (tok : Token) : Token :=
  { tok with line := tok.line + n }

@[simp] theorem Token.kind_relocate (n : Int) (tok : Token) :
    (tok.relocate n).kind = tok.kind := rfl

@[simp] theorem Token.text_relocate (n : Int) (tok : Token) :
    (tok.relocate n).text = tok.text := rfl

theorem Field.tokenKind_ne_newline (field : Field) : field.tokenKind ≠ .newline := by
  cases field <;> decide

theorem amountTokens_relocate (symbolAlone : Bool) (cs : List Char) (line n : Int)
    (column : Nat) :
    amountTokens symbolAlone cs (line + n) column =
      (amountTokens symbolAlone cs line column).map (Token.relocate n) := by
  unfold amountTokens amountPieces
  split
  · rfl
  · split
    · dsimp only
      split
      · rfl
      · split <;> rfl
    · rfl

theorem taggedTokens_relocate (kind : TokenKind) (cs : List Char) (line n : Int) (column : Nat) :
    taggedTokens kind cs (line + n) column =
      (taggedTokens kind cs line column).map (Token.relocate n) := by
  rw [taggedTokens, taggedTokens, List.map_cons, List.map_flatMap]
  rfl

theorem fieldTokens_relocate (symbolAlone : Bool) (line n : Int) (field : Field) (cs : List Char)
    (column : Nat) :
    fieldTokens symbolAlone (line + n) field cs column =
      (fieldTokens symbolAlone line field cs column).map (Token.relocate n) := by
  unfold fieldTokens
  split
  · split <;> rfl
  · exact taggedTokens_relocate _ _ _ _ _
  · split
    · rfl
    · exact taggedTokens_relocate _ _ _ _ _
  · exact amountTokens_relocate _ _ _ _ _
  · split <;> rfl

/-- The number of a line shows in its tokens only as their place. -/
theorem ReadLine.tokens_relocate (r : ReadLine) (line n : Int) :
    r.tokens (line + n) = (r.tokens line).map (Token.relocate n) := by
  rw [ReadLine.tokens, ReadLine.tokens, List.map_flatMap]
  simp only [fieldTokens_relocate]

theorem kind_ne_newline_of_mem_amountTokens {symbolAlone : Bool} {cs : List Char} {line : Int}
    {column : Nat} {tok : Token} (h : tok ∈ amountTokens symbolAlone cs line column) :
    tok.kind ≠ .newline := by
  unfold amountTokens amountPieces at h
  split at h
  · cases h
  · split at h
    · dsimp only at h
      split at h
      · rw [List.mem_singleton.mp h]
        simp
      · split at h
        · rcases List.mem_pair.mp h with rfl | rfl <;> simp
        · rcases List.mem_pair.mp h with rfl | rfl <;> simp
    · dsimp only at h
      rw [List.mem_singleton.mp h, trimmedToken]
      dsimp only
      split <;> simp

theorem kind_ne_newline_of_mem_taggedTokens {kind : TokenKind} (hkind : kind ≠ .newline)
    {cs : List Char} {line : Int} {column : Nat} {tok : Token}
    (h : tok ∈ taggedTokens kind cs line column) : tok.kind ≠ .newline := by
  rw [taggedTokens, List.mem_cons, List.mem_flatMap] at h
  rcases h with rfl | ⟨m, -, h⟩
  · exact hkind
  · rcases List.mem_pair.mp h with rfl | rfl <;> simp [trimmedToken]

theorem kind_ne_newline_of_mem_fieldTokens {symbolAlone : Bool} {line : Int} {field : Field}
    {cs : List Char} {column : Nat} {tok : Token}
    (h : tok ∈ fieldTokens symbolAlone line field cs column) : tok.kind ≠ .newline := by
  have hfield := field.tokenKind_ne_newline
  unfold fieldTokens at h
  split at h
  · split at h
    · cases h
    · rw [List.mem_singleton.mp h]
      simp
  · exact kind_ne_newline_of_mem_taggedTokens (by simp) h
  · split at h
    · cases h
    · exact kind_ne_newline_of_mem_taggedTokens (by simp) h
  · exact kind_ne_newline_of_mem_amountTokens h
  · split at h
    · cases h
    · rw [List.mem_singleton.mp h]
      exact hfield

/-- No token inside a line ends it. -/
theorem ReadLine.kind_ne_newline {r : ReadLine} {line : Int} {tok : Token}
    (h : tok ∈ r.tokens line) : tok.kind ≠ .newline := by
  rw [ReadLine.tokens, List.mem_flatMap] at h
  obtain ⟨s, -, h⟩ := h
  exact kind_ne_newline_of_mem_fieldTokens h

end Journal

/-- Notes the fingerprint of a text that went in. -/
def Snapshot.addSource (s : Snapshot) (fingerprint : String) : Snapshot :=
  { s with sources := s.sources.insert fingerprint }

namespace Builder

open BuildM

/-! ## The build stays open -/

/-- No line finishes a build. -/
theorem reading_unfinished : Reading fun b => b.finished = false where
  tokens _ _ h := h
  warn _ _ h := h
  reading _ _ h := h
  record _ _ h := h

theorem keeps_unfinished_directive (name : String) (args : List Token) (line : Int) :
    Keeps (fun b => b.finished = false) (directive name args line) := by
  intro b a b' h hb
  cases directed_of_outcome h <;> exact hb

/-- An open build passes the check that it is open. -/
theorem outcome_checkOpen {α : Type} (k : PUnit → BuildM α) {b : Builder}
    (hb : b.finished = false) : outcome (checkOpen >>= k) b = outcome (k ()) b := by
  rw [checkOpen, bind_assoc, outcome_bind, outcome_get]
  simp only [Except.bind, hb, Bool.false_eq_true, if_false, pure_bind]

/-! ## One line after another -/

theorem feedTokens_append (tokens tokens' : List Token) :
    feedTokens (tokens ++ tokens') = feedTokens tokens >>= fun _ => feedTokens tokens' := by
  induction tokens with
  | nil => rfl
  | cons tok rest ih => rw [List.cons_append, feedTokens, feedTokens, ih, bind_assoc]

/-- Tokens inside a line wait for its end. -/
theorem outcome_feedTokens_inside {tokens : List Token} (h : ∀ tok ∈ tokens, tok.kind ≠ .newline)
    (b : Builder) :
    outcome (feedTokens tokens) b =
      .ok ((), { b with
        pending := b.pending ++ tokens
        fingerprint := tokens.foldl (fun text tok => text ++ tokenMark tok) b.fingerprint }) := by
  induction tokens generalizing b with
  | nil => rw [feedTokens, outcome_pure, List.append_nil, List.foldl_nil]
  | cons tok rest ih =>
    have htok : ¬tok.kind = .newline := h tok List.mem_cons_self
    rw [feedTokens, outcome_bind, feedToken, outcome_bind, outcome_modify]
    simp only [Except.bind, if_neg htok, outcome_modify]
    rw [ih fun t ht => h t (List.mem_cons_of_mem _ ht), List.append_assoc, List.singleton_append,
      List.foldl_cons]

/-- **The tokens of a line are handled together**, when the line ends. -/
theorem outcome_feedTokens_line {tokens : List Token} (h : ∀ tok ∈ tokens, tok.kind ≠ .newline)
    {ending : Token} (hending : ending.kind = .newline) {b : Builder} (hb : b.pending = []) :
    outcome (feedTokens (tokens ++ [ending])) b =
      (outcome (handleLine tokens ending.line) { b with
        pending := tokens
        fingerprint := (tokens ++ [ending]).foldl (fun text tok => text ++ tokenMark tok)
          b.fingerprint }).map fun r => ((), { r.2 with pending := [] }) := by
  have hinside : outcome (feedTokens tokens) b = .ok ((), { b with
      pending := tokens
      fingerprint := tokens.foldl (fun text tok => text ++ tokenMark tok) b.fingerprint }) := by
    rw [outcome_feedTokens_inside h, hb, List.nil_append]
  rw [feedTokens_append, outcome_bind, hinside, feedTokens, feedTokens, feedToken, bind_assoc,
    List.foldl_append]
  simp only [Except.bind, outcome_bind, outcome_modify, if_pos hending, outcome_get,
    List.foldl_cons, List.foldl_nil]
  cases outcome (handleLine tokens ending.line) _ with
  | error e => rfl
  | ok r => rfl

/-- The token that ends a line. -/
def lineEnd (line : Int) (length : Nat) : Token :=
  ⟨.newline, "\n", line, length⟩

/-- The state in which a line is handled: its tokens are there and have been noted. -/
def taking (b : Builder) (r : ReadLine) (line : Int) (length : Nat) : Builder :=
  { b with
    pending := r.tokens line
    fingerprint := (r.tokens line ++ [lineEnd line length]).foldl
      (fun text tok => text ++ tokenMark tok) b.fingerprint }

/-- A line of a text is handled as its tokens, and nothing of it stays behind for the lines after
it. -/
theorem outcome_feedLineTokens_cons (first : Int) (cs : List Char) (rest : List (List Char))
    {b : Builder} (hb : b.pending = []) :
    outcome (feedLineTokens first (cs :: rest)) b =
      match readLine? cs with
      | none => .error (.line .noRule)
      | some r =>
        (outcome (handleLine (r.tokens first) first) (b.taking r first cs.length)).bind fun done =>
          outcome (feedLineTokens (first + 1) rest) { done.2 with pending := [] } := by
  rw [feedLineTokens, lineTokens]
  cases readLine? cs with
  | none => rfl
  | some r =>
    have hline : outcome (feedTokens (r.tokens first ++ [lineEnd first cs.length])) b =
        (outcome (handleLine (r.tokens first) first) (b.taking r first cs.length)).map
          fun done => ((), { done.2 with pending := [] }) :=
      outcome_feedTokens_line (fun _ => r.kind_ne_newline) rfl hb
    rw [lineEnd] at hline
    dsimp only
    rw [outcome_bind, hline]
    cases outcome (handleLine (r.tokens first) first) (b.taking r first cs.length) with
    | error e => rfl
    | ok done => rfl

/-- Lines that are handled without an error, the first of them apart. -/
theorem feedLineTokens_cons_eq_ok {first : Int} {cs : List Char} {rest : List (List Char)}
    {b b' : Builder} (hb : b.pending = [])
    (h : outcome (feedLineTokens first (cs :: rest)) b = .ok ((), b')) :
    ∃ r b₁, readLine? cs = some r ∧
      outcome (handleLine (r.tokens first) first) (b.taking r first cs.length) = .ok ((), b₁) ∧
      outcome (feedLineTokens (first + 1) rest) { b₁ with pending := [] } = .ok ((), b') := by
  rw [outcome_feedLineTokens_cons first cs rest hb] at h
  cases hr : readLine? cs with
  | none =>
    rw [hr] at h
    cases h
  | some r =>
    rw [hr] at h
    dsimp only at h
    cases hline : outcome (handleLine (r.tokens first) first) (b.taking r first cs.length) with
    | error e =>
      rw [hline] at h
      cases h
    | ok done =>
      rw [hline] at h
      exact ⟨r, done.2, rfl, hline, h⟩

theorem feedLineTokens_append (first : Int) (lines lines' : List (List Char)) :
    feedLineTokens first (lines ++ lines') =
      feedLineTokens first lines >>= fun _ => feedLineTokens (first + lines.length) lines' := by
  induction lines generalizing first with
  | nil => simp [feedLineTokens]
  | cons cs rest ih =>
    rw [List.cons_append, feedLineTokens, feedLineTokens]
    cases lineTokens cs first with
    | error e => rfl
    | ok tokens =>
      have hfirst : first + ((cs :: rest).length : Int) = first + 1 + rest.length := by
        rw [List.length_cons]
        omega
      rw [hfirst, bind_assoc]
      simp only [ih]

/-- Nothing of the lines of a text stays behind. -/
theorem pending_of_feedLineTokens {first : Int} {lines : List (List Char)} {b b' : Builder}
    (hb : b.pending = []) (h : outcome (feedLineTokens first lines) b = .ok ((), b')) :
    b'.pending = [] := by
  induction lines generalizing first b with
  | nil =>
    cases h
    exact hb
  | cons cs rest ih =>
    obtain ⟨r, b₁, -, -, hrest⟩ := feedLineTokens_cons_eq_ok hb h
    exact ih rfl hrest

/-- Lines hand on what transactions hand on, if the directives on them do so too. -/
theorem Reading.keeps_lines {P : Builder → Prop} (hP : Reading P) {lines : List (List Char)}
    (hdir : ∀ cs ∈ lines, ∀ r, readLine? cs = some r → ∀ line name args,
      lineDirective? (r.tokens line) = some (name, args) → Keeps P (directive name args line))
    {first : Int} {b b' : Builder} (hpending : b.pending = [])
    (h : outcome (feedLineTokens first lines) b = .ok ((), b')) (hb : P b) : P b' := by
  induction lines generalizing first b with
  | nil =>
    cases h
    exact hb
  | cons cs rest ih =>
    obtain ⟨r, b₁, hr, hline, hrest⟩ := feedLineTokens_cons_eq_ok hpending h
    have hhandled : P b₁ :=
      hP.keeps_handleLine (hdir cs List.mem_cons_self r hr first) hline (hP.tokens _ _ hb)
    exact ih (fun cs' hcs' => hdir cs' (List.mem_cons_of_mem _ hcs')) rfl hrest
      (hP.tokens [] b₁.fingerprint hhandled)

/-! ## The end of a build -/

/-- The end of a build between two lines closes the last transaction and notes the source. -/
theorem outcome_finish {b : Builder} (hopen : b.finished = false) (hpending : b.pending = []) :
    outcome finish b =
      if b.stopsClosing then .error .dateOverflow
      else .ok (b.closed.snapshot.addSource b.closed.fingerprint,
        { b.closed.record (·.addSource b.closed.fingerprint) with finished := true }) := by
  rw [finish, outcome_bind, outcome_get]
  simp only [Except.bind, hopen, Bool.not_false, if_true, outcome_bind, outcome_get, hpending,
    outcome_pure, outcome_closeTransaction]
  by_cases hstop : b.stopsClosing
  · simp only [hstop, if_true]
  · simp only [hstop, outcome_modify]
    rfl

end Builder

/-- What is said of a reading that succeeds. -/
theorem exists_ok_of_map {ε α β : Type} {x : Except ε α} {f : α → β} {b : β}
    (h : x.map f = .ok b) : ∃ a, x = .ok a ∧ f a = b := by
  cases x with
  | error e => cases h
  | ok a => exact ⟨a, rfl, Except.ok.inj h⟩

/-- What is said of two readings together. -/
theorem exists_ok_of_bind_map {ε α β γ : Type} {x : Except ε α} {y : Except ε β} {f : α → β → γ}
    {c : γ} (h : (x.bind fun a => y.map (f a)) = .ok c) :
    ∃ a b, x = .ok a ∧ y = .ok b ∧ f a b = c := by
  cases x with
  | error e => cases h
  | ok a =>
    cases y with
    | error e => cases h
    | ok b => exact ⟨a, b, rfl, rfl, Except.ok.inj h⟩

/-- Options without a source and without a default year. -/
def BuildOptions.plain : BuildOptions where
  dateOrder := .dayFirst
  defaultYear := none
  source := none
  today := ⟨2024, 3, 15, by decide⟩

namespace Snapshot

open Builder BuildM

/-- **The snapshot of a text** is what is recorded when its lines are handled and the last
transaction is closed, with the fingerprint of the text. -/
theorem ofText_eq (options : BuildOptions) (text : String) :
    ofText options text =
      (outcome (feedLineTokens 0 (textLines text)) (Builder.start options)).bind fun r =>
        if r.2.stopsClosing then .error .dateOverflow
        else .ok (r.2.closed.snapshot.addSource r.2.closed.fingerprint) := by
  have hopen : (Builder.start options).finished = false := rfl
  rw [ofText, result_eq, feedLines, bind_assoc, outcome_checkOpen _ hopen, outcome_bind]
  cases hlines : outcome (feedLineTokens 0 (textLines text)) (Builder.start options) with
  | error e => rfl
  | ok r =>
    have hfinish := outcome_finish
      (reading_unfinished.keeps_feedLineTokens keeps_unfinished_directive _ _ hlines hopen)
      (pending_of_feedLineTokens rfl hlines)
    simp only [Except.bind, hfinish]
    split <;> rfl

theorem ofText_eq_ok_iff {options : BuildOptions} {text : String} {s : Snapshot} :
    ofText options text = .ok s ↔
      ∃ b, outcome (feedLineTokens 0 (textLines text)) (Builder.start options) = .ok ((), b) ∧
        b.stopsClosing = false ∧ s = b.closed.snapshot.addSource b.closed.fingerprint := by
  rw [ofText_eq]
  cases outcome (feedLineTokens 0 (textLines text)) (Builder.start options) with
  | error e =>
    constructor
    · intro h
      cases h
    · rintro ⟨b, h, -⟩
      cases h
  | ok r =>
    simp only [Except.bind]
    cases hstop : r.2.stopsClosing with
    | true =>
      constructor
      · intro h
        cases h
      · rintro ⟨b, h, hb, -⟩
        cases h
        rw [hstop] at hb
        cases hb
    | false =>
      constructor
      · intro h
        cases h
        exact ⟨r.2, rfl, hstop, rfl⟩
      · rintro ⟨b, h, -, rfl⟩
        cases h
        rfl

end Snapshot

end Daybook
