import Daybook.Proofs.Builder.Effect
import Mathlib.Data.List.Perm.Basic
import Mathlib.Data.List.ReduceOption

/-!
# Transactions and their lines

A build reads a text line by line and never looks back, but what it records can be said about the
text as a whole: every line that starts a transaction gives a transaction or a warning, and the
postings of a transaction are those of its block, the run of indented lines behind its first line.

* `Journal.headerLines`, `Journal.block`, `Journal.postingLines`: the lines that start transactions,
  the lines that belong to one, and those among them that are postings.
* `Builder.Reads`, `Builder.Recorded`: what a line is read as, and a transaction with the postings of
  its block.
* `Builder.Account`: what is known of the transactions while lines are read;
  `Builder.account_of_feedLineTokens`: it holds after any number of lines.
* `Snapshot.Accounted`: no transaction is lost or duplicated, and no posting either.
-/

namespace Daybook

open Calendar Journal Text

/-! ## Lines that belong together -/

namespace Journal

/-- The kind of a line. -/
def kindAt (lines : List (List Char)) (n : Nat) : Option LineKind :=
  (lines[n]?.bind readLine?).map (·.rule.kind)

/-- The numbers of the lines that start transactions. -/
def headerLines (lines : List (List Char)) : List Nat :=
  (List.range lines.length).filter fun n => kindAt lines n = some .transaction

/-- The block behind a line: the longest run of indented lines that are not blank. -/
def block (lines : List (List Char)) (n : Nat) : List (List Char) :=
  (lines.drop (n + 1)).takeWhile Builder.isIndented

/-- The numbers of the postings in the block behind a line. -/
def postingLines (lines : List (List Char)) (n : Nat) : List Nat :=
  (List.range' (n + 1) (block lines n).length).filter fun m => kindAt lines m = some .posting

variable {lines : List (List Char)} {cs : List Char} {n m : Nat}

theorem kindAt_append_of_lt (h : m < lines.length) : kindAt (lines ++ [cs]) m = kindAt lines m := by
  rw [kindAt, kindAt, List.getElem?_append_left h]

theorem kindAt_append_length (lines : List (List Char)) (cs : List Char) :
    kindAt (lines ++ [cs]) lines.length = (readLine? cs).map (·.rule.kind) := by
  rw [kindAt, List.getElem?_concat_length, Option.bind_some]

theorem lt_length_of_mem_headerLines (h : n ∈ headerLines lines) : n < lines.length :=
  List.mem_range.mp (List.mem_of_mem_filter h)

/-- One more line starts one more transaction, or none. -/
theorem headerLines_append (lines : List (List Char)) {r : ReadLine} (hr : readLine? cs = some r) :
    headerLines (lines ++ [cs]) =
      headerLines lines ++ if r.rule.kind = .transaction then [lines.length] else [] := by
  have hlength : (lines ++ [cs]).length = lines.length + 1 := by simp
  have hlast : kindAt (lines ++ [cs]) lines.length = some r.rule.kind := by
    rw [kindAt_append_length, hr, Option.map_some]
  rw [headerLines, headerLines, hlength, List.range_succ, List.filter_append]
  congr 1
  · refine List.filter_congr fun m hm => ?_
    rw [kindAt_append_of_lt (List.mem_range.mp hm)]
  · simp only [List.filter_cons, List.filter_nil, hlast, Option.some.injEq, decide_eq_true_eq]

/-- A line that is not indented ends the blocks before it, and so does one behind an ended block. -/
theorem block_append_of_ended
    (h : Builder.isIndented cs = false ∨
      ∃ x ∈ lines.drop (n + 1), Builder.isIndented x = false)
    (hn : n < lines.length) : block (lines ++ [cs]) n = block lines n := by
  rw [block, block, List.drop_append_of_le_length hn, List.takeWhile_append]
  split
  · rename_i hall
    rcases h with hcs | ⟨x, hx, hindent⟩
    · have hself : (lines.drop (n + 1)).takeWhile Builder.isIndented = lines.drop (n + 1) :=
        (List.takeWhile_prefix _).eq_of_length hall
      rw [List.takeWhile_cons, hcs, hself]
      exact List.append_nil _
    · have hself := (List.takeWhile_prefix (p := Builder.isIndented)).eq_of_length hall
      rw [← hself] at hx
      rw [List.mem_takeWhile_imp hx] at hindent
      cases hindent
  · rfl

theorem block_eq_drop (h : ∀ x ∈ lines.drop (n + 1), Builder.isIndented x = true) :
    block lines n = lines.drop (n + 1) :=
  List.takeWhile_eq_self_iff.mpr h

theorem length_block_le (lines : List (List Char)) (n : Nat) :
    (block lines n).length ≤ lines.length - (n + 1) := by
  rw [← List.length_drop]
  exact (List.takeWhile_prefix _).length_le

theorem filter_kindAt_append {k : Nat} (h : n + 1 + k ≤ lines.length) :
    (List.range' (n + 1) k).filter (fun m => kindAt (lines ++ [cs]) m = some .posting) =
      (List.range' (n + 1) k).filter fun m => kindAt lines m = some .posting := by
  refine List.filter_congr fun m hm => ?_
  have hlt := (List.mem_range'_1.mp hm).2
  rw [kindAt_append_of_lt (by omega)]

/-- The postings of an ended block stay the same. -/
theorem postingLines_append_of_ended
    (h : Builder.isIndented cs = false ∨
      ∃ x ∈ lines.drop (n + 1), Builder.isIndented x = false)
    (hn : n < lines.length) : postingLines (lines ++ [cs]) n = postingLines lines n := by
  have hle := length_block_le lines n
  rw [postingLines, postingLines, block_append_of_ended h hn]
  exact filter_kindAt_append (by omega)

/-- An indented line joins the block that goes on up to it. -/
theorem postingLines_append_of_indented
    (h : ∀ x ∈ lines.drop (n + 1), Builder.isIndented x = true)
    (hcs : Builder.isIndented cs = true) (hn : n < lines.length) {r : ReadLine}
    (hr : readLine? cs = some r) :
    postingLines (lines ++ [cs]) n =
      postingLines lines n ++ if r.rule.kind = .posting then [lines.length] else [] := by
  have hdrop : (lines ++ [cs]).drop (n + 1) = lines.drop (n + 1) ++ [cs] :=
    List.drop_append_of_le_length hn
  have hall : ∀ x ∈ (lines ++ [cs]).drop (n + 1), Builder.isIndented x = true := by
    rw [hdrop]
    intro x hx
    rcases List.mem_append.mp hx with hx | hx
    · exact h x hx
    · rwa [List.mem_singleton.mp hx]
  have hlast : kindAt (lines ++ [cs]) lines.length = some r.rule.kind := by
    rw [kindAt_append_length, hr, Option.map_some]
  have hnumber : n + 1 + (lines.length - (n + 1)) = lines.length := by omega
  rw [postingLines, postingLines, block_eq_drop hall, block_eq_drop h, hdrop, List.length_append,
    List.length_drop, List.length_singleton, List.range'_1_concat, List.filter_append,
    filter_kindAt_append (by omega), hnumber]
  simp only [List.filter_cons, List.filter_nil, hlast, Option.some.injEq, decide_eq_true_eq]

end Journal

namespace Builder

open BuildM

/-! ## Transactions and their blocks -/

variable {options : BuildOptions} {lines : List (List Char)} {cs : List Char} {n m : Nat}

/-- Whether a line is read as the given posting, or not read, in the state that the lines before it
lead to. -/
def Reads (options : BuildOptions) (lines : List (List Char)) (m : Nat) (p : Option Posting) :
    Prop :=
  ∃ b cs r, outcome (feedLineTokens 0 (lines.take m)) (Builder.start options) = .ok ((), b) ∧
    lines[m]? = some cs ∧ readLine? cs = some r ∧ b.readPosting (r.tokens m).tail = .ok p

theorem Reads.append {p : Option Posting} (h : Reads options lines m p) (cs : List Char) :
    Reads options (lines ++ [cs]) m p := by
  obtain ⟨b, line, r, hb, hline, hr, hread⟩ := h
  have hlt : m < lines.length := (List.getElem?_eq_some_iff.mp hline).1
  refine ⟨b, line, r, ?_, ?_, hr, hread⟩
  · rwa [List.take_append_of_le_length (by omega)]
  · rwa [List.getElem?_append_left hlt]

/-- Whether a transaction is the one that starts at a line: its postings are, in order, those of the
posting lines of its block, perhaps with tags from comments below them; it has none if one of those
lines cannot be read. -/
structure Recorded (options : BuildOptions) (lines : List (List Char)) (n : Nat)
    (t : Transaction) : Prop where
  header : n ∈ headerLines lines
  line : t.line = n
  postings : ∃ readings, List.Forall₂ (Reads options lines) (postingLines lines n) readings ∧
    (t.postings = [] ↔ readings = [] ∨ none ∈ readings) ∧
    (none ∉ readings →
      List.Forall₂ (fun p q => ∃ p', p = some p' ∧ Extends p' q) readings t.postings)

/-- Whether an open transaction is the one that starts at a line, and holds what its block has come
to so far. -/
structure Current (options : BuildOptions) (lines : List (List Char)) (n : Nat)
    (t : OpenTransaction) : Prop where
  header : n ∈ headerLines lines
  line : t.line = n
  indented : ∀ x ∈ lines.drop (n + 1), isIndented x = true
  postings : ∃ readings, List.Forall₂ (Reads options lines) (postingLines lines n) readings ∧
    List.Forall₂ Extends readings.reduceOption t.postings ∧ (t.badLines = [] ↔ none ∉ readings)

theorem Recorded.append {t : Transaction} (h : Recorded options lines n t)
    (hended : isIndented cs = false ∨ ∃ x ∈ lines.drop (n + 1), isIndented x = false)
    {r : ReadLine} (hr : readLine? cs = some r) : Recorded options (lines ++ [cs]) n t where
  header := headerLines_append lines hr ▸ List.mem_append_left _ h.header
  line := h.line
  postings := by
    obtain ⟨readings, hreads, hrest⟩ := h.postings
    refine ⟨readings, ?_, hrest⟩
    rw [postingLines_append_of_ended hended (lt_length_of_mem_headerLines h.header)]
    exact hreads.imp fun _ _ hread => hread.append cs

theorem forall₂_of_reduceOption {α β : Type} {R : α → β → Prop} {l : List (Option α)} {l' : List β}
    (hsome : none ∉ l) (h : List.Forall₂ R l.reduceOption l') :
    List.Forall₂ (fun x y => ∃ x', x = some x' ∧ R x' y) l l' := by
  induction l generalizing l' with
  | nil =>
    cases h
    exact .nil
  | cons x xs ih =>
    rw [List.mem_cons, not_or] at hsome
    cases x with
    | none => exact absurd rfl hsome.1
    | some x =>
      rw [List.reduceOption_cons_of_some] at h
      cases h with
      | cons hx hxs => exact .cons ⟨x, rfl, hx⟩ (ih hsome.2 hxs)

/-- A transaction that is closed is recorded with the postings of its block. -/
theorem Current.close {t : OpenTransaction} (h : Current options lines n t) :
    Recorded options lines n (OpenTransaction.close t) where
  header := h.header
  line := h.line
  postings := by
    obtain ⟨readings, hreads, hextends, hbad⟩ := h.postings
    refine ⟨readings, hreads, ?_⟩
    rw [OpenTransaction.close]
    by_cases hnone : none ∈ readings
    · have hne : t.badLines.isEmpty = false := by
        rw [List.isEmpty_eq_false_iff]
        exact fun heq => hbad.mp heq hnone
      rw [hne]
      exact ⟨⟨fun _ => .inr hnone, fun _ => rfl⟩, fun hno => absurd hnone hno⟩
    · have hempty : t.badLines.isEmpty = true := List.isEmpty_iff.mpr (hbad.mpr hnone)
      have hall := forall₂_of_reduceOption hnone hextends
      rw [hempty]
      refine ⟨⟨fun heq => .inl ?_, fun heq => ?_⟩, fun _ => hall⟩
      · have hnil : t.postings = [] := heq
        rw [hnil] at hall
        exact List.forall₂_nil_right_iff.mp hall
      · have hnil : readings = [] := heq.resolve_right hnone
        rw [hnil] at hall
        exact List.forall₂_nil_left_iff.mp hall

theorem Current.indented_append {t : OpenTransaction} (h : Current options lines n t)
    (hcs : isIndented cs = true) : ∀ x ∈ (lines ++ [cs]).drop (n + 1), isIndented x = true := by
  rw [List.drop_append_of_le_length (lt_length_of_mem_headerLines h.header)]
  intro x hx
  rcases List.mem_append.mp hx with hx | hx
  · exact h.indented x hx
  · rwa [List.mem_singleton.mp hx]

/-- A line that starts a transaction has no block yet. -/
theorem current_of_start {t : OpenTransaction} {r : ReadLine} (hr : readLine? cs = some r)
    (hkind : r.rule.kind = .transaction) (hline : t.line = lines.length) (hpostings : t.postings = [])
    (hbad : t.badLines = []) : Current options (lines ++ [cs]) lines.length t := by
  have hdrop : (lines ++ [cs]).drop (lines.length + 1) = [] :=
    List.drop_eq_nil_of_le (by simp)
  refine ⟨?_, hline, ?_, [], ?_, ?_, ?_⟩
  · rw [headerLines_append lines hr, if_pos hkind]
    exact List.mem_append_right _ (List.mem_singleton_self _)
  · rw [hdrop]
    exact nofun
  · rw [postingLines, block, hdrop]
    exact .nil
  · rw [hpostings]
    exact .nil
  · exact ⟨fun _ => List.not_mem_nil, fun _ => hbad⟩

/-- A line without a posting goes on with the block. -/
theorem Current.remark {t t' : OpenTransaction} (h : Current options lines n t)
    (hcontinues : Continues t t') (hcs : isIndented cs = true) {r : ReadLine}
    (hr : readLine? cs = some r) (hkind : r.rule.kind ≠ .posting) :
    Current options (lines ++ [cs]) n t' where
  header := headerLines_append lines hr ▸ List.mem_append_left _ h.header
  line := hcontinues.line.trans h.line
  indented := h.indented_append hcs
  postings := by
    obtain ⟨readings, hreads, hextends, hbad⟩ := h.postings
    have hlt := lt_length_of_mem_headerLines h.header
    refine ⟨readings, ?_, ?_, hcontinues.badLines ▸ hbad⟩
    · rw [postingLines_append_of_indented h.indented hcs hlt hr, if_neg hkind, List.append_nil]
      exact hreads.imp fun _ _ hread => hread.append cs
    · exact forall₂_extends_trans hextends hcontinues.postings

/-- A line with a posting adds it to the block. -/
theorem Current.post {t : OpenTransaction} (h : Current options lines n t)
    (hcs : isIndented cs = true) {r : ReadLine} (hr : readLine? cs = some r)
    (hkind : r.rule.kind = .posting) {p : Option Posting}
    (hread : Reads options (lines ++ [cs]) lines.length p) :
    Current options (lines ++ [cs]) n (OpenTransaction.take t lines.length p) where
  header := headerLines_append lines hr ▸ List.mem_append_left _ h.header
  line := by
    rw [← h.line]
    cases p <;> rfl
  indented := h.indented_append hcs
  postings := by
    obtain ⟨readings, hreads, hextends, hbad⟩ := h.postings
    have hlt := lt_length_of_mem_headerLines h.header
    refine ⟨readings ++ [p], ?_, ?_⟩
    · rw [postingLines_append_of_indented h.indented hcs hlt hr, if_pos hkind]
      exact List.rel_append (hreads.imp fun _ _ hread => hread.append cs) (.cons hread .nil)
    · rw [List.reduceOption_append, List.mem_append, not_or]
      cases p with
      | none =>
        refine ⟨?_, by simp [OpenTransaction.take]⟩
        rw [List.reduceOption_singleton, Option.toList_none, List.append_nil]
        exact hextends
      | some p =>
        refine ⟨List.rel_append hextends (.cons (.refl p) .nil), ?_⟩
        simpa [OpenTransaction.take] using hbad

end Builder

/-- Whether no transaction is lost or duplicated: the lines of the transactions and those that were
passed over make up the lines that start transactions, in order; and every transaction has the
postings of its block. -/
structure Snapshot.Accounted (options : BuildOptions) (lines : List (List Char)) (s : Snapshot) :
    Prop where
  increasing : (s.transactions.map (·.line)).Pairwise (· < ·)
  skippedIncreasing : s.skippedLines.Pairwise (· < ·)
  headers : (s.transactions.map (·.line) ++ s.skippedLines).Perm
    ((headerLines lines).map fun n : Nat => (n : Int))
  recorded : ∀ t ∈ s.transactions, ∃ n, Builder.Recorded options lines n t

namespace Builder

open BuildM Snapshot

variable {b b' : Builder} {options : BuildOptions} {lines : List (List Char)} {cs : List Char}

/-- The lines of the transactions that are recorded or being read. -/
def transactionLines (b : Builder) : List Int :=
  b.snapshot.transactions.map (·.line) ++ b.openTransaction.toList.map (·.line)

/-- What is known of the transactions while lines are read: none is lost, those that are recorded
have the postings of their blocks, which have ended, and the one that is being read has those of its
block so far. -/
structure Account (options : BuildOptions) (lines : List (List Char)) (b : Builder) : Prop where
  increasing : b.transactionLines.Pairwise (· < ·)
  skippedIncreasing : b.snapshot.skippedLines.Pairwise (· < ·)
  headers : (b.transactionLines ++ b.snapshot.skippedLines).Perm
    ((headerLines lines).map fun n : Nat => (n : Int))
  recorded : ∀ t ∈ b.snapshot.transactions, ∃ n, Recorded options lines n t ∧
    ∃ x ∈ lines.drop (n + 1), isIndented x = false
  current : ∀ t ∈ b.openTransaction, ∃ n, Current options lines n t
  skipping : b.skipping = true → b.openTransaction = none

theorem account_start (options : BuildOptions) : Account options [] (Builder.start options) where
  increasing := .nil
  skippedIncreasing := .nil
  headers := .nil
  recorded _ h := nomatch h
  current _ h := nomatch h
  skipping h := nomatch h

theorem map_line_transactions_closed (b : Builder) :
    b.closed.snapshot.transactions.map (·.line) = b.transactionLines := by
  rw [transactions_closed, List.map_append, List.map_map, transactionLines]
  rfl

/-- The transaction that is being read can be closed at any time. -/
theorem Account.closed (h : Account options lines b) :
    Accounted options lines b.closed.snapshot where
  increasing := map_line_transactions_closed b ▸ h.increasing
  skippedIncreasing := skippedLines_closed b ▸ h.skippedIncreasing
  headers := by
    rw [map_line_transactions_closed, skippedLines_closed]
    exact h.headers
  recorded t ht := by
    rw [transactions_closed, List.mem_append] at ht
    rcases ht with ht | ht
    · obtain ⟨n, hn, -⟩ := h.recorded t ht
      exact ⟨n, hn⟩
    · obtain ⟨t', ht', rfl⟩ := List.mem_map.mp ht
      obtain ⟨n, hn⟩ := h.current t' (Option.mem_toList.mp ht')
      exact ⟨n, hn.close⟩

end Builder

namespace Snapshot.Accounted

open Builder

variable {options : BuildOptions} {lines : List (List Char)} {cs : List Char} {s : Snapshot}

/-- Every line that is accounted for stands before the end. -/
theorem lt_length (h : Accounted options lines s) {line : Int}
    (hline : line ∈ s.transactions.map (·.line) ++ s.skippedLines) : line < lines.length := by
  obtain ⟨n, hn, rfl⟩ := List.mem_map.mp (h.headers.subset hline)
  exact Int.ofNat_lt.mpr (lt_length_of_mem_headerLines hn)

/-- A line that is not indented ends all blocks before it. -/
theorem recorded_append (h : Accounted options lines s) (hcs : isIndented cs = false)
    {r : ReadLine} (hr : readLine? cs = some r) : ∀ t ∈ s.transactions, ∃ n,
      Recorded options (lines ++ [cs]) n t ∧
        ∃ x ∈ (lines ++ [cs]).drop (n + 1), isIndented x = false := by
  intro t ht
  obtain ⟨n, hn⟩ := h.recorded t ht
  refine ⟨n, hn.append (.inl hcs) hr, cs, ?_, hcs⟩
  rw [List.drop_append_of_le_length (lt_length_of_mem_headerLines hn.header)]
  exact List.mem_append_right _ (List.mem_singleton_self cs)

end Snapshot.Accounted

namespace Builder

open BuildM Snapshot

variable {b b' : Builder} {options : BuildOptions} {lines : List (List Char)} {cs : List Char}

theorem map_headerLines_append (lines : List (List Char)) {r : ReadLine}
    (hr : readLine? cs = some r) :
    (headerLines (lines ++ [cs])).map (fun n : Nat => (n : Int)) =
      (headerLines lines).map (fun n : Nat => (n : Int)) ++
        if r.rule.kind = .transaction then [(lines.length : Int)] else [] := by
  rw [headerLines_append lines hr, List.map_append]
  split <;> rfl

/-- What is known after a line that ends the transaction before it, whatever it starts. -/
theorem Account.flush (h : Accounted options lines b.closed.snapshot)
    (hcs : isIndented cs = false) {r : ReadLine} (hr : readLine? cs = some r)
    (htransactions : b'.snapshot.transactions = b.closed.snapshot.transactions)
    {started skipped : List Int} (hstarted : b'.openTransaction.toList.map (·.line) = started)
    (hskipped : b'.snapshot.skippedLines = b.closed.snapshot.skippedLines ++ skipped)
    (hnew : started ++ skipped = if r.rule.kind = .transaction then [(lines.length : Int)] else [])
    (hcurrent : ∀ t ∈ b'.openTransaction, ∃ n, Current options (lines ++ [cs]) n t)
    (hskipping : b'.skipping = true → b'.openTransaction = none) :
    Account options (lines ++ [cs]) b' := by
  have hlines : b'.transactionLines = b.closed.snapshot.transactions.map (·.line) ++ started := by
    rw [transactionLines, htransactions, hstarted]
  have hmember : ∀ line ∈ started ++ skipped, line = lines.length := by
    intro line hline
    rw [hnew] at hline
    split at hline
    · exact List.mem_singleton.mp hline
    · cases hline
  have hsingle : (started ++ skipped).Pairwise (· < ·) := by
    rw [hnew]
    split
    · exact List.pairwise_singleton _ _
    · exact List.Pairwise.nil
  obtain ⟨hstartedPairwise, hskippedPairwise, -⟩ := List.pairwise_append.mp hsingle
  refine ⟨?_, ?_, ?_, htransactions ▸ h.recorded_append hcs hr, hcurrent, hskipping⟩
  · rw [hlines]
    refine List.pairwise_append.mpr ⟨h.increasing, hstartedPairwise, fun x hx y hy => ?_⟩
    rw [hmember y (List.mem_append_left _ hy)]
    exact h.lt_length (List.mem_append_left _ hx)
  · rw [hskipped]
    refine List.pairwise_append.mpr ⟨h.skippedIncreasing, hskippedPairwise, fun x hx y hy => ?_⟩
    rw [hmember y (List.mem_append_right _ hy)]
    exact h.lt_length (List.mem_append_right _ hx)
  · rw [hlines, hskipped, map_headerLines_append lines hr, ← hnew]
    refine .trans ?_ (h.headers.append_right (started ++ skipped))
    rw [List.append_assoc, List.append_assoc]
    refine List.Perm.append_left _ ?_
    rw [← List.append_assoc, ← List.append_assoc]
    exact List.perm_append_comm.append_right skipped

/-- What is known after an indented line. -/
theorem Account.goOn (h : Account options lines b) {r : ReadLine} (hr : readLine? cs = some r)
    (hkind : r.rule.kind ≠ .transaction)
    (htransactions : b'.snapshot.transactions = b.snapshot.transactions)
    (hskipped : b'.snapshot.skippedLines = b.snapshot.skippedLines)
    (hopen : b'.openTransaction.toList.map (·.line) = b.openTransaction.toList.map (·.line))
    (hcurrent : ∀ t ∈ b'.openTransaction, ∃ n, Current options (lines ++ [cs]) n t)
    (hskipping : b'.skipping = true → b'.openTransaction = none) :
    Account options (lines ++ [cs]) b' := by
  have hlines : b'.transactionLines = b.transactionLines := by
    rw [transactionLines, transactionLines, htransactions, hopen]
  refine ⟨hlines ▸ h.increasing, hskipped ▸ h.skippedIncreasing, ?_, ?_, hcurrent, hskipping⟩
  · rw [hlines, hskipped, map_headerLines_append lines hr, if_neg hkind, List.append_nil]
    exact h.headers
  · rw [htransactions]
    intro t ht
    obtain ⟨n, hn, hended⟩ := h.recorded t ht
    refine ⟨n, hn.append (.inr hended) hr, ?_⟩
    obtain ⟨x, hx, hindent⟩ := hended
    refine ⟨x, ?_, hindent⟩
    rw [List.drop_append_of_le_length (lt_length_of_mem_headerLines hn.header)]
    exact List.mem_append_left _ hx

theorem isIndented_eq_goesOn {r : ReadLine} (hr : readLine? cs = some r) (line : Int) :
    isIndented cs = goesOn (r.tokens line) := by
  rw [isIndented, hr, Option.any_some, tokens_eq_relocate r line, goesOn_relocate]

/-- **What is known of the transactions is known after one more line.** -/
theorem Account.step (h : Account options lines b) {r : ReadLine} (hr : readLine? cs = some r)
    (hreads : ∀ p, b.readPosting (r.tokens lines.length).tail = .ok p →
      Reads options (lines ++ [cs]) lines.length p)
    (heffect : Effect r lines.length b b') : Account options (lines ++ [cs]) b' := by
  have hindented := isIndented_eq_goesOn hr lines.length
  cases heffect with
  | ends hgoes hkind hleaves =>
    have hnone := hleaves.openTransaction.trans (openTransaction_closed b)
    refine .flush h.closed (hindented.trans hgoes) hr hleaves.transactions rfl
      (hleaves.skippedLines.trans (List.append_nil _).symm) ?_ ?_ fun _ => hnone
    · rw [hnone, if_neg hkind]
      rfl
    · rw [hnone]
      exact nofun
  | skips hgoes hkind htransactions hskipped hopen =>
    refine .flush h.closed (hindented.trans hgoes) hr htransactions rfl hskipped ?_ ?_
      fun _ => hopen
    · rw [hopen, if_pos hkind]
      rfl
    · rw [hopen]
      exact nofun
  | starts hgoes hkind htransactions hskipped hskipping hopen hline hpostings hbad =>
    refine .flush h.closed (hindented.trans hgoes) hr htransactions rfl
      (hskipped.trans (List.append_nil _).symm) ?_ ?_ ?_
    · rw [hopen, if_pos hkind, Option.toList_some, List.map_singleton, hline]
      rfl
    · intro t ht
      cases hopen.symm.trans ht
      exact ⟨lines.length, current_of_start hr hkind hline hpostings hbad⟩
    · rw [hskipping]
      exact nofun
  | remarks hgoes hkind htransactions hskipped hskipping hopen =>
    generalize hold : b.openTransaction = old at hopen
    generalize hnew : b'.openTransaction = new at hopen
    cases hopen with
    | none =>
      exact h.goOn hr hkind.1 htransactions hskipped (by rw [hold, hnew]) (by rw [hnew]; exact nofun)
        fun _ => hnew
    | @some t t' hcontinues =>
      refine h.goOn hr hkind.1 htransactions hskipped ?_ ?_ fun hskips => ?_
      · rw [hold, hnew, Option.toList_some, Option.toList_some, List.map_singleton,
          List.map_singleton, hcontinues.line]
      · intro t₁ ht₁
        cases hnew.symm.trans ht₁
        obtain ⟨n, hn⟩ := h.current t hold
        exact ⟨n, hn.remark hcontinues (hindented.trans hgoes) hr hkind.2⟩
      · have hnone := h.skipping (hskipping ▸ hskips)
        cases hold.symm.trans hnone
  | strays hgoes hkind hstray hleaves =>
    have hnone : b.openTransaction = none := hstray.elim h.skipping id
    have hnone' := hleaves.openTransaction.trans hnone
    refine h.goOn hr (by rw [hkind]; decide) hleaves.transactions hleaves.skippedLines ?_ ?_
      fun _ => hnone'
    · rw [hnone, hnone']
    · rw [hnone']
      exact nofun
  | @posts hgoes hkind htransactions hskipped hskipping t hopen p hread hopen' =>
    refine h.goOn hr (by rw [hkind]; decide) htransactions hskipped ?_ ?_ fun hskips => ?_
    · rw [hopen, hopen']
      cases p <;> rfl
    · intro t₁ ht₁
      cases hopen'.symm.trans ht₁
      obtain ⟨n, hn⟩ := h.current t hopen
      exact ⟨n, hn.post (hindented.trans hgoes) hr hkind (hreads p hread)⟩
    · have hnone := h.skipping (hskipping ▸ hskips)
      cases hopen.symm.trans hnone

/-- **What is known of the transactions after any number of lines.** -/
theorem account_of_feedLineTokens
    (h : outcome (feedLineTokens 0 lines) (Builder.start options) = .ok ((), b)) :
    Account options lines b := by
  induction lines using List.reverseRecOn generalizing b with
  | nil =>
    cases h
    exact account_start options
  | append_singleton lines cs ih =>
    rw [feedLineTokens_append, Int.zero_add] at h
    obtain ⟨_, b₁, hlines, hlast⟩ := outcome_bind_eq_ok h
    obtain ⟨r, b₂, hr, hline, hend⟩ :=
      feedLineTokens_cons_eq_ok (pending_of_feedLineTokens rfl hlines) hlast
    cases hend
    -- The line is handled in the state before it, but for the tokens that have been noted.
    have hbefore := ih hlines
    have htaking : Account options lines (b₁.taking r lines.length cs.length) := { hbefore with }
    have hafter := htaking.step hr (fun p hp => ?_) (effect_of_handleLine hr hline)
    · exact { hafter with }
    · refine ⟨b₁, cs, r, ?_, List.getElem?_concat_length, hr, hp⟩
      rw [List.take_left]
      exact hlines

end Builder

namespace Snapshot

open Builder

/-- **No transaction is lost or duplicated.**  In the snapshot of a text, the transactions and the
warnings about transactions that were passed over stand, in order and without repetition, for
exactly the lines that start transactions; the postings of a transaction are those of the posting
lines of its block, one for each, and it has none if there is no such line or one of them cannot be
read.  Whatever the text holds, there is a snapshot, unless a posting has a negative quantity of a
million digits. -/
theorem accounted_of_ofText (options : BuildOptions) (text : String) :
    (∀ s, ofText options text = .ok s → Accounted options (textLines text) s) ∧
      ((∀ y ∈ options.defaultYear, 1 ≤ y ∧ y ≤ 9999) →
        (∃ s, ofText options text = .ok s) ∨
          ofText options text = .error .quantityOverflow ∧ ∃ cs ∈ textLines text, TooLarge cs) := by
  refine ⟨fun s hs => ?_, fun hyear => ofText_isOk_or_overflow hyear text⟩
  obtain ⟨b, hb, -, rfl⟩ := ofText_eq_ok_iff.mp hs
  exact { (account_of_feedLineTokens hb).closed with }

/-- A transaction with a tag and an indented directive between its postings, one without a valid
date, and one with a line that cannot be read. -/
theorem accounted_of_three_transactions :
    ∃ text s, text = "2024-01-05 x\n a  1\n ; k: v\n format 1,0 EUR\n b\n\n2024-13-45 y\n c\n2024-01-06 z\n d  1 ?? 2\n" ∧
      (∀ y ∈ BuildOptions.plain.defaultYear, 1 ≤ y ∧ y ≤ 9999) ∧
      ofText .plain text = .ok s ∧
      s.transactions.map (fun t => (t.line, t.postings.length)) = [(0, 2), (8, 0)] ∧
      s.skippedLines = [6] ∧ Accounted .plain (textLines text) s := by
  obtain ⟨haccounted, hbuilt⟩ := accounted_of_ofText .plain
    "2024-01-05 x\n a  1\n ; k: v\n format 1,0 EUR\n b\n\n2024-13-45 y\n c\n2024-01-06 z\n d  1 ?? 2\n"
  have hread : (ofText .plain
      "2024-01-05 x\n a  1\n ; k: v\n format 1,0 EUR\n b\n\n2024-13-45 y\n c\n2024-01-06 z\n d  1 ?? 2\n").toOption.map (fun s =>
          (s.transactions.map fun t => (t.line, t.postings.length), s.skippedLines)) =
      some ([(0, 2), (8, 0)], [6]) := by
    decide +kernel
  have hyear : ∀ y ∈ BuildOptions.plain.defaultYear, 1 ≤ y ∧ y ≤ 9999 := nofun
  rcases hbuilt hyear with ⟨s, hs⟩ | ⟨hoverflow, -⟩
  · rw [hs] at hread
    obtain ⟨htransactions, hskipped⟩ := Prod.mk.inj (Option.some.inj hread)
    exact ⟨_, s, rfl, hyear, hs, htransactions, hskipped, haccounted s hs⟩
  · rw [hoverflow] at hread
    cases hread

end Snapshot

end Daybook
