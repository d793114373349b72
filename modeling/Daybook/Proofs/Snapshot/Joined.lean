import Daybook.Proofs.Snapshot.Absorb
import Daybook.Proofs.Template.Store

/-!
# Going on from a snapshot

A text that is read after another one changes the snapshot of the first step by step, and a text
that is read alone changes an empty snapshot by the same steps.  Here the two are compared: what the
first has become is at every step what the second adds to where the first began.

* `Journal.Transaction.relocate`: a transaction some lines further down.
* `Snapshot.Joined`: a snapshot is another one with what a third one adds to it.  Tables that are
  counts or that are drawn from the transactions are left out; they follow from the transactions.
* `Snapshot.Joined.recordTransaction`, `Snapshot.Joined.addAccount`, …: changes on both sides.
* `Snapshot.Joined.rebase`: where the first snapshot began may be replaced by one like it.
-/

namespace Daybook

open Calendar Journal

/-- The same transaction some lines further down. -/
def Journal.Transaction.relocate (n : Int) (t : Transaction) : Transaction :=
  { t with line := t.line + n }

theorem Account.join_assoc (a b c : Account) : (a.join b).join c = a.join (b.join c) := by
  simp [join, Bool.or_assoc]

theorem Commodity.join_assoc (a b c : Commodity) : (a.join b).join c = a.join (b.join c) := by
  simp [join, Bool.or_assoc, Option.or_assoc]

namespace Snapshot

theorem mem_withInclude {includes : List String} {target x : String} :
    x ∈ withInclude includes target ↔ x ∈ includes ∨ x = target := by
  unfold withInclude
  split
  · rename_i h
    refine ⟨.inl, fun hx => hx.elim id fun hx => ?_⟩
    rw [hx]
    exact List.contains_iff_mem.mp h
  · rw [List.mem_append, List.mem_singleton]

theorem mem_foldl_withInclude {l includes : List String} {x : String} :
    x ∈ l.foldl withInclude includes ↔ x ∈ includes ∨ x ∈ l := by
  induction l generalizing includes with
  | nil => simp
  | cons target rest ih =>
    rw [List.foldl_cons, ih, mem_withInclude, List.mem_cons]
    tauto

/-- Inclusions one after another are listed once each, where they come first. -/
theorem foldl_withInclude_nil (l : List String) : l.foldl withInclude [] = l.eraseDups := by
  induction l using List.reverseRecOn with
  | nil => rfl
  | append_singleton l target ih =>
    rw [List.foldl_append, List.foldl_cons, List.foldl_nil, ih, Template.eraseDups_concat,
      withInclude]
    by_cases h : target ∈ l
    · rw [if_pos h, if_pos (List.contains_iff_mem.mpr (List.mem_eraseDups.mpr h))]
    · rw [if_neg h, if_neg fun hmem => h (List.mem_eraseDups.mp (List.contains_iff_mem.mp hmem))]

theorem foldl_withInclude_of_nodup {l : List String} (h : l.Nodup) :
    l.foldl withInclude [] = l := by
  rw [foldl_withInclude_nil, Template.eraseDups_of_nodup h]

/-- One more inclusion at the end of a list. -/
theorem foldl_withInclude_withInclude (l includes : List String) (target : String) :
    (withInclude l target).foldl withInclude includes =
      withInclude (l.foldl withInclude includes) target := by
  by_cases h : l.contains target
  · have hthere : (l.foldl withInclude includes).contains target :=
      List.contains_iff_mem.mpr (mem_foldl_withInclude.mpr (.inr (List.contains_iff_mem.mp h)))
    rw [withInclude, if_pos h, withInclude, if_pos hthere]
  · rw [withInclude, if_neg h, List.foldl_append, List.foldl_cons, List.foldl_nil]

theorem lastDate_reachDate (s : Snapshot) (date : Date) :
    (s.reachDate date).lastDate = Option.merge Date.latest s.lastDate (some date) := by
  unfold reachDate
  cases s.lastDate <;> rfl

/-! ## Joined snapshots -/

/-- Whether a snapshot is where another one began with what a third one adds to it, whose
transactions stand `n` lines further down. -/
structure Joined (base : Snapshot) (n : Int) (added s : Snapshot) : Prop where
  accounts : Table.JoinOf Account.join base.accounts added.accounts s.accounts
  commodities : Table.JoinOf Commodity.join base.commodities added.commodities s.commodities
  declaredPayees : ∀ p, p ∈ s.declaredPayees ↔ p ∈ base.declaredPayees ∨ p ∈ added.declaredPayees
  tags : ∀ k, k ∈ s.tags ↔ k ∈ base.tags ∨ k ∈ added.tags
  aliases : Table.JoinOf (fun x _ => x) base.aliases added.aliases s.aliases
  transactions : s.transactions = base.transactions ++ added.transactions.map (·.relocate n)
  defaultCommodity : s.defaultCommodity = (base.defaultCommodity <|> added.defaultCommodity)
  decimalMark : s.decimalMark = added.decimalMark
  lastDate : s.lastDate = Option.merge Date.latest base.lastDate added.lastDate
  includes : s.includes = added.includes.foldl withInclude base.includes

/-- Nothing is added at the beginning. -/
theorem joined_empty {base : Snapshot} (hmark : base.decimalMark = none) (n : Int) :
    Joined base n .empty base where
  accounts := Table.joinOf_empty _ _
  commodities := Table.joinOf_empty _ _
  declaredPayees p := by simp [empty]
  tags k := by simp [empty]
  aliases := Table.joinOf_empty _ _
  transactions := by simp [empty]
  defaultCommodity := by simp [empty]
  decimalMark := hmark
  lastDate := by simp [empty]
  includes := rfl

namespace Joined

variable {base added s : Snapshot} {n : Int}

theorem warn (h : Joined base n added s) (w w' : Warning) :
    Joined base n (added.warn w) (s.warn w') :=
  { h with }

theorem addAccount (h : Joined base n added s) (name : String) (account : Account) :
    Joined base n (added.addAccount name account) (s.addAccount name account) := by
  rw [addAccount_eq, addAccount_eq]
  exact { h with accounts := h.accounts.alter Account.join_assoc name account }

theorem addCommodity (h : Joined base n added s) (symbol : String) (commodity : Commodity) :
    Joined base n (added.addCommodity symbol commodity) (s.addCommodity symbol commodity) := by
  rw [addCommodity_eq, addCommodity_eq]
  exact { h with commodities := h.commodities.alter Commodity.join_assoc symbol commodity }

theorem insertAlias (h : Joined base n added s) (source target : String) :
    Joined base n { added with aliases := added.aliases.insertNew source target }
      { s with aliases := s.aliases.insertNew source target } := by
  have hnew : (fun old : Option String => old.getD target) =
      Table.joinTo (fun x _ => x) target := by
    funext old
    cases old <;> rfl
  have haliases := h.aliases.alter (fun _ _ _ => rfl) source target
  rw [← hnew] at haliases
  exact { h with aliases := haliases }

theorem declarePayee (h : Joined base n added s) (payee : String) :
    Joined base n (added.declarePayee payee) (s.declarePayee payee) := by
  refine { h with declaredPayees := fun p => ?_ }
  simp only [Snapshot.declarePayee, List.mem_insert_iff, h.declaredPayees p]
  tauto

theorem declareTag (h : Joined base n added s) (key : String) :
    Joined base n (added.declareTag key) (s.declareTag key) := by
  refine { h with tags := fun k => ?_ }
  simp only [Snapshot.declareTag, List.mem_insert_iff, h.tags k]
  tauto

theorem addInclude (h : Joined base n added s) (target : String) :
    Joined base n (added.addInclude target) (s.addInclude target) := by
  refine { h with includes := ?_ }
  show withInclude s.includes target = (withInclude added.includes target).foldl withInclude _
  rw [foldl_withInclude_withInclude, h.includes]

theorem setDecimalMark (h : Joined base n added s) (mark : String) :
    Joined base n { added with decimalMark := some mark } { s with decimalMark := some mark } :=
  { h with decimalMark := rfl }

theorem setDefaultCommodity (h : Joined base n added s) (symbol : String) :
    Joined base n
      { added with defaultCommodity := added.defaultCommodity <|> some symbol }
      { s with defaultCommodity := s.defaultCommodity <|> some symbol } := by
  refine { h with defaultCommodity := ?_ }
  show (s.defaultCommodity <|> some symbol) = _
  rw [h.defaultCommodity]
  cases base.defaultCommodity <;> rfl

theorem reachDate (h : Joined base n added s) (date : Date) :
    Joined base n (added.reachDate date) (s.reachDate date) := by
  refine { h with lastDate := ?_ }
  rw [lastDate_reachDate, lastDate_reachDate, h.lastDate]
  cases base.lastDate with
  | none => simp
  | some a =>
    cases added.lastDate with
    | none => rfl
    | some b => exact congrArg some (a.latest_assoc b date)

theorem foldl_mentionCommodity (h : Joined base n added s) (symbols : List String) :
    Joined base n (symbols.foldl mentionCommodity added) (symbols.foldl mentionCommodity s) := by
  induction symbols generalizing added s with
  | nil => exact h
  | cons symbol rest ih => exact ih (h.addCommodity symbol ⟨none, false⟩)

/-! ## Transactions on both sides -/

theorem record (h : Joined base n added s) (complaint complaint' : String → Warning)
    (e : BookEntry) :
    Joined base n (e.record complaint added) (e.record complaint' s) := by
  cases e with
  | date date => exact h.reachDate date
  | payee payee => exact { h with }
  | tag tag =>
    have htag := h.declareTag tag.1
    rw [BookEntry.record, BookEntry.record, useTag_eq, useTag_eq]
    exact { htag with }
  | account account => exact { h.addAccount account ⟨false, true⟩ with }
  | commodity symbol => exact { h.addCommodity symbol ⟨none, false⟩ with }
  | sideCommodity symbol => exact h.addCommodity symbol ⟨none, false⟩
  | payeeAccount payee account => exact { h with }
  | badDate value => exact h.warn _ _

/-- A transaction on both sides, on one of them further down. -/
theorem recordTransaction (h : Joined base n added s) (day : String → Option Date)
    (complaint complaint' : String → Warning) (t : Transaction) :
    Joined base n (added.recordTransaction day complaint t)
      (s.recordTransaction day complaint' (t.relocate n)) := by
  have hnoted : Joined base n { added with transactions := added.transactions ++ [t] }
      { s with transactions := s.transactions ++ [t.relocate n] } := by
    refine { h with transactions := ?_ }
    rw [h.transactions, List.map_append, List.append_assoc, List.map_singleton]
  -- The entries do not depend on the line.
  have henter : Joined base n (added.enter day complaint t)
      (s.enter day complaint' (t.relocate n)) :=
    foldl_record_related (fun e _ _ hs => hs.record complaint complaint' e) (t.entries day) hnoted
  rw [recordTransaction_eq, recordTransaction_eq]
  show Joined base n _ (if 2 ≤ t.postings.length ∧ !t.payee.isEmpty then _ else _)
  split
  · exact { henter with }
  · exact henter

/-! ## Where a snapshot began -/

/-- A snapshot of the same lines with another source serves as well to begin with. -/
theorem rebase {base' : Snapshot} (hbase : Joined .empty 0 base base')
    (hincludes : base.includes.Nodup) (h : Joined base' n added s) : Joined base n added s where
  accounts k := by rw [h.accounts k, hbase.accounts k]; simp [empty]
  commodities k := by rw [h.commodities k, hbase.commodities k]; simp [empty]
  declaredPayees p := by rw [h.declaredPayees p, hbase.declaredPayees p]; simp [empty]
  tags k := by rw [h.tags k, hbase.tags k]; simp [empty]
  aliases k := by rw [h.aliases k, hbase.aliases k]; simp [empty]
  transactions := by
    have hsame : base.transactions.map (·.relocate 0) = base.transactions := by
      simp [Transaction.relocate]
    rw [h.transactions, hbase.transactions, hsame]
    rfl
  defaultCommodity := by rw [h.defaultCommodity, hbase.defaultCommodity]; rfl
  decimalMark := h.decimalMark
  lastDate := by rw [h.lastDate, hbase.lastDate]; simp [empty]
  includes := by
    have hsame : base'.includes = base.includes := by
      rw [hbase.includes]
      exact foldl_withInclude_of_nodup hincludes
    rw [h.includes, hsame]

end Joined

end Snapshot

end Daybook
