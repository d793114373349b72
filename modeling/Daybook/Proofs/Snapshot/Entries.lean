import Daybook.Proofs.Builder.Outcome
import Daybook.Proofs.Table

/-!
# Transactions as lists of entries

Recording a transaction changes a snapshot in many places, but each change is one of a few kinds,
and which ones there are does not depend on the snapshot.  A transaction is therefore taken apart
into a list of entries, and what it does to a snapshot is what its entries do one after another.
The entries do not depend on the line of the transaction either.

* `BookEntry`, `BookEntry.record`: the kinds of changes.
* `Journal.Transaction.entries`: the entries of a transaction.
* `Snapshot.recordTransaction_eq`: a transaction does what its entries do, and then perhaps counts
  as the use of a template.
* `Snapshot.foldl_record_related`, `Snapshot.foldl_record_induction`: what every entry keeps, all
  entries keep.
* `Snapshot.foldl_record_tally`: what the entries add to a tally.
* `Snapshot.FormatsFrom.recordTransaction`: a transaction brings no format.
-/

namespace Daybook

open Calendar Journal

/-! ## Entries -/

/-- One thing that a transaction states. -/
inductive BookEntry where
  | date (date : Date)
  | payee (payee : String)
  | tag (tag : TagPair)
  | account (account : String)
  | commodity (symbol : String)
  /-- A commodity of a cost or of an asserted balance. -/
  | sideCommodity (symbol : String)
  | payeeAccount (payee account : String)
  /-- The value of a date tag that names no day. -/
  | badDate (value : String)

/-- What an entry does to a snapshot. -/
def BookEntry.record (complaint : String → Warning) (s : Snapshot) : BookEntry → Snapshot
  | date d => s.reachDate d
  | payee p => s.usePayee p
  | tag t => s.useTag t
  | account a => s.useAccount a
  | commodity c => s.useCommodity c
  | sideCommodity c => s.mentionCommodity c
  | payeeAccount p a => s.usePayeeAccount p a
  | badDate value => s.warn (complaint value)

namespace Journal

/-- The entries of a tag of a posting. -/
def postingTagEntries (day : String → Option Date) (tag : TagPair) : List BookEntry :=
  .tag tag ::
    if tag.1 = "date" ∧ !tag.2.isEmpty then
      [match day tag.2 with
        | some date => .date date
        | none => .badDate tag.2]
    else []

/-- The entries of a posting. -/
def Posting.entries (day : String → Option Date) (payee : String) (p : Posting) : List BookEntry :=
  .account p.account ::
    ((p.commodity.toList.filter (!·.isEmpty)).map .commodity ++
      p.sideCommodities.map .sideCommodity ++
      (if payee.isEmpty then [] else [.payeeAccount payee p.account]) ++
      p.tags.flatMap (postingTagEntries day))

/-- The entries of a transaction. -/
def Transaction.entries (day : String → Option Date) (t : Transaction) : List BookEntry :=
  .date t.date ::
    ((if t.payee.isEmpty then [] else [.payee t.payee]) ++
      t.tags.map .tag ++
      t.postings.flatMap (Posting.entries day t.payee))

end Journal

namespace Snapshot

variable {day : String → Option Date} {complaint : String → Warning}

theorem recordTag_eq (s : Snapshot) (tag : TagPair) :
    s.recordTag day complaint tag =
      (postingTagEntries day tag).foldl (BookEntry.record complaint) s := by
  unfold recordTag postingTagEntries
  split
  · cases day tag.2 <;> rfl
  · rfl

theorem foldl_recordTag (tags : List TagPair) (s : Snapshot) :
    tags.foldl (recordTag day complaint) s =
      (tags.flatMap (postingTagEntries day)).foldl (BookEntry.record complaint) s := by
  rw [List.foldl_flatMap]
  simp only [← recordTag_eq]

theorem recordPosting_eq (complaint : String → Warning) (s : Snapshot) (payee : String)
    (p : Posting) :
    s.recordPosting payee p =
      (.account p.account ::
        ((p.commodity.toList.filter (!·.isEmpty)).map .commodity ++
          p.sideCommodities.map .sideCommodity ++
          (if payee.isEmpty then [] else [.payeeAccount payee p.account]))).foldl
        (BookEntry.record complaint) s := by
  unfold recordPosting
  rw [List.foldl_cons, List.foldl_append, List.foldl_append, List.foldl_map, List.foldl_map]
  have hpayee : ∀ s : Snapshot, (if payee.isEmpty then s else s.usePayeeAccount payee p.account) =
      (if payee.isEmpty then [] else [BookEntry.payeeAccount payee p.account]).foldl
        (BookEntry.record complaint) s := by
    intro s
    split <;> rfl
  dsimp only
  rw [hpayee]
  cases p.commodity with
  | none => rfl
  | some symbol =>
    cases hsymbol : symbol.isEmpty with
    | true =>
      simp only [Option.toList, List.filter, hsymbol, Bool.not_true]
      rfl
    | false =>
      simp only [Option.toList, List.filter, hsymbol, Bool.not_false]
      rfl

theorem recordTagged_eq (payee : String) (s : Snapshot) (p : Posting) :
    s.recordTagged day complaint payee p =
      (p.entries day payee).foldl (BookEntry.record complaint) s := by
  rw [recordTagged, foldl_recordTag, recordPosting_eq complaint, Posting.entries,
    ← List.foldl_append, List.cons_append]

theorem foldl_recordTagged (payee : String) (postings : List Posting) (s : Snapshot) :
    postings.foldl (recordTagged day complaint payee) s =
      (postings.flatMap (Posting.entries day payee)).foldl (BookEntry.record complaint) s := by
  rw [List.foldl_flatMap]
  simp only [← recordTagged_eq]

theorem recordHeader_eq (complaint : String → Warning) (s : Snapshot) (t : Transaction) :
    Builder.recordHeader s t =
      (.date t.date :: ((if t.payee.isEmpty then [] else [.payee t.payee]) ++
        t.tags.map .tag)).foldl (BookEntry.record complaint)
          { s with transactions := s.transactions ++ [t] } := by
  rw [List.foldl_cons, List.foldl_append, List.foldl_map, Builder.recordHeader]
  split <;> rfl

/-- Enters a transaction: notes it and all its entries. -/
def enter (day : String → Option Date) (complaint : String → Warning) (t : Transaction)
    (s : Snapshot) : Snapshot :=
  (t.entries day).foldl (BookEntry.record complaint)
    { s with transactions := s.transactions ++ [t] }

/-- **A transaction does what its entries do**, and with a payee and two postings it counts as the
use of a template. -/
theorem recordTransaction_eq (t : Transaction) (s : Snapshot) :
    s.recordTransaction day complaint t =
      if 2 ≤ t.postings.length ∧ !t.payee.isEmpty then
        (s.enter day complaint t).recordTemplate t.payee t.date t.postings
      else s.enter day complaint t := by
  have henter : t.postings.foldl (recordTagged day complaint t.payee) (Builder.recordHeader s t) =
      s.enter day complaint t := by
    rw [foldl_recordTagged, recordHeader_eq complaint, ← List.foldl_append,
      List.cons_append, enter, Transaction.entries]
  unfold recordTransaction
  rw [henter]

/-! ## What entries keep and add -/

/-- The use of a tag, field by field. -/
theorem useTag_eq (s : Snapshot) (tag : TagPair) :
    s.useTag tag =
      { s with
        tags := s.tags.insert tag.1
        tagUsage := s.tagUsage.add tag.1 1
        tagValues :=
          if tag.2.isEmpty then s.tagValues
          else s.tagValues.alter tag.1 fun old => (old.getD []).insert tag.2
        tagValueUsage :=
          if tag.2.isEmpty then s.tagValueUsage else s.tagValueUsage.add tag 1 } := by
  rw [useTag]
  cases tag.2.isEmpty <;> rfl

/-- A relation between snapshots that every entry keeps, all entries keep.  The two sides may
complain about bad dates in different words. -/
theorem foldl_record_related {R : Snapshot → Snapshot → Prop}
    {complaint' : String → Warning}
    (hR : ∀ (e : BookEntry) (s s' : Snapshot), R s s' →
      R (e.record complaint s) (e.record complaint' s'))
    (entries : List BookEntry) {s s' : Snapshot} (h : R s s') :
    R (entries.foldl (BookEntry.record complaint) s)
      (entries.foldl (BookEntry.record complaint') s') := by
  induction entries generalizing s s' with
  | nil => exact h
  | cons e rest ih => exact ih (hR e s s' h)

/-- A property of snapshots that every entry keeps, all entries keep. -/
theorem foldl_record_induction {P : Snapshot → Prop}
    (hP : ∀ (e : BookEntry) (s : Snapshot), P s → P (e.record complaint s))
    (entries : List BookEntry) {s : Snapshot} (h : P s) :
    P (entries.foldl (BookEntry.record complaint) s) := by
  induction entries generalizing s with
  | nil => exact h
  | cons e rest ih => exact ih (hP e s h)

theorem record_frame (complaint : String → Warning) (e : BookEntry) (s : Snapshot) :
    (e.record complaint s).transactions = s.transactions ∧
      (e.record complaint s).templates = s.templates ∧
      (e.record complaint s).recent = s.recent ∧
      (e.record complaint s).sources = s.sources := by
  cases e with
  | tag tag =>
    rw [BookEntry.record, useTag_eq]
    exact ⟨rfl, rfl, rfl, rfl⟩
  | _ => exact ⟨rfl, rfl, rfl, rfl⟩

/-- Entering a transaction adds it to the transactions and leaves the templates, the recently used
keys and the fingerprints as they are. -/
theorem enter_frame (day : String → Option Date) (complaint : String → Warning) (t : Transaction)
    (s : Snapshot) :
    (s.enter day complaint t).transactions = s.transactions ++ [t] ∧
      (s.enter day complaint t).templates = s.templates ∧
      (s.enter day complaint t).recent = s.recent ∧
      (s.enter day complaint t).sources = s.sources := by
  refine foldl_record_induction (P := fun s' => s'.transactions = s.transactions ++ [t] ∧
    s'.templates = s.templates ∧ s'.recent = s.recent ∧ s'.sources = s.sources) ?_ _
    ⟨rfl, rfl, rfl, rfl⟩
  intro e s' h
  obtain ⟨htransactions, htemplates, hrecent, hsources⟩ := record_frame complaint e s'
  rw [htransactions, htemplates, hrecent, hsources]
  exact h

theorem transactions_recordTransaction (day : String → Option Date)
    (complaint : String → Warning) (t : Transaction) (s : Snapshot) :
    (s.recordTransaction day complaint t).transactions = s.transactions ++ [t] := by
  have henter := (enter_frame day complaint t s).1
  rw [recordTransaction_eq]
  split
  · exact henter
  · exact henter

theorem sources_recordTransaction (day : String → Option Date) (complaint : String → Warning)
    (t : Transaction) (s : Snapshot) :
    (s.recordTransaction day complaint t).sources = s.sources := by
  obtain ⟨-, -, -, henter⟩ := enter_frame day complaint t s
  rw [recordTransaction_eq]
  split
  · exact henter
  · exact henter

/-- What the entries add to a tally, if each entry adds a list of keys to it. -/
theorem foldl_record_tally {κ : Type} [DecidableEq κ] {tally : Snapshot → Tally κ}
    {used : BookEntry → List κ}
    (h : ∀ (e : BookEntry) (s : Snapshot),
      tally (e.record complaint s) = (tally s).addEach (used e))
    (entries : List BookEntry) (s : Snapshot) :
    tally (entries.foldl (BookEntry.record complaint) s) =
      (tally s).addEach (entries.flatMap used) := by
  induction entries generalizing s with
  | nil => rfl
  | cons e rest ih =>
    rw [List.foldl_cons, ih, h, List.flatMap_cons, Tally.addEach, Tally.addEach, Tally.addEach,
      List.foldl_append]

/-! ## Formats -/

/-- Whether a snapshot has the decimal mark of an earlier one and no format that is not there. -/
structure FormatsFrom (s s' : Snapshot) : Prop where
  decimalMark : s'.decimalMark = s.decimalMark
  format : ∀ ⦃symbol c f⦄, s'.commodities.get? symbol = some c → c.format = some f →
    ∃ c', s.commodities.get? symbol = some c' ∧ c'.format = some f

namespace FormatsFrom

variable {s s' s'' : Snapshot}

theorem of_eq (hmark : s'.decimalMark = s.decimalMark)
    (hcommodities : s'.commodities = s.commodities) : FormatsFrom s s' :=
  ⟨hmark, fun _ c _ hc hf => ⟨c, hcommodities ▸ hc, hf⟩⟩

theorem trans (h : FormatsFrom s s') (h' : FormatsFrom s' s'') : FormatsFrom s s'' where
  decimalMark := h'.decimalMark.trans h.decimalMark
  format symbol c f hc hf := by
    obtain ⟨c', hc', hf'⟩ := h'.format hc hf
    exact h.format hc' hf'

/-- A commodity that is added without a format brings none. -/
theorem addCommodity (s : Snapshot) (symbol : String) (declared : Bool) :
    FormatsFrom s (s.addCommodity symbol ⟨none, declared⟩) where
  decimalMark := rfl
  format symbol' c f hc hf := by
    unfold Snapshot.addCommodity at hc
    dsimp only at hc
    rw [Table.get?_alter] at hc
    split at hc
    · rename_i heq
      cases hold : s.commodities.get? symbol with
      | none =>
        rw [hold] at hc
        cases hc
        cases hf
      | some old =>
        rw [hold] at hc
        cases hc
        exact ⟨old, heq ▸ hold, by simpa using hf⟩
    · exact ⟨c, hc, hf⟩

theorem foldl_mentionCommodity (symbols : List String) (s : Snapshot) :
    FormatsFrom s (symbols.foldl mentionCommodity s) := by
  induction symbols generalizing s with
  | nil => exact of_eq rfl rfl
  | cons symbol rest ih => exact (addCommodity s symbol false).trans (ih _)

theorem record (complaint : String → Warning) (e : BookEntry) (s : Snapshot) :
    FormatsFrom s (e.record complaint s) := by
  cases e with
  | tag tag =>
    rw [BookEntry.record, useTag_eq]
    exact of_eq rfl rfl
  | commodity symbol => exact (addCommodity s symbol false).trans (of_eq rfl rfl)
  | sideCommodity symbol => exact addCommodity s symbol false
  | _ => exact of_eq rfl rfl

/-- **A transaction brings no format.** -/
theorem recordTransaction (day : String → Option Date) (complaint : String → Warning)
    (t : Transaction) (s : Snapshot) : FormatsFrom s (s.recordTransaction day complaint t) := by
  have henter : FormatsFrom s (s.enter day complaint t) :=
    foldl_record_induction (P := FormatsFrom s)
      (fun e s' h => h.trans (record complaint e s')) _ (of_eq rfl rfl)
  rw [recordTransaction_eq]
  split
  · exact henter.trans (of_eq rfl rfl)
  · exact henter

end FormatsFrom

end Snapshot

end Daybook
