import Daybook.Proofs.Snapshot.Absorb

/-!
# Usage tables are recounts

A snapshot keeps its transactions and, beside them, tables of how often each name is used.  The
tables are kept up to date by many small changes while a text is read and are added up when
snapshots are merged.  Whatever the order of these steps, each table is what counting through the
transactions gives, and the sets of names that a snapshot keeps agree with the keys of the tables.

* `Journal.Transaction.accounts`, `Journal.Transaction.commodities`, …: what a transaction uses,
  each name as often as it is used.
* `Snapshot.Recounts`: the usage tables are the recounts of a list of transactions.
* `Snapshot.Linked`: the sets of names agree with the usage tables.
* `Snapshot.recounts_of_reachable`, `Snapshot.linked_of_reachable`: both hold of every reachable
  snapshot.
-/

namespace Daybook

open Calendar Journal

/-! ## What a transaction uses -/

namespace Journal.Transaction

/-- The accounts of the postings, one for each posting. -/
def accounts (t : Transaction) : List String :=
  t.postings.map (·.account)

/-- The commodities of the postings, one for each posting that has one. -/
def commodities (t : Transaction) : List String :=
  t.postings.flatMap fun p => p.commodity.toList.filter (!·.isEmpty)

/-- The payee, if there is one. -/
def payees (t : Transaction) : List String :=
  if t.payee.isEmpty then [] else [t.payee]

/-- The tags of the transaction and of its postings. -/
def allTags (t : Transaction) : List TagPair :=
  t.tags ++ t.postings.flatMap (·.tags)

/-- The keys of all tags. -/
def tagKeys (t : Transaction) : List String :=
  t.allTags.map (·.1)

/-- The tags that have a value. -/
def valuedTags (t : Transaction) : List TagPair :=
  t.allTags.filter (!·.2.isEmpty)

/-- The payee, if there is one, with the account of each posting. -/
def payeeAccounts (t : Transaction) : List (String × String) :=
  t.payees.flatMap fun payee => t.postings.map fun p => (payee, p.account)

end Journal.Transaction

namespace BookEntry

/-- The account that an entry uses. -/
def accounts : BookEntry → List String
  | account a => [a]
  | _ => []

/-- The commodity that an entry uses. -/
def commodities : BookEntry → List String
  | commodity c => [c]
  | _ => []

/-- The payee that an entry uses. -/
def payees : BookEntry → List String
  | payee p => [p]
  | _ => []

/-- The tag that an entry uses. -/
def tags : BookEntry → List TagPair
  | tag t => [t]
  | _ => []

/-- The payee and the account that an entry uses together. -/
def payeeAccounts : BookEntry → List (String × String)
  | payeeAccount p a => [(p, a)]
  | _ => []

end BookEntry

namespace Journal

theorem flatMap_postingTagEntries {κ : Type} {used : BookEntry → List κ}
    (hdate : ∀ d, used (.date d) = []) (hbad : ∀ value, used (.badDate value) = [])
    (day : String → Option Date) (tag : TagPair) :
    (postingTagEntries day tag).flatMap used = used (.tag tag) := by
  unfold postingTagEntries
  split
  · cases day tag.2 <;> simp [hdate, hbad]
  · simp

/-- What the entries of a transaction use, in the order of the journal.  Dates are left out, so it
does not matter how they are read. -/
theorem Transaction.flatMap_entries {κ : Type} {used : BookEntry → List κ}
    (hdate : ∀ d, used (.date d) = []) (hbad : ∀ value, used (.badDate value) = [])
    (day : String → Option Date) (t : Transaction) :
    (t.entries day).flatMap used =
      t.payees.flatMap (fun payee => used (.payee payee)) ++
        (t.tags.flatMap (fun tag => used (.tag tag)) ++
          t.postings.flatMap fun p =>
            used (.account p.account) ++
              ((p.commodity.toList.filter (!·.isEmpty)).flatMap (fun c => used (.commodity c)) ++
                (p.sideCommodities.flatMap (fun c => used (.sideCommodity c)) ++
                  (t.payees.flatMap (fun payee => used (.payeeAccount payee p.account)) ++
                    p.tags.flatMap (fun tag => used (.tag tag)))))) := by
  have hpayee : (if t.payee.isEmpty then [] else [BookEntry.payee t.payee]) =
      t.payees.map .payee := by
    unfold payees
    split <;> rfl
  have haccount : ∀ p : Posting,
      (if t.payee.isEmpty then [] else [BookEntry.payeeAccount t.payee p.account]) =
        t.payees.map (.payeeAccount · p.account) := by
    intro p
    unfold payees
    split <;> rfl
  simp only [entries, Posting.entries, hpayee, haccount, List.flatMap_cons, hdate,
    List.nil_append, List.flatMap_append, List.flatMap_map, List.flatMap_assoc, List.append_assoc,
    flatMap_postingTagEntries hdate hbad]

theorem flatMap_nothing {α κ : Type} (l : List α) : (l.flatMap fun _ => ([] : List κ)) = [] :=
  List.flatMap_eq_nil_iff.mpr fun _ _ => rfl

namespace Transaction

variable (day : String → Option Date) (t : Transaction)

theorem flatMap_accounts_entries : (t.entries day).flatMap BookEntry.accounts = t.accounts := by
  rw [flatMap_entries (fun _ => rfl) (fun _ => rfl)]
  simp [BookEntry.accounts, accounts, flatMap_nothing, List.map_eq_flatMap]

theorem flatMap_commodities_entries :
    (t.entries day).flatMap BookEntry.commodities = t.commodities := by
  rw [flatMap_entries (fun _ => rfl) (fun _ => rfl)]
  simp [BookEntry.commodities, commodities, flatMap_nothing]

theorem flatMap_payees_entries : (t.entries day).flatMap BookEntry.payees = t.payees := by
  rw [flatMap_entries (fun _ => rfl) (fun _ => rfl)]
  simp [BookEntry.payees, flatMap_nothing]

theorem flatMap_tags_entries : (t.entries day).flatMap BookEntry.tags = t.allTags := by
  rw [flatMap_entries (fun _ => rfl) (fun _ => rfl)]
  simp [BookEntry.tags, allTags, flatMap_nothing]

theorem flatMap_payeeAccounts_entries :
    (t.entries day).flatMap BookEntry.payeeAccounts = t.payeeAccounts := by
  rw [flatMap_entries (fun _ => rfl) (fun _ => rfl)]
  cases hpayee : t.payee.isEmpty with
  | true => simp [BookEntry.payeeAccounts, payeeAccounts, payees, hpayee, flatMap_nothing]
  | false =>
    simp [BookEntry.payeeAccounts, payeeAccounts, payees, hpayee, flatMap_nothing,
      List.map_eq_flatMap]

end Transaction

end Journal

namespace Snapshot

/-! ## Recounts -/

/-- Whether the usage tables of a snapshot are the recounts of a list of transactions: the keys are
the names that the transactions use, each with the number of its uses. -/
structure Recounts (s : Snapshot) (ts : List Transaction) : Prop where
  accountUsage : s.accountUsage.Tallies (ts.flatMap (·.accounts))
  commodityUsage : s.commodityUsage.Tallies (ts.flatMap (·.commodities))
  payeeUsage : s.payeeUsage.Tallies (ts.flatMap (·.payees))
  tagUsage : s.tagUsage.Tallies (ts.flatMap (·.tagKeys))
  tagValueUsage : s.tagValueUsage.Tallies (ts.flatMap (·.valuedTags))
  payeeAccountUsage : s.payeeAccountUsage.Tallies (ts.flatMap (·.payeeAccounts))

theorem recounts_empty : Recounts .empty [] where
  accountUsage := Tally.tallies_empty
  commodityUsage := Tally.tallies_empty
  payeeUsage := Tally.tallies_empty
  tagUsage := Tally.tallies_empty
  tagValueUsage := Tally.tallies_empty
  payeeAccountUsage := Tally.tallies_empty

section Enter

variable (day : String → Option Date) (complaint : String → Warning) (t : Transaction)
  (s : Snapshot)

theorem accountUsage_enter :
    (s.enter day complaint t).accountUsage = s.accountUsage.addEach t.accounts := by
  rw [← t.flatMap_accounts_entries day]
  refine foldl_record_tally (fun e s => ?_) _ _
  cases e with
  | tag tag => rw [BookEntry.record, useTag_eq]; rfl
  | _ => rfl

theorem commodityUsage_enter :
    (s.enter day complaint t).commodityUsage = s.commodityUsage.addEach t.commodities := by
  rw [← t.flatMap_commodities_entries day]
  refine foldl_record_tally (fun e s => ?_) _ _
  cases e with
  | tag tag => rw [BookEntry.record, useTag_eq]; rfl
  | _ => rfl

theorem payeeUsage_enter :
    (s.enter day complaint t).payeeUsage = s.payeeUsage.addEach t.payees := by
  rw [← t.flatMap_payees_entries day]
  refine foldl_record_tally (fun e s => ?_) _ _
  cases e with
  | tag tag => rw [BookEntry.record, useTag_eq]; rfl
  | _ => rfl

theorem tagUsage_enter :
    (s.enter day complaint t).tagUsage = s.tagUsage.addEach t.tagKeys := by
  rw [Transaction.tagKeys, ← t.flatMap_tags_entries day, List.map_flatMap]
  refine foldl_record_tally (fun e s => ?_) _ _
  cases e with
  | tag tag => rw [BookEntry.record, useTag_eq]; rfl
  | _ => rfl

theorem tagValueUsage_enter :
    (s.enter day complaint t).tagValueUsage = s.tagValueUsage.addEach t.valuedTags := by
  rw [Transaction.valuedTags, ← t.flatMap_tags_entries day, List.filter_flatMap]
  refine foldl_record_tally (fun e s => ?_) _ _
  cases e with
  | tag tag =>
    rw [BookEntry.record, useTag_eq]
    simp only [BookEntry.tags, List.filter]
    cases tag.2.isEmpty <;> rfl
  | _ => rfl

theorem payeeAccountUsage_enter :
    (s.enter day complaint t).payeeAccountUsage = s.payeeAccountUsage.addEach t.payeeAccounts := by
  rw [← t.flatMap_payeeAccounts_entries day]
  refine foldl_record_tally (fun e s => ?_) _ _
  cases e with
  | tag tag => rw [BookEntry.record, useTag_eq]; rfl
  | _ => rfl

end Enter

/-- Recording a transaction recounts it too. -/
theorem Recounts.recordTransaction {s : Snapshot} {ts : List Transaction} (h : s.Recounts ts)
    (day : String → Option Date) (complaint : String → Warning) (t : Transaction) :
    (s.recordTransaction day complaint t).Recounts (ts ++ [t]) := by
  have henter : (s.enter day complaint t).Recounts (ts ++ [t]) := by
    constructor <;> rw [List.flatMap_append, List.flatMap_singleton]
    · rw [accountUsage_enter]
      exact h.accountUsage.addEach _
    · rw [commodityUsage_enter]
      exact h.commodityUsage.addEach _
    · rw [payeeUsage_enter]
      exact h.payeeUsage.addEach _
    · rw [tagUsage_enter]
      exact h.tagUsage.addEach _
    · rw [tagValueUsage_enter]
      exact h.tagValueUsage.addEach _
    · rw [payeeAccountUsage_enter]
      exact h.payeeAccountUsage.addEach _
  rw [recordTransaction_eq]
  split
  · exact { henter with }
  · exact henter

/-- Merging recounts the transactions of both sides. -/
theorem Recounts.absorb {a b : Snapshot} {ts ts' : List Transaction} (ha : a.Recounts ts)
    (hb : b.Recounts ts') : (a.absorb b).Recounts (ts ++ ts') := by
  rw [absorb_eq]
  constructor <;> rw [List.flatMap_append]
  · exact ha.accountUsage.addAll hb.accountUsage
  · exact ha.commodityUsage.addAll hb.commodityUsage
  · exact ha.payeeUsage.addAll hb.payeeUsage
  · exact ha.tagUsage.addAll hb.tagUsage
  · exact ha.tagValueUsage.addAll hb.tagValueUsage
  · exact ha.payeeAccountUsage.addAll hb.payeeAccountUsage

/-- The usage tables stay recounts of the transactions, whatever a statement changes. -/
theorem Recounts.change {s s' : Snapshot} (h : s.Recounts s.transactions) (hs : Change s s') :
    s'.Recounts s'.transactions := by
  cases hs with
  | transaction day complaint t =>
    rw [transactions_recordTransaction]
    exact h.recordTransaction day complaint t
  | _ => exact { h with }

/-- **Usage tables are recounts.**  However a snapshot was built and merged, its usage tables are
what counting through its transactions gives. -/
theorem recounts_of_reachable {s : Snapshot} (h : Reachable s) : s.Recounts s.transactions := by
  refine h.induction (P := fun s => s.Recounts s.transactions) recounts_empty
    (fun s s' hs hstep => hs.change hstep) fun a b ha hb => ?_
  rw [transactions_absorb]
  exact ha.absorb hb

/-! ## Sets of names -/

/-- Whether a table of sets groups the pairs of a tally by their first parts.  No set is empty. -/
structure Groups (t : Table String (List String)) (pairs : Tally (String × String)) : Prop where
  mem_iff : ∀ k x, x ∈ (t.get? k).getD [] ↔ pairs.contains (k, x)
  get?_ne : ∀ k, t.get? k ≠ some []

namespace Groups

variable {t added : Table String (List String)} {pairs pairs' : Tally (String × String)}

theorem empty : Groups .empty .empty where
  mem_iff k x := by simp [Table.contains]
  get?_ne k := by simp

/-- One more pair. -/
theorem add (h : Groups t pairs) (k x : String) :
    Groups (t.alter k fun old => (old.getD []).insert x) (pairs.add (k, x) 1) where
  mem_iff k' x' := by
    rw [Tally.contains_add, Table.get?_alter, Prod.mk.injEq, ← h.mem_iff]
    by_cases hk : k' = k
    · rw [if_pos hk, hk, Option.getD_some, List.mem_insert_iff]
      simp
    · rw [if_neg hk]
      simp [hk]
  get?_ne k' := by
    rw [Table.get?_alter]
    split
    · intro hnil
      exact List.ne_nil_of_mem List.mem_insert_self (Option.some.inj hnil)
    · exact h.get?_ne k'

/-- The sets of two tables united group the pairs of both. -/
theorem unite (h : Groups t pairs) (h' : Groups added pairs') (hadded : added.Distinct) :
    Groups (Snapshot.unite t added) (pairs.addAll pairs') where
  mem_iff k x := by
    rw [mem_get?_unite hadded, Tally.contains_addAll, h.mem_iff, h'.mem_iff]
  get?_ne k := by
    rw [get?_unite hadded]
    cases hmembers : added.get? k with
    | none => exact h.get?_ne k
    | some members =>
      intro hnil
      cases members with
      | nil => exact h'.get?_ne k hmembers
      | cons x rest =>
        have hx : x ∈ uniteMembers ((t.get? k).getD []) (x :: rest) :=
          mem_uniteMembers.mpr (.inr List.mem_cons_self)
        rw [Option.some.inj hnil] at hx
        cases hx

end Groups

/-- Whether the sets of names of a snapshot agree with its usage tables. -/
structure Linked (s : Snapshot) : Prop where
  /-- The accounts that are marked as used are those with a count. -/
  used : ∀ a, (s.accounts.get? a).any (·.used) ↔ s.accountUsage.contains a
  /-- The payees are the declared ones and those with a count. -/
  payees : ∀ p, p ∈ s.payees ↔ p ∈ s.declaredPayees ∨ s.payeeUsage.contains p
  tagValues : Groups s.tagValues s.tagValueUsage
  payeeAccounts : Groups s.payeeAccounts s.payeeAccountUsage
  commodities : ∀ c, s.commodityUsage.contains c → s.commodities.contains c
  tags : ∀ k, s.tagUsage.contains k → k ∈ s.tags

theorem linked_empty : Linked .empty where
  used a := by simp [empty, Table.contains]
  payees p := by simp [empty, Table.contains]
  tagValues := .empty
  payeeAccounts := .empty
  commodities c h := by simp [empty, Table.contains] at h
  tags k h := by simp [empty, Table.contains] at h

namespace Linked

variable {s : Snapshot}

/-- What is added about an account marks it as used if it says so. -/
theorem any_used_addAccount (s : Snapshot) (name : String) (account : Account) (a : String) :
    ((s.addAccount name account).accounts.get? a).any (·.used) ↔
      a = name ∧ account.used ∨ (s.accounts.get? a).any (·.used) := by
  rw [addAccount_eq]
  dsimp only
  rw [Table.get?_alter]
  by_cases ha : a = name
  · rw [if_pos ha, ha]
    cases s.accounts.get? name with
    | none => simp [Table.joinTo]
    | some old => simp [Table.joinTo, Account.join, or_comm]
  · simp [ha]

theorem contains_addCommodity (s : Snapshot) (symbol : String) (commodity : Commodity)
    (c : String) :
    (s.addCommodity symbol commodity).commodities.contains c ↔
      c = symbol ∨ s.commodities.contains c :=
  Table.contains_alter _ _ _ _

theorem record (h : s.Linked) (complaint : String → Warning) (e : BookEntry) :
    (e.record complaint s).Linked := by
  cases e with
  | date date => exact { h with }
  | badDate value => exact { h with }
  | payee payee =>
    refine { h with payees := fun p => ?_ }
    rw [BookEntry.record, usePayee, Tally.contains_add, List.mem_insert_iff, h.payees p]
    tauto
  | tag tag =>
    rw [BookEntry.record, useTag_eq]
    refine { h with tagValues := ?_, tags := fun k hk => ?_ }
    · cases tag.2.isEmpty with
      | true => exact h.tagValues
      | false => exact h.tagValues.add tag.1 tag.2
    · rw [Tally.contains_add] at hk
      rw [List.mem_insert_iff]
      exact hk.imp_right (h.tags k)
  | account account =>
    refine { h with used := fun a => ?_ }
    rw [BookEntry.record, useAccount, Tally.contains_add, any_used_addAccount, h.used a]
    simp [addAccount]
  | commodity symbol =>
    refine { h with commodities := fun c hc => ?_ }
    rw [BookEntry.record, useCommodity, Tally.contains_add] at hc
    rw [BookEntry.record, useCommodity, mentionCommodity, contains_addCommodity]
    exact hc.imp_right (h.commodities c)
  | sideCommodity symbol =>
    refine { h with commodities := fun c hc => ?_ }
    rw [BookEntry.record, mentionCommodity, contains_addCommodity]
    exact .inr (h.commodities c hc)
  | payeeAccount payee account =>
    exact { h with payeeAccounts := h.payeeAccounts.add payee account }

theorem recordTransaction (h : s.Linked) (day : String → Option Date)
    (complaint : String → Warning) (t : Transaction) :
    (s.recordTransaction day complaint t).Linked := by
  have henter : (s.enter day complaint t).Linked :=
    foldl_record_induction (P := Linked) (fun e _ hs => hs.record complaint e) _ { h with }
  rw [recordTransaction_eq]
  split
  · exact { henter with }
  · exact henter

/-- No statement of a journal breaks the links. -/
theorem change {s' : Snapshot} (h : s.Linked) (hs : Change s s') : s'.Linked := by
  cases hs with
  | account name =>
    refine { h with used := fun a => ?_ }
    rw [declareAccount, any_used_addAccount, h.used a]
    simp [addAccount]
  | commodity symbol commodity =>
    refine { h with commodities := fun c hc => ?_ }
    rw [contains_addCommodity]
    exact .inr (h.commodities c hc)
  | payee payee =>
    refine { h with payees := fun p => ?_ }
    rw [declarePayee, List.mem_insert_iff, List.mem_insert_iff, h.payees p]
    tauto
  | tag key =>
    refine { h with tags := fun k hk => ?_ }
    rw [declareTag, List.mem_insert_iff]
    exact .inr (h.tags k hk)
  | transaction day complaint t => exact h.recordTransaction day complaint t
  | _ => exact { h with }

/-- Merging keeps the links. -/
theorem absorb {a b : Snapshot} (ha : a.Linked) (hb : b.Linked) (hdistinct : b.Distinct) :
    (a.absorb b).Linked where
  used x := by
    rw [get?_accounts_absorb hdistinct]
    rw [absorb_eq, Tally.contains_addAll, ← ha.used x, ← hb.used x]
    cases a.accounts.get? x <;> cases b.accounts.get? x <;> simp [Account.join]
  payees p := by
    rw [absorb_eq, mem_uniteMembers, mem_uniteMembers, Tally.contains_addAll, ha.payees p,
      hb.payees p]
    tauto
  tagValues := by
    rw [absorb_eq]
    exact ha.tagValues.unite hb.tagValues hdistinct.tagValues
  payeeAccounts := by
    rw [absorb_eq]
    exact ha.payeeAccounts.unite hb.payeeAccounts hdistinct.payeeAccounts
  commodities c hc := by
    rw [absorb_eq, Tally.contains_addAll] at hc
    rw [absorb_eq, Table.contains_foldl_alter (fun e : String × Commodity => e.1),
      ← Table.keys, ← Table.contains_iff_mem_keys]
    exact hc.imp (ha.commodities c) (hb.commodities c)
  tags k hk := by
    rw [absorb_eq, Tally.contains_addAll] at hk
    rw [absorb_eq, mem_uniteMembers]
    exact hk.imp (ha.tags k) (hb.tags k)

end Linked

/-- **The sets of names agree with the usage tables** in every reachable snapshot. -/
theorem linked_of_reachable {s : Snapshot} (h : Reachable s) : s.Linked := by
  have hboth : s.Distinct ∧ s.Linked :=
    h.induction (P := fun s => s.Distinct ∧ s.Linked) ⟨distinct_empty, linked_empty⟩
      (fun _ _ hs hstep => ⟨hs.1.change hstep, hs.2.change hstep⟩)
      fun _ _ ha hb => ⟨ha.1.absorb, ha.2.absorb hb.2 hb.1⟩
  exact hboth.2

/-- **Recounts and sets of names.**  In every snapshot that builds and merges lead to, the usage
tables are the recounts of the transactions, and the sets of names agree with their keys. -/
theorem recounts_and_linked_of_reachable {s : Snapshot} (h : Reachable s) :
    s.Recounts s.transactions ∧ s.Linked :=
  ⟨recounts_of_reachable h, linked_of_reachable h⟩

/-- Two visits to a shop, one in each of two texts that are merged. -/
theorem recounts_and_linked_of_two_visits :
    ∃ a b, ofText .plain "2024-01-05 S ; t:v\n a  1 E\n b\n" = .ok a ∧
      ofText .plain "2024-01-06 S\n a  2 E ; t:w\n" = .ok b ∧
      (a.merge b).accountUsage.entries = [("a", 2), ("b", 1)] ∧
      (a.merge b).commodityUsage.entries = [("E", 2)] ∧
      (a.merge b).payeeUsage.entries = [("S", 2)] ∧
      (a.merge b).tagUsage.entries = [("t", 2)] ∧
      (a.merge b).tagValueUsage.entries = [(("t", "v"), 1), (("t", "w"), 1)] ∧
      (a.merge b).payeeAccountUsage.entries = [(("S", "a"), 2), (("S", "b"), 1)] ∧
      (a.merge b).Recounts (a.merge b).transactions ∧ (a.merge b).Linked := by
  have hread : ((ofText .plain "2024-01-05 S ; t:v\n a  1 E\n b\n").bind fun a =>
      (ofText .plain "2024-01-06 S\n a  2 E ; t:w\n").map fun b => decide (
        (a.merge b).accountUsage.entries = [("a", 2), ("b", 1)] ∧
        (a.merge b).commodityUsage.entries = [("E", 2)] ∧
        (a.merge b).payeeUsage.entries = [("S", 2)] ∧
        (a.merge b).tagUsage.entries = [("t", 2)] ∧
        (a.merge b).tagValueUsage.entries = [(("t", "v"), 1), (("t", "w"), 1)] ∧
        (a.merge b).payeeAccountUsage.entries = [(("S", "a"), 2), (("S", "b"), 1)])) =
      .ok true := by
    decide +kernel
  obtain ⟨a, b, ha, hb, hfacts⟩ := exists_ok_of_bind_map hread
  obtain ⟨haccounts, hcommodities, hpayees, htags, hvalues, htogether⟩ := of_decide_eq_true hfacts
  obtain ⟨hrecounts, hlinked⟩ :=
    recounts_and_linked_of_reachable ((Reachable.ofText ha).merge (.ofText hb))
  exact ⟨a, b, ha, hb, haccounts, hcommodities, hpayees, htags, hvalues, htogether, hrecounts,
    hlinked⟩

/-- The postings of transactions without a payee are not counted together with the empty name. -/
theorem exists_payeeAccountUsage_ne_recount :
    ¬ ∀ s, Reachable s → ∀ payee account,
      s.payeeAccountUsage.count (payee, account) =
        ((s.transactions.filter (·.payee = payee)).flatMap (·.accounts)).count account := by
  intro hall
  have hread : (ofText .plain "2024-01-05\n a\n").map (fun s =>
      (s.payeeAccountUsage.count ("", "a"),
        ((s.transactions.filter (·.payee = "")).flatMap (·.accounts)).count "a")) =
      .ok (0, 1) := by
    decide +kernel
  cases htext : ofText .plain "2024-01-05\n a\n" with
  | error e =>
    rw [htext] at hread
    cases hread
  | ok s =>
    rw [htext] at hread
    obtain ⟨hcount, hpostings⟩ := Prod.mk.inj (Except.ok.inj hread)
    have hclash : (0 : Nat) = 1 := by
      rw [← hcount, hall s (.ofText htext) "" "a", hpostings]
    cases hclash

end Snapshot

end Daybook
