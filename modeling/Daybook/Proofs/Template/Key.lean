import Daybook.Proofs.Builder.Lines
import Daybook.Proofs.Snapshot.Recount
import Daybook.Proofs.Template.Store
import Daybook.Proofs.Text.Split
import Mathlib.Data.String.Basic

/-!
# The keys of templates

The key of a template is one text, made of the names of its accounts with bars between them.  The name
of an account can hold a bar itself, so what a key tells is not where one name ends and the next one
begins but only what stands between the bars.  Names without bars are told apart.

* `Template.sortedAccounts`, `Template.barPieces`: the accounts in the order in which a key has them,
  and what stands between the bars.
* `Template.templateKey_eq_iff`: when two lists of accounts have the same key.
* `Template.templateKey_eq_iff_of_no_bar`: names without bars have the same key if they are the same
  names.
* `Template.ShareTemplate`: whether two transactions are counted on one template.
-/

namespace Daybook

open Journal Text

namespace Template

/-! ## The order of accounts in a key -/

theorem nodup_eraseDups (l : List String) : l.eraseDups.Nodup := by
  induction l using List.reverseRecOn with
  | nil => exact List.nodup_nil
  | append_singleton l a ih =>
    rw [eraseDups_concat]
    split
    · exact ih
    · rename_i ha
      exact List.nodup_append_comm.mpr (List.nodup_cons.mpr ⟨mt List.mem_eraseDups.mp ha, ih⟩)

/-- The different accounts of a list, sorted. -/
def sortedAccounts (accounts : List String) : List String :=
  accounts.eraseDups.mergeSort fun a b => decide (a ≤ b)

theorem mem_sortedAccounts {accounts : List String} {a : String} :
    a ∈ sortedAccounts accounts ↔ a ∈ accounts := by
  rw [sortedAccounts, List.mem_mergeSort, List.mem_eraseDups]

theorem pairwise_sortedAccounts (accounts : List String) :
    (sortedAccounts accounts).Pairwise (· ≤ ·) := by
  refine (List.pairwise_mergeSort (fun a b c hab hbc => ?_) (fun a b => ?_) _).imp
    of_decide_eq_true
  · exact decide_eq_true ((of_decide_eq_true hab).trans (of_decide_eq_true hbc))
  · simpa using le_total a b

theorem nodup_sortedAccounts (accounts : List String) : (sortedAccounts accounts).Nodup :=
  (List.mergeSort_perm _ _).nodup_iff.mpr (nodup_eraseDups accounts)

/-- The sorted accounts are a matter of which accounts there are. -/
theorem sortedAccounts_eq_iff {accounts accounts' : List String} :
    sortedAccounts accounts = sortedAccounts accounts' ↔ ∀ a, a ∈ accounts ↔ a ∈ accounts' := by
  constructor
  · intro h a
    rw [← mem_sortedAccounts, h, mem_sortedAccounts]
  · intro h
    have hperm : (sortedAccounts accounts).Perm (sortedAccounts accounts') :=
      (List.perm_ext_iff_of_nodup (nodup_sortedAccounts _) (nodup_sortedAccounts _)).mpr
        fun a => by rw [mem_sortedAccounts, mem_sortedAccounts, h]
    exact hperm.eq_of_pairwise (fun _ _ _ _ => le_antisymm) (pairwise_sortedAccounts _)
      (pairwise_sortedAccounts _)

/-! ## What a key tells -/

/-- What stands between the bars of a key: the pieces of the names of its accounts. -/
def barPieces (accounts : List String) : List (List Char) :=
  (sortedAccounts accounts).flatMap fun a => splitAt '|' a.toList

/-- The pieces of a key are those of the names that it was made of. -/
theorem splitAt_templateKey {accounts : List String} (h : accounts ≠ []) :
    splitAt '|' (templateKey accounts).toList = barPieces accounts := by
  obtain ⟨a, ha⟩ := List.exists_mem_of_ne_nil accounts h
  have hne : (sortedAccounts accounts).map String.toList ≠ [] :=
    List.map_eq_nil_iff.not.mpr (List.ne_nil_of_mem (mem_sortedAccounts.mpr ha))
  have hkey : (templateKey accounts).toList =
      ['|'].intercalate ((sortedAccounts accounts).map String.toList) :=
    String.toList_intercalate
  rw [hkey, splitAt_intercalate '|' hne, List.flatMap_map, barPieces]

/-- **When two lists of accounts have the same key**: when the same texts stand between the bars. -/
theorem templateKey_eq_iff {accounts accounts' : List String} (h : accounts ≠ [])
    (h' : accounts' ≠ []) :
    templateKey accounts = templateKey accounts' ↔ barPieces accounts = barPieces accounts' := by
  rw [← splitAt_templateKey h, ← splitAt_templateKey h', (splitAt_injective '|').eq_iff,
    String.toList_inj]

/-- The same accounts have the same key, in whatever order and however often they are named. -/
theorem templateKey_congr {accounts accounts' : List String}
    (h : ∀ a, a ∈ accounts ↔ a ∈ accounts') : templateKey accounts = templateKey accounts' :=
  congrArg "|".intercalate (sortedAccounts_eq_iff.mpr h)

/-- Names without bars are their own pieces. -/
theorem barPieces_of_no_bar {accounts : List String} (h : ∀ a ∈ accounts, '|' ∉ a.toList) :
    barPieces accounts = (sortedAccounts accounts).map String.toList := by
  rw [barPieces, ← List.flatMap_singleton' ((sortedAccounts accounts).map String.toList),
    List.flatMap_map]
  exact List.flatMap_congr fun a ha => splitAt_of_not_mem (h a (mem_sortedAccounts.mp ha))

/-- **Names without bars have the same key exactly if they are the same names.** -/
theorem templateKey_eq_iff_of_no_bar {accounts accounts' : List String} (h : accounts ≠ [])
    (h' : accounts' ≠ []) (hbar : ∀ a ∈ accounts, '|' ∉ a.toList)
    (hbar' : ∀ a ∈ accounts', '|' ∉ a.toList) :
    templateKey accounts = templateKey accounts' ↔ ∀ a, a ∈ accounts ↔ a ∈ accounts' := by
  rw [templateKey_eq_iff h h', barPieces_of_no_bar hbar, barPieces_of_no_bar hbar',
    (List.map_injective_iff.mpr fun _ _ => String.toList_injective).eq_iff, sortedAccounts_eq_iff]

end Template

/-! ## Transactions that share a template -/

namespace Template

/-- Whether two transactions of a payee are counted on one template: counted one after the other, they
leave one template and not two. -/
def ShareTemplate (payee : String) (u v : Transaction) : Prop :=
  (recordUse payee v.date v.postings (recordUse payee u.date u.postings .empty)).size = 1

theorem recordUse_empty (payee : String) (u : Transaction) :
    recordUse payee u.date u.postings .empty = tableOfUse payee u :=
  rfl

/-- **Transactions share a template exactly if they have the same key.** -/
theorem shareTemplate_iff {payee : String} {u v : Transaction} :
    ShareTemplate payee u v ↔ u.templateKey = v.templateKey := by
  rw [ShareTemplate, recordUse_empty, recordUse_eq, Table.size, Table.alter, tableOfUse,
    Table.alterEntries]
  split
  · rename_i hkey
    exact iff_of_true rfl hkey
  · rename_i hkey
    exact iff_of_false (by simp [Table.alterEntries]) hkey

/-- **A template stands for a set of accounts, as far as no name has a bar in it.**  Two lists of
accounts have the same key exactly if the same texts stand between the bars, which they do if they name
the same accounts.  Where no name has a bar, there is no other way.  Transactions share a template
exactly if their accounts have the same key. -/
theorem templateKey_tells_accounts {accounts accounts' : List String} (h : accounts ≠ [])
    (h' : accounts' ≠ []) :
    (templateKey accounts = templateKey accounts' ↔ barPieces accounts = barPieces accounts') ∧
    ((∀ a, a ∈ accounts ↔ a ∈ accounts') → templateKey accounts = templateKey accounts') ∧
    ((∀ a ∈ accounts ++ accounts', '|' ∉ a.toList) →
      (templateKey accounts = templateKey accounts' ↔ ∀ a, a ∈ accounts ↔ a ∈ accounts')) ∧
    ∀ payee (u v : Transaction), u.accounts = accounts → v.accounts = accounts' →
      (ShareTemplate payee u v ↔ templateKey accounts = templateKey accounts') := by
  refine ⟨templateKey_eq_iff h h', templateKey_congr, fun hbar => ?_, ?_⟩
  · exact templateKey_eq_iff_of_no_bar h h'
      (fun a ha => hbar a (List.mem_append_left _ ha))
      fun a ha => hbar a (List.mem_append_right _ ha)
  · rintro payee u v rfl rfl
    exact shareTemplate_iff

/-- Two accounts in either order, and one of them alone. -/
theorem templateKey_tells_accounts_of_two :
    templateKey ["a:b", "c"] = templateKey ["c", "a:b", "c"] ∧
      templateKey ["a:b", "c"] ≠ templateKey ["c"] := by
  obtain ⟨-, hsame, -⟩ :=
    @templateKey_tells_accounts ["a:b", "c"] ["c", "a:b", "c"] (by decide) (by decide)
  obtain ⟨-, -, hbar, -⟩ := @templateKey_tells_accounts ["a:b", "c"] ["c"] (by decide) (by decide)
  have hother : ¬∀ a, a ∈ ["a:b", "c"] ↔ a ∈ ["c"] := fun h => absurd (h "a:b") (by decide)
  exact ⟨hsame (by simp [or_comm]), mt (hbar (by decide)).mp hother⟩

/-- **A name with a bar passes for two.**  A transaction that uses one account with a bar in its name
and one that uses two accounts of the parts of it are counted on one template. -/
theorem exists_template_of_two_account_sets :
    ∃ s u v, Snapshot.ofText .plain "2024-01-05 x\n a|b\n a|b\n2024-01-06 x\n a\n b\n" = .ok s ∧
      s.transactions = [u, v] ∧ u.payee = "x" ∧ v.payee = "x" ∧
      u.accounts = ["a|b", "a|b"] ∧ v.accounts = ["a", "b"] ∧ ShareTemplate "x" u v := by
  have hread : (Snapshot.ofText .plain
      "2024-01-05 x\n a|b\n a|b\n2024-01-06 x\n a\n b\n").map
        (fun s => s.transactions.map fun t => (t.payee, t.accounts)) =
      .ok [("x", ["a|b", "a|b"]), ("x", ["a", "b"])] := by
    decide +kernel
  have hkeys : templateKey ["a|b", "a|b"] = templateKey ["a", "b"] := by
    have hsorted : sortedAccounts ["a", "b"] = ["a", "b"] :=
      List.mergeSort_of_pairwise (by decide)
    rw [templateKey_eq_iff (by decide) (by decide), barPieces, barPieces, hsorted]
    decide +kernel
  cases htext : Snapshot.ofText .plain
      "2024-01-05 x\n a|b\n a|b\n2024-01-06 x\n a\n b\n" with
  | error e =>
    rw [htext] at hread
    cases hread
  | ok s =>
    rw [htext] at hread
    have hread : s.transactions.map (fun t => (t.payee, t.accounts)) = _ := Except.ok.inj hread
    obtain ⟨u, rest, htransactions, hu, hrest⟩ := List.map_eq_cons_iff.mp hread
    obtain ⟨v, rest, rfl, hv, hnil⟩ := List.map_eq_cons_iff.mp hrest
    obtain ⟨hupayee, huaccounts⟩ := Prod.mk.inj hu
    obtain ⟨hvpayee, hvaccounts⟩ := Prod.mk.inj hv
    rw [List.map_eq_nil_iff.mp hnil] at htransactions
    refine ⟨s, u, v, rfl, htransactions, hupayee, hvpayee, huaccounts, hvaccounts, ?_⟩
    have hukey : u.templateKey = templateKey ["a|b", "a|b"] := congrArg templateKey huaccounts
    have hvkey : v.templateKey = templateKey ["a", "b"] := congrArg templateKey hvaccounts
    rw [shareTemplate_iff, hukey, hvkey, hkeys]

end Template

end Daybook
