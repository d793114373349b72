import Daybook.Snapshot.Basic
import Daybook.Text.Collation

/-!
# Questions to a snapshot

Names come in collation order, templates by how recently and how often they were used.

* `Snapshot.allAccounts`, `Snapshot.payeeNames`, …: sorted names.
* `Snapshot.templatesFor`: the templates of a payee, the most relevant first.
* `Snapshot.recentCount`: how often a template was used lately.
-/

namespace Daybook.Snapshot

open Text Template

/-- The accounts that a directive declares, in order of insertion. -/
def definedAccountNames (s : Snapshot) : List String :=
  (s.accounts.entries.filter (·.2.defined)).map (·.1)

/-- The accounts that a posting uses, in order of insertion. -/
def usedAccountNames (s : Snapshot) : List String :=
  (s.accounts.entries.filter (·.2.used)).map (·.1)

/-- The accounts that a directive declares. -/
def definedAccounts (s : Snapshot) : List String :=
  sortNames s.definedAccountNames

/-- The accounts that a posting uses. -/
def usedAccounts (s : Snapshot) : List String :=
  sortNames s.usedAccountNames

/-- All accounts. -/
def allAccounts (s : Snapshot) : List String :=
  sortNames s.accounts.keys

/-- All commodities. -/
def commodityNames (s : Snapshot) : List String :=
  sortNames s.commodities.keys

/-- All payees. -/
def payeeNames (s : Snapshot) : List String :=
  sortNames s.payees

/-- All tag keys. -/
def tagKeys (s : Snapshot) : List String :=
  sortNames s.tags

/-- The values of a tag. -/
def tagValueNames (s : Snapshot) (key : String) : List String :=
  sortNames ((s.tagValues.get? key).getD [])

/-- How often the key of a template is among the recently used ones of its payee. -/
def recentCount (s : Snapshot) (t : Template) : Nat :=
  match s.recent.get? t.payee with
  | none => 0
  | some ring => ring.count t.key

/-- Whether a template comes before another or is level with it: the one used more often lately
first, then the one used more often, then the one used later, then the one with the smaller key. -/
def templateLe (recent : Template → Nat) (a b : Template) : Bool :=
  if recent a ≠ recent b then recent b < recent a
  else if a.usageCount ≠ b.usageCount then b.usageCount < a.usageCount
  else if a.lastUsed ≠ b.lastUsed then b.lastUsed.lt a.lastUsed
  else a.key ≤ b.key

/-- The templates of a payee, the most relevant first. -/
def templatesFor (s : Snapshot) (payee : String) : List Template :=
  let name := payeeName payee
  let recent := fun t : Template =>
    match s.recent.get? name with
    | none => 0
    | some ring => ring.count t.key
  ((s.templates.get? name).getD .empty).values.mergeSort (templateLe recent)

end Daybook.Snapshot
