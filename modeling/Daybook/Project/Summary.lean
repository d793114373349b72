import Daybook.Project.Cache
import Daybook.Snapshot.Query

/-!
# Summaries

* `Summary`: an overview of an entry of the project cache; `Summary.ofEntry`.
-/

namespace Daybook.Project

open Calendar

/-- An overview of an entry. -/
structure Summary where
  path : String
  transactions : Nat
  definedAccounts : List String
  usedAccounts : List String
  payees : List String
  commodities : List String
  tags : List String
  defaultCommodity : Option String
  decimalMark : Option String
  lastDate : Option Date
  warnings : List String
deriving DecidableEq, Repr

/-- Names in the order of their code points. -/
def sortedNames (names : List String) : List String :=
  names.mergeSort fun a b => decide (a ≤ b)

/-- The overview of an entry; each warning is given once. -/
def Summary.ofEntry (entry : Entry) : Summary where
  path := entry.path.text
  transactions := entry.data.transactions.length
  definedAccounts := sortedNames entry.data.definedAccountNames
  usedAccounts := sortedNames entry.data.usedAccountNames
  payees := sortedNames entry.data.payees
  commodities := sortedNames entry.data.commodities.keys
  tags := sortedNames entry.data.tags
  defaultCommodity := entry.data.defaultCommodity
  decimalMark := entry.data.decimalMark
  lastDate := entry.data.lastDate
  warnings := ((entry.data.warnings ++ entry.warnings).eraseDups).map (·.render)

end Daybook.Project
