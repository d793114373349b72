import Daybook.Snapshot.Basic

/-!
# Merging snapshots

Snapshots of several texts are merged into one.  Counts add up, names are united, and the first
declaration of a kind wins.  A text that already went into a snapshot is not counted again.

* `Snapshot.absorb`: adds all of another snapshot.
* `Snapshot.merge`: the two snapshots together, each text counted once if one side holds all texts
  of the other.
* `Snapshot.mergeAll`: a list of snapshots together.
* `Snapshot.same`: equality of snapshots, where the order inside tables and sets does not count.
-/

namespace Daybook.Snapshot

open Template

/-- Adds the templates of a payee. -/
def absorbTemplates (s : Snapshot) (payee : String) (added : TemplateTable) : Snapshot :=
  { s with
    templates := s.templates.alter payee fun old =>
      prune (added.values.foldl (mergeTemplate payee) (old.getD .empty)) }

/-- Adds the recently used keys of a payee. -/
def absorbRecent (s : Snapshot) (payee : String) (added : RecentKeys) : Snapshot :=
  { s with
    recent := s.recent.alter payee fun old =>
      (old.getD (.empty added.capacity)).pushAll added.keys }

/-- Adds the sets of a table of sets. -/
def unite (t added : Table String (List String)) : Table String (List String) :=
  added.entries.foldl (fun acc e => acc.alter e.1 fun old => uniteMembers (old.getD []) e.2) t

/-- Adds all of another snapshot. -/
def absorb (s other : Snapshot) : Snapshot :=
  let s := other.accounts.entries.foldl (fun acc e => acc.addAccount e.1 e.2) s
  let s := other.commodities.entries.foldl (fun acc e => acc.addCommodity e.1 e.2) s
  let s := other.templates.entries.foldl (fun acc e => acc.absorbTemplates e.1 e.2) s
  let s := other.recent.entries.foldl (fun acc e => acc.absorbRecent e.1 e.2) s
  let s := other.includes.foldl addInclude s
  { s with
    accountUsage := Tally.addAll s.accountUsage other.accountUsage
    commodityUsage := Tally.addAll s.commodityUsage other.commodityUsage
    payees := uniteMembers s.payees other.payees
    declaredPayees := uniteMembers s.declaredPayees other.declaredPayees
    payeeUsage := Tally.addAll s.payeeUsage other.payeeUsage
    tags := uniteMembers s.tags other.tags
    tagUsage := Tally.addAll s.tagUsage other.tagUsage
    tagValues := unite s.tagValues other.tagValues
    tagValueUsage := Tally.addAll s.tagValueUsage other.tagValueUsage
    payeeAccounts := unite s.payeeAccounts other.payeeAccounts
    payeeAccountUsage := Tally.addAll s.payeeAccountUsage other.payeeAccountUsage
    aliases := other.aliases.entries.foldl (fun acc e => acc.insertNew e.1 e.2) s.aliases
    transactions := s.transactions ++ other.transactions
    defaultCommodity := s.defaultCommodity <|> other.defaultCommodity
    decimalMark := s.decimalMark <|> other.decimalMark
    lastDate :=
      match s.lastDate, other.lastDate with
      | some a, some b => some (a.latest b)
      | a, b => a <|> b
    warnings := s.warnings ++ other.warnings
    sources := uniteMembers s.sources other.sources }

/-- Whether a snapshot is made of texts that all went into another one. -/
def isPartOf (s t : Snapshot) : Bool :=
  !s.sources.isEmpty && s.sources.all (t.sources.contains ·)

/-- Two snapshots together.  If one is made of texts that all went into the other, the result is the
other. -/
def merge (a b : Snapshot) : Snapshot :=
  if b.isPartOf a then a
  else if a.isPartOf b then b
  else a.absorb b

/-- A list of snapshots together; one that is made of texts that went in before is left out. -/
def mergeAll (snapshots : List Snapshot) : Snapshot :=
  snapshots.foldl (fun acc s => if s.isPartOf acc then acc else acc.absorb s) empty

/-- Whether two snapshots state the same facts.  Transactions, includes and warnings count in their
order. -/
def same (a b : Snapshot) : Bool :=
  a.accounts.same (· == ·) b.accounts &&
  a.accountUsage.same (· == ·) b.accountUsage &&
  a.commodities.same (· == ·) b.commodities &&
  a.commodityUsage.same (· == ·) b.commodityUsage &&
  sameMembers a.payees b.payees &&
  sameMembers a.declaredPayees b.declaredPayees &&
  a.payeeUsage.same (· == ·) b.payeeUsage &&
  sameMembers a.tags b.tags &&
  a.tagUsage.same (· == ·) b.tagUsage &&
  a.tagValues.same sameMembers b.tagValues &&
  a.tagValueUsage.same (· == ·) b.tagValueUsage &&
  a.payeeAccounts.same sameMembers b.payeeAccounts &&
  a.payeeAccountUsage.same (· == ·) b.payeeAccountUsage &&
  a.aliases.same (· == ·) b.aliases &&
  a.templates.same (Table.same (· == ·)) b.templates &&
  a.recent.same RecentKeys.same b.recent &&
  a.transactions == b.transactions &&
  a.defaultCommodity == b.defaultCommodity &&
  a.decimalMark == b.decimalMark &&
  a.lastDate == b.lastDate &&
  a.includes == b.includes &&
  a.warnings == b.warnings &&
  sameMembers a.sources b.sources

end Daybook.Snapshot
