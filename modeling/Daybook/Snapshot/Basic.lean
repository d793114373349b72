import Daybook.Amount.Format
import Daybook.Template.Basic
import Daybook.Template.RecentKeys

/-!
# Snapshots

A snapshot is what is known about one or several journal texts: the names that occur, how often they
are used, the transactions, and which texts went in.

* `Snapshot`: the record; `Snapshot.empty`.
* `Snapshot.declareAccount`, `Snapshot.useAccount`, `Snapshot.addCommodity`, …: the elementary
  changes, one for each kind of fact that a journal states.
* `Snapshot.recordPosting`, `Snapshot.recordTemplate`: what a transaction contributes.
-/

namespace Daybook

open Calendar Journal Amount Template

/-- What is known about an account. -/
structure Account where
  /-- Whether a directive declares it. -/
  defined : Bool
  /-- Whether a posting uses it. -/
  used : Bool
deriving DecidableEq, Repr

/-- What is known about a commodity. -/
structure Commodity where
  format : Option CommodityFormat
  /-- Whether a directive declares it. -/
  declared : Bool
deriving DecidableEq, Repr

/-- What is known about one or several journal texts. -/
structure Snapshot where
  accounts : Table String Account
  accountUsage : Tally String
  commodities : Table String Commodity
  commodityUsage : Tally String
  payees : List String
  declaredPayees : List String
  payeeUsage : Tally String
  tags : List String
  tagUsage : Tally String
  tagValues : Table String (List String)
  tagValueUsage : Tally (String × String)
  payeeAccounts : Table String (List String)
  payeeAccountUsage : Tally (String × String)
  aliases : Table String String
  /-- The templates by payee and key. -/
  templates : Table String TemplateTable
  /-- The keys of the templates that each payee used last. -/
  recent : Table String RecentKeys
  transactions : List Transaction
  defaultCommodity : Option String
  /-- The decimal mark that a directive sets: a point or a comma. -/
  decimalMark : Option String
  lastDate : Option Date
  includes : List String
  warnings : List Warning
  /-- The fingerprints of the texts that went in. -/
  sources : List String
deriving DecidableEq, Repr

namespace Snapshot

/-- The snapshot of no text. -/
def empty : Snapshot where
  accounts := .empty
  accountUsage := .empty
  commodities := .empty
  commodityUsage := .empty
  payees := []
  declaredPayees := []
  payeeUsage := .empty
  tags := []
  tagUsage := .empty
  tagValues := .empty
  tagValueUsage := .empty
  payeeAccounts := .empty
  payeeAccountUsage := .empty
  aliases := .empty
  templates := .empty
  recent := .empty
  transactions := []
  defaultCommodity := none
  decimalMark := none
  lastDate := none
  includes := []
  warnings := []
  sources := []

instance : Inhabited Snapshot := ⟨empty⟩

/-! ## Accounts and commodities -/

/-- Adds what is known about an account. -/
def addAccount (s : Snapshot) (name : String) (account : Account) : Snapshot :=
  { s with
    accounts := s.accounts.alter name fun old =>
      match old with
      | none => account
      | some a => ⟨a.defined || account.defined, a.used || account.used⟩ }

/-- Records the declaration of an account. -/
def declareAccount (s : Snapshot) (name : String) : Snapshot :=
  s.addAccount name ⟨true, false⟩

/-- Records a posting to an account. -/
def useAccount (s : Snapshot) (name : String) : Snapshot :=
  let s := s.addAccount name ⟨false, true⟩
  { s with accountUsage := s.accountUsage.add name 1 }

/-- Adds what is known about a commodity; the first format stays. -/
def addCommodity (s : Snapshot) (symbol : String) (commodity : Commodity) : Snapshot :=
  { s with
    commodities := s.commodities.alter symbol fun old =>
      match old with
      | none => commodity
      | some c => ⟨c.format <|> commodity.format, c.declared || commodity.declared⟩ }

/-- Records that a commodity occurs. -/
def mentionCommodity (s : Snapshot) (symbol : String) : Snapshot :=
  s.addCommodity symbol ⟨none, false⟩

/-- Records the use of a commodity in a posting. -/
def useCommodity (s : Snapshot) (symbol : String) : Snapshot :=
  let s := s.mentionCommodity symbol
  { s with commodityUsage := s.commodityUsage.add symbol 1 }

/-! ## Payees, tags and dates -/

/-- Records the declaration of a payee. -/
def declarePayee (s : Snapshot) (payee : String) : Snapshot :=
  { s with
    payees := s.payees.insert payee
    declaredPayees := s.declaredPayees.insert payee }

/-- Records a transaction with a payee. -/
def usePayee (s : Snapshot) (payee : String) : Snapshot :=
  { s with
    payees := s.payees.insert payee
    payeeUsage := s.payeeUsage.add payee 1 }

/-- Records a posting to an account in a transaction with a payee. -/
def usePayeeAccount (s : Snapshot) (payee account : String) : Snapshot :=
  { s with
    payeeAccounts := s.payeeAccounts.alter payee fun old => (old.getD []).insert account
    payeeAccountUsage := s.payeeAccountUsage.add (payee, account) 1 }

/-- Records the declaration of a tag. -/
def declareTag (s : Snapshot) (key : String) : Snapshot :=
  { s with tags := s.tags.insert key }

/-- Records the use of a tag; an empty value is not recorded as a value. -/
def useTag (s : Snapshot) (tag : TagPair) : Snapshot :=
  let s := s.declareTag tag.1
  let s := { s with tagUsage := s.tagUsage.add tag.1 1 }
  if tag.2.isEmpty then s
  else
    { s with
      tagValues := s.tagValues.alter tag.1 fun old => (old.getD []).insert tag.2
      tagValueUsage := s.tagValueUsage.add tag 1 }

/-- Moves the last date forward to a day, never back. -/
def reachDate (s : Snapshot) (date : Date) : Snapshot :=
  { s with
    lastDate :=
      match s.lastDate with
      | none => some date
      | some d => some (d.latest date) }

/-- Records the inclusion of another journal. -/
def addInclude (s : Snapshot) (target : String) : Snapshot :=
  { s with includes := if s.includes.contains target then s.includes else s.includes ++ [target] }

/-- Adds a warning. -/
def warn (s : Snapshot) (warning : Warning) : Snapshot :=
  { s with warnings := s.warnings ++ [warning] }

/-! ## Transactions -/

/-- Records the names that a posting uses, its tags apart. -/
def recordPosting (s : Snapshot) (payee : String) (p : Posting) : Snapshot :=
  let s := s.useAccount p.account
  let s :=
    match p.commodity with
    | none => s
    | some symbol => if symbol.isEmpty then s else s.useCommodity symbol
  -- Commodities of costs and asserted balances become known without counting as used.
  let s := p.sideCommodities.foldl mentionCommodity s
  if payee.isEmpty then s else s.usePayeeAccount payee p.account

/-- Counts a use of the template of a transaction. -/
def recordTemplate (s : Snapshot) (payee : String) (date : Date) (postings : List Posting) :
    Snapshot :=
  let key := templateKey (postings.map (·.account))
  { s with
    templates := s.templates.alter payee fun old =>
      prune (recordUse payee date postings (old.getD .empty))
    recent := s.recent.alter payee fun old =>
      (old.getD (.empty RecentKeys.standardCapacity)).push key }

end Snapshot

end Daybook
