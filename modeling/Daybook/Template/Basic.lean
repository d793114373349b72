import Daybook.Journal.Transaction
import Daybook.Table

/-!
# Transaction templates

The transactions of a payee that use the same set of accounts are uses of one template.  A template
remembers the amounts of its last use; for each payee only the most used templates are kept.

* `templateKey`: the text that stands for a set of accounts.
* `skeleton`: what a template keeps of the postings of a transaction.
* `Template.evictedBefore`: which of two templates is given up first.
* `recordUse`, `mergeTemplate`, `prune`: changes of the templates of a payee.
-/

namespace Daybook

open Calendar Journal

/-- What a template keeps of a posting. -/
structure TemplatePosting where
  account : String
  amount : Option String
  commodity : Option String
deriving DecidableEq, Repr

/-- A set of accounts that transactions of a payee use, with the amounts of the last use. -/
structure Template where
  payee : String
  key : String
  postings : List TemplatePosting
  usageCount : Nat
  lastUsed : Date
deriving DecidableEq, Repr

namespace Template

/-- The greatest number of templates of a payee. -/
def maxPerPayee : Nat := 5

/-- The text that stands for a set of accounts: their names, sorted and joined by bars. -/
def templateKey (accounts : List String) : String :=
  "|".intercalate (accounts.eraseDups.mergeSort fun a b => decide (a ≤ b))

/-- The last posting to each account, the accounts in the order of their first postings. -/
def skeleton (postings : List Posting) : List TemplatePosting :=
  (postings.foldl (fun t p => t.insert p.account ⟨p.account, p.amount, p.commodity⟩)
    (Table.empty : Table String TemplatePosting)).values

/-- The templates of a payee by their keys. -/
abbrev TemplateTable := Table String Template

/-- Whether a template is given up before another: the less used first, then the one whose last use
is longer ago, then the one with the smaller key. -/
def evictedBefore (s t : Template) : Bool :=
  if s.usageCount ≠ t.usageCount then s.usageCount < t.usageCount
  else if s.lastUsed ≠ t.lastUsed then s.lastUsed.lt t.lastUsed
  else s.key < t.key

/-- The template that is given up first. -/
def firstEvicted : List Template → Option Template
  | [] => none
  | t :: rest =>
    match firstEvicted rest with
    | none => some t
    | some s => some (if s.evictedBefore t then s else t)

/-- Gives up `n` templates. -/
def evict : Nat → TemplateTable → TemplateTable
  | 0, t => t
  | n + 1, t =>
    match firstEvicted t.values with
    | none => t
    | some victim => evict n (t.erase victim.key)

/-- Gives up templates until at most `maxPerPayee` are left. -/
def prune (t : TemplateTable) : TemplateTable :=
  evict (t.size - maxPerPayee) t

/-- Counts a use of a template. -/
def recordUse (payee : String) (date : Date) (postings : List Posting) (t : TemplateTable) :
    TemplateTable :=
  let key := templateKey (postings.map (·.account))
  t.alter key fun old =>
    match old with
    | none => ⟨payee, key, skeleton postings, 1, date⟩
    | some s => ⟨payee, key, skeleton postings, s.usageCount + 1, s.lastUsed.latest date⟩

/-- Adds the uses of a template that was recorded elsewhere.  The postings of the later use win, and
on the same day those of the added one. -/
def mergeTemplate (payee : String) (t : TemplateTable) (added : Template) : TemplateTable :=
  t.alter added.key fun old =>
    match old with
    | none => added
    | some s =>
      let newer := if added.lastUsed.lt s.lastUsed then s else added
      ⟨payee, added.key, newer.postings, s.usageCount + added.usageCount, newer.lastUsed⟩

end Template

end Daybook
