import Daybook.Amount.Commodity
import Daybook.Completion.Item
import Daybook.Completion.Lookup
import Daybook.Search.Candidates
import Daybook.Snapshot.Query
import Daybook.Template.Rendered

/-!
# From matches to suggestions

What a search finds is put into the order of its subject and dressed as suggestions.

* `Merit`: what matches are ordered by.
* `meritOf`: the merit of a match among the names of a subject.
* `offers`: the suggestions for the matches of a search.
-/

namespace Daybook.Completion

open Text Search Amount Template

/-! ## Order -/

/-- What matches are ordered by: the score, then the extras one after another, the greater first, and
then the collation of the name. -/
structure Merit where
  score : Rat
  extras : List Nat
  collation : CollationKey
deriving DecidableEq, Repr

/-- Whether a merit puts a match before another or level with it. -/
def Merit.le (a b : Merit) : Bool :=
  if a.score ≠ b.score then b.score < a.score
  else if a.extras ≠ b.extras then b.extras < a.extras
  else a.collation.le b.collation

/-- Whether a directive declares an account. -/
def isDeclaredAccount (s : Snapshot) (account : String) : Bool :=
  (s.accounts.get? account).any (·.defined)

/-- How often the payee of the transaction that is being typed used an account. -/
def pairUsage (s : Snapshot) (payee : Option String) (account : String) : Nat :=
  match payee.filter (!·.isEmpty) with
  | none => 0
  | some name => s.payeeAccountUsage.count (payeeName name, account)

/-- What decides between matches with equal scores: payees by use and declaration, accounts by use
with the payee, use and declaration, and commodities by being the default one and by use. -/
def extrasOf (s : Snapshot) (payee : Option String) (subject : Subject) (name : String) :
    List Nat :=
  match subject with
  | .payees => [subject.usage s name, (s.declaredPayees.contains name).toNat]
  | .accounts =>
    [pairUsage s payee name, subject.usage s name, (isDeclaredAccount s name).toNat]
  | .commodities => [(s.defaultCommodity == some name).toNat, subject.usage s name]
  | _ => []

/-- The merit of a match. -/
def meritOf (s : Snapshot) (payee : Option String) (subject : Subject) (r : Ranked) : Merit :=
  ⟨r.score, extrasOf s payee subject r.item, collationKey r.item⟩

/-- Matches in the order of their merits; those for tags and their values stay in the order in which
they were found. -/
def byMerit (s : Snapshot) (payee : Option String) (subject : Subject) (found : List Ranked) :
    List Ranked :=
  match subject with
  | .tags | .valuesOf _ => found
  | _ =>
    ((found.map fun r => (meritOf s payee subject r, r)).mergeSort fun a b => a.1.le b.1).map (·.2)

/-! ## Suggestions -/

/-- How often a name is used, in words. -/
def usedTimes (n : Nat) : String :=
  "used " ++ toString n ++ "x"

/-- What is said about a commodity: whether it is the default one, and its sample. -/
def commodityDetail (s : Snapshot) (symbol : String) : Option String :=
  let standing := if s.defaultCommodity == some symbol then ["default"] else []
  let sample :=
    match (s.commodities.get? symbol).bind (·.format) with
    | none => []
    | some format => if format.sample.isEmpty then [] else [format.sample]
  match standing ++ sample with
  | [] => none
  | parts => some (", ".intercalate parts)

/-- The format that a snapshot knows for a commodity. -/
def formatIn (s : Snapshot) (symbol : String) : Option CommodityFormat :=
  (s.commodities.get? symbol).bind (·.format)

/-- The suggestion for a match. -/
def offer (s : Snapshot) (lookup : Lookup) (r : Ranked) : Item :=
  match lookup.subject with
  | .payees =>
    { label := r.item
      kind := .payee
      insertText := r.item
      replaceStart := lookup.start
      score := r.score
      detail := some (usedTimes (s.payeeUsage.count r.item)) }
  | .accounts =>
    { label := r.item
      kind := .account
      insertText := r.item
      replaceStart := lookup.start
      score := r.score
      detail := some (if isDeclaredAccount s r.item then "declared" else "used") }
  | .commodities =>
    { label := r.item
      kind := .commodity
      insertText := quoteSymbol r.item
      replaceStart := lookup.start
      score := r.score
      detail := commodityDetail s r.item }
  | .tags =>
    { label := r.item
      kind := .tag
      insertText := r.item ++ ":"
      replaceStart := lookup.start
      score := r.score
      detail := some (usedTimes (s.tagUsage.count r.item)) }
  | .valuesOf tag =>
    { label := r.item
      kind := .tagValue
      insertText := r.item
      replaceStart := lookup.start
      score := r.score
      detail := some tag }

/-- The greatest number of templates that are offered for a payee. -/
def maxTemplates : Nat := 3

/-- The suggestion of a template. -/
def templateOffer (s : Snapshot) (lookup : Lookup) (r : Ranked) (t : Template) : Item where
  label := r.item ++ " (" ++ ", ".intercalate (t.postings.map (·.account)) ++ ")"
  kind := .template
  insertText := t.rendered (formatIn s)
  replaceStart := lookup.start
  score := r.score
  detail := some ("template, " ++ usedTimes t.usageCount ++ ", " ++ toString (s.recentCount t) ++
    "x recently, last " ++ t.lastUsed.iso)

/-- Whether templates are offered along with a match: for a payee that is or starts with what was
typed. -/
def showsTemplates (lookup : Lookup) (r : Ranked) : Bool :=
  lookup.subject == .payees && !lookup.query.isEmpty && prefixBase ≤ r.score

/-- The suggestions of the templates that are offered along with a match. -/
def templateOffers (s : Snapshot) (lookup : Lookup) (r : Ranked) : List Item :=
  if showsTemplates lookup r then
    ((s.templatesFor r.item).take maxTemplates).map (templateOffer s lookup r)
  else []

/-- The suggestions for the matches of a search, the best first. -/
def offers (s : Snapshot) (withTemplates : Bool) (payee : Option String) (lookup : Lookup)
    (found : List Ranked) : List Item :=
  (byMerit s payee lookup.subject found).flatMap fun r =>
    offer s lookup r :: if withTemplates then templateOffers s lookup r else []

end Daybook.Completion
