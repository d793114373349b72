import Daybook.Number.Integer

/-!
# Completion items

* `Item`: one suggestion.
* `numbered`: suggestions with the keys by which an editor can sort them.
-/

namespace Daybook.Completion

/-- The kinds of suggestions. -/
inductive ItemKind where
  | date
  | payee
  | template
  | account
  | commodity
  | tag
  | tagValue
deriving DecidableEq, Repr

/-- The name of a kind. -/
def ItemKind.name : ItemKind → String
  | date => "date"
  | payee => "payee"
  | template => "template"
  | account => "account"
  | commodity => "commodity"
  | tag => "tag"
  | tagValue => "tag_value"

/-- One suggestion.  Accepting it replaces what stands between `replaceStart` and the cursor by
`insertText`. -/
structure Item where
  label : String
  kind : ItemKind
  insertText : String
  replaceStart : Nat
  score : Rat := 0
  /-- The rank as a text, for editors that sort by text. -/
  sortKey : String := ""
  detail : Option String := none
deriving DecidableEq, Repr

/-- The number of digits of a sort key. -/
def sortKeyWidth : Nat := 5

/-- The first `cap` suggestions, each with its rank as the sort key. -/
def numbered (cap : Nat) (items : List Item) : List Item :=
  (items.take cap).zipIdx.map fun e =>
    { e.1 with sortKey := Number.padded sortKeyWidth e.2 }

end Daybook.Completion
