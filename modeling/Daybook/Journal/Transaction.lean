import Daybook.Calendar.Date

/-!
# Transactions

The records of a journal, and the warnings about what could not be recorded.
-/

namespace Daybook.Journal

open Calendar

/-- The status of a transaction. -/
inductive Status where
  | unmarked
  | pending
  | cleared
deriving DecidableEq, Repr

/-- The marker of a status. -/
def Status.marker : Status → String
  | unmarked => ""
  | pending => "!"
  | cleared => "*"

/-- The status with a given marker. -/
def Status.ofMarker? (marker : String) : Option Status :=
  [unmarked, pending, cleared].find? fun status => status.marker = marker

/-- A tag with its value. -/
abbrev TagPair := String × String

/-- One line of a transaction. -/
structure Posting where
  account : String
  /-- The quantity as written, if there is one. -/
  amount : Option String
  commodity : Option String
  tags : List TagPair
  /-- The commodities of costs and asserted balances. -/
  sideCommodities : List String
deriving DecidableEq, Repr

/-- A transaction. -/
structure Transaction where
  date : Date
  payee : String
  postings : List Posting
  status : Status
  code : Option String
  note : Option String
  tags : List TagPair
  /-- The number of its first line. -/
  line : Int
deriving DecidableEq, Repr

/-- Something that was left out, and where. -/
structure Warning where
  line : Int
  message : String
  source : Option String
deriving DecidableEq, Repr

/-- A warning as a line of text; lines are shown counted from one. -/
def Warning.render (w : Warning) : String :=
  let place :=
    match w.source with
    | some s => if s.isEmpty then "line " else s ++ ":"
    | none => "line "
  place ++ toString (w.line + 1) ++ ": " ++ w.message

end Daybook.Journal
