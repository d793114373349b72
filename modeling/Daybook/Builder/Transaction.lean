import Daybook.Builder.Basic
import Daybook.Text.Collation

/-!
# Building transactions

A transaction starts with a dated line and goes on with indented lines.  It is recorded when it ends:
at the next line that is not indented, at a blank line, or at the end of the build.  If one of its
postings cannot be read, it is recorded without any.

* `cleanAccount?`: the account that a posting names.
* `openTransaction?`: the transaction that a dated line starts.
* `readPosting`: the posting of an indented line.
* `closeTransaction`: records the transaction that is being read.
-/

namespace Daybook.Builder

open Text Journal Amount

/-- An account without the brackets of a virtual posting.  An empty name, and one that ends with a
colon, is none. -/
def cleanAccount? (name : String) : Option String :=
  let s := trimChars name.toList
  let s :=
    if 2 ≤ s.length &&
        ((s.head? == some '(' && s.getLast? == some ')') ||
          (s.head? == some '[' && s.getLast? == some ']')) then
      trimChars s.tail.dropLast
    else s
  if s.isEmpty || s.getLast? == some ':' then none else some (String.ofList s)

/-- The tags among tokens: each value belongs to the nearest key before it. -/
def tagPairsAfter (key : Option String) : List Token → List TagPair
  | [] => []
  | tok :: rest =>
    if tok.kind = .tagKey then tagPairsAfter (some tok.text) rest
    else if tok.kind = .tagValue then
      match key with
      | some k => (k, tok.text) :: tagPairsAfter none rest
      | none => tagPairsAfter none rest
    else tagPairsAfter key rest

/-- The tags among tokens. -/
def tagPairs (tokens : List Token) : List TagPair :=
  tagPairsAfter none tokens

/-! ## The first line -/

/-- A code without the parentheses around it; an empty one is none. -/
def cleanCode? (text : String) : Option String :=
  let isParenthesis := fun c => c == '(' || c == ')'
  let s := trimChars (dropEndWhile isParenthesis (text.toList.dropWhile isParenthesis))
  if s.isEmpty then none else some (String.ofList s)

/-- What a token behind the date says about a transaction. -/
def readHeaderToken (t : OpenTransaction) (tok : Token) : Except BuildError OpenTransaction :=
  match tok.kind with
  | .status =>
    match Status.ofMarker? tok.text with
    | some status => .ok { t with status }
    | none => .error (.unknownStatus tok.text)
  | .code => .ok { t with code := cleanCode? tok.text }
  | .payee => .ok { t with payee := payeeName tok.text }
  | .note => .ok { t with note := if tok.text.isEmpty then none else some tok.text }
  | _ => .ok t

/-- What the tokens behind the date say about a transaction. -/
def readHeader (t : OpenTransaction) : List Token → Except BuildError OpenTransaction
  | [] => .ok t
  | tok :: rest =>
    match readHeaderToken t tok with
    | .ok t' => readHeader t' rest
    | .error e => .error e

/-- Starts a transaction at a dated line.  If the date is not valid, its postings are passed over. -/
def openTransactionAt (raw : String) (rest : List Token) (line : Int) : BuildM Unit := do
  match (← get).readDate raw with
  | .error e => throw e
  | .ok none =>
    modify fun b =>
      { b.warn line ("invalid date " ++ quoted raw ++ "; transaction skipped") with
        skipping := true }
  | .ok (some date) =>
    match readHeader ⟨line, date, "", .unmarked, none, none, [], [], []⟩ rest with
    | .error e => throw e
    | .ok t =>
      modify fun b => { b with openTransaction := some { t with tags := tagPairs rest } }

/-! ## Postings -/

/-- The parts of a posting that have been read so far. -/
structure PostingParts where
  amount : Option String
  commodity : Option String
  /-- Whether a cost or an asserted balance has begun. -/
  afterOperator : Bool
  side : List String
  tags : List TagPair
deriving DecidableEq, Repr

/-- Reads the tokens behind an account up to a comment.  Text that is not understood makes the whole
posting unreadable. -/
def readPostingParts (parts : PostingParts) : List Token → Option PostingParts
  | [] => some parts
  | tok :: rest =>
    match tok.kind with
    | .text => none
    | .comment => some { parts with tags := tagPairs (tok :: rest) }
    | .operator => readPostingParts { parts with afterOperator := true } rest
    | .amount =>
      if parts.afterOperator then readPostingParts parts rest
      else readPostingParts { parts with amount := some tok.text } rest
    | .commodity =>
      let symbol := unquoteSymbol tok.text
      if !parts.afterOperator then
        readPostingParts { parts with commodity := some symbol } rest
      else if parts.side.contains symbol then readPostingParts parts rest
      else readPostingParts { parts with side := parts.side ++ [symbol] } rest
    | _ => readPostingParts parts rest

/-- The decimal mark of quantities of a commodity: that of the journal, else that of the format of
the commodity. -/
def decimalMarkFor (b : Builder) (commodity : Option String) : Option String :=
  match b.snapshot.decimalMark with
  | some mark => some mark
  | none =>
    match commodity with
    | none => none
    | some symbol =>
      if symbol.isEmpty then none
      else
        match b.snapshot.commodities.get? symbol with
        | none => none
        | some c => c.format.map (·.decimalMark)

/-- The posting of an indented line without its indent; `none` if it cannot be read. -/
def readPosting (b : Builder) (body : List Token) : Except BuildError (Option Posting) :=
  let tokens := if body.head?.any (·.kind = .status) then body.tail else body
  match tokens with
  | [] => .ok none
  | tok :: rest =>
    if tok.kind ≠ .account then .ok none
    else
      match cleanAccount? tok.text, readPostingParts ⟨none, none, false, [], []⟩ rest with
      | some account, some parts =>
        let posting : Posting :=
          ⟨account, parts.amount, parts.commodity, parts.tags, parts.side⟩
        match parts.amount with
        | none => .ok (some posting)
        | some amount =>
          match readQuantity (b.decimalMarkFor parts.commodity) (some amount) with
          | .ok _ => .ok (some posting)
          | .error .overflow => .error .quantityOverflow
          | .error _ => .ok none
      | _, _ => .ok none

/-- Adds tags to the last posting, or to the transaction if it has none. -/
def OpenTransaction.addTags (t : OpenTransaction) (tags : List TagPair) : OpenTransaction :=
  match t.postings.getLast? with
  | none => { t with tags := t.tags ++ tags }
  | some p => { t with postings := t.postings.dropLast ++ [{ p with tags := p.tags ++ tags }] }

/-! ## The end of a transaction -/

/-- Records the tags of a posting.  A date tag moves the last date. -/
def recordPostingTags (line : Int) : List TagPair → BuildM Unit
  | [] => pure ()
  | tag :: rest => do
    modify (·.record (·.useTag tag))
    if tag.1 = "date" ∧ !tag.2.isEmpty then
      match (← get).readDate tag.2 with
      | .error e => throw e
      | .ok (some date) => modify (·.record (·.reachDate date))
      | .ok none => modify (·.warn line ("invalid posting date tag " ++ quoted tag.2))
    recordPostingTags line rest

/-- Records postings. -/
def recordPostings (line : Int) (payee : String) : List Posting → BuildM Unit
  | [] => pure ()
  | p :: rest => do
    modify (·.record (·.recordPosting payee p))
    recordPostingTags line p.tags
    recordPostings line payee rest

/-- The transaction that is recorded: without postings if one of them could not be read. -/
def OpenTransaction.close (t : OpenTransaction) : Transaction where
  date := t.date
  payee := t.payee
  postings := if t.badLines.isEmpty then t.postings else []
  status := t.status
  code := t.code
  note := t.note
  tags := t.tags
  line := t.line

/-- The warning about lines that could not be read as postings. -/
def badLinesMessage (lines : List Int) : String :=
  "unparsable posting(s) on line(s) " ++
    ", ".intercalate (lines.map fun n => toString (n + 1)) ++ "; postings dropped"

/-- Records what a transaction states by itself, its postings apart. -/
def recordHeader (s : Snapshot) (t : Transaction) : Snapshot :=
  let s := { s with transactions := s.transactions ++ [t] }
  let s := s.reachDate t.date
  let s := if t.payee.isEmpty then s else s.usePayee t.payee
  t.tags.foldl Snapshot.useTag s

/-- Records a transaction. -/
def recordTransaction (t : Transaction) : BuildM Unit := do
  modify (·.record (recordHeader · t))
  recordPostings t.line t.payee t.postings
  if 2 ≤ t.postings.length ∧ !t.payee.isEmpty then
    modify (·.record (·.recordTemplate t.payee t.date t.postings))

/-- Records the transaction that is being read, if there is one. -/
def closeTransaction : BuildM Unit := do
  let b ← get
  set { b with skipping := false, openTransaction := none }
  match b.openTransaction with
  | none => pure ()
  | some t =>
    if !t.badLines.isEmpty then modify (·.warn t.line (badLinesMessage t.badLines))
    recordTransaction (OpenTransaction.close t)

end Daybook.Builder
