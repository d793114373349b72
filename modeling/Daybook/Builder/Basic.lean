import Daybook.Journal.LineTokens
import Daybook.Snapshot.Basic

/-!
# The builder

A builder turns tokens into a snapshot.  It takes tokens in portions of any size; what it keeps
between portions is the tokens of the unfinished line, the transaction whose postings are being
collected, and the state that directives leave behind.

* `Builder`: the state of a build; `Builder.start`.
* `BuildError`: the few things that stop a build.  What was done before stays done, so the state of
  a stopped build is part of the answer.
* `BuildM`: a step of a build.
-/

namespace Daybook

open Calendar Journal Number

/-- How journal texts are read. -/
structure BuildOptions where
  /-- How dates with the year last are read. -/
  dateOrder : DateOrder
  /-- The year of dates without one, until a directive sets it. -/
  defaultYear : Option Int
  /-- What warnings name as their source. -/
  source : Option String
  /-- The present day, whose year is the last resort for dates without one. -/
  today : Date
deriving DecidableEq, Repr

/-- A transaction whose lines are still being read. -/
structure OpenTransaction where
  line : Int
  date : Date
  payee : String
  status : Status
  code : Option String
  note : Option String
  tags : List TagPair
  postings : List Posting
  /-- The numbers of the lines that could not be read as postings. -/
  badLines : List Int
deriving DecidableEq, Repr

/-- The state of a build. -/
structure Builder where
  options : BuildOptions
  snapshot : Snapshot
  /-- The year of dates without one. -/
  defaultYear : Option Int
  /-- The tokens of the unfinished line. -/
  pending : List Token
  openTransaction : Option OpenTransaction
  /-- Whether the postings of a transaction without a valid date are being passed over. -/
  skipping : Bool
  /-- The commodity that a format line belongs to. -/
  lastCommodity : Option String
  /-- The source and all tokens so far, in one text that tells them apart. -/
  fingerprint : String
  finished : Bool

/-- What stops a build. -/
inductive BuildError where
  /-- The build is over. -/
  | finished
  /-- A status token is not a status. -/
  | unknownStatus (marker : String)
  /-- The argument of a year directive is not an integer. -/
  | badYear (cause : IntegerError)
  /-- A negative quantity is too large. -/
  | quantityOverflow
  /-- The year of a date is beyond all calendar arithmetic. -/
  | dateOverflow
  /-- A line falls under no rule. -/
  | line (cause : LineError)
  /-- A portion has to hold at least one line. -/
  | badPortion
deriving DecidableEq, Repr

/-- The wording of an error. -/
def BuildError.message : BuildError → String
  | finished => "ModelBuilder.finish() was already called"
  | unknownStatus marker => Text.quoted marker ++ " is not a valid TransactionStatus"
  | badYear cause => cause.message
  | quantityOverflow => Amount.QuantityError.overflow.message
  | dateOverflow => DateError.overflow.message
  | line cause => cause.message
  | badPortion => "chunk_size must be a positive integer"

/-- A step of a build.  An error leaves the state as it was when the error arose. -/
abbrev BuildM := ExceptT BuildError (StateM Builder)

namespace Builder

/-- A build before any token. -/
def start (options : BuildOptions) : Builder where
  options
  snapshot := .empty
  defaultYear := options.defaultYear
  pending := []
  openTransaction := none
  skipping := false
  lastCommodity := none
  fingerprint := options.source.getD ""
  finished := false

/-- Changes the snapshot. -/
def record (f : Snapshot → Snapshot) (b : Builder) : Builder :=
  { b with snapshot := f b.snapshot }

/-- Adds a warning about a line. -/
def warn (line : Int) (message : String) (b : Builder) : Builder :=
  b.record fun s => s.warn ⟨line, message, b.options.source⟩

/-- The day that a text stands for in the present state.  `none` if it stands for no day. -/
def readDate (b : Builder) (raw : String) : Except BuildError (Option Date) :=
  match Date.read b.options.dateOrder b.defaultYear b.options.today (some raw) with
  | .ok d => .ok (some d)
  | .error .overflow => .error .dateOverflow
  | .error _ => .ok none

end Builder

end Daybook
