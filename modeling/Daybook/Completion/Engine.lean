import Daybook.Completion.Dates
import Daybook.Completion.Offers
import Daybook.Search.Matcher
import Daybook.Settings

/-!
# The completion engine

An engine answers requests for suggestions from one snapshot.  The names that it looks up are
prepared by a matcher when they are first needed and kept until the snapshot changes.  The matcher is
not part of the engine, so several engines can share one.

* `Engine`: the state; `Engine.start`, `Engine.update`, `Engine.dispose`.
* `Request`: a line, a column, the payee of the transaction and the present day.
* `Engine.complete`: the suggestions for a request.
-/

namespace Daybook.Completion

open Text Calendar Search

/-- The state of an engine. -/
structure Engine where
  settings : Settings
  data : Snapshot
  /-- The sets of names that are prepared. -/
  sets : Table Subject CandidateSet
  disposed : Bool

/-- Why a request is refused. -/
inductive CompletionError where
  | column (e : ColumnError)
  /-- A day that would be offered is not in the calendar. -/
  | calendar (e : CalendarError)
deriving DecidableEq, Repr

/-- What suggestions are asked for. -/
structure Request where
  line : List Char
  column : Int
  /-- The payee of the transaction that is being typed. -/
  payee : Option String
  today : Date

namespace Engine

/-- An engine with nothing prepared. -/
def start (settings : Settings) (data : Snapshot) : Engine :=
  ⟨settings, data, .empty, false⟩

/-- The matcher that settings ask for. -/
def matcherFor (settings : Settings) : Except MatchError Matcher :=
  Matcher.make settings.maxResults settings.fuzzyCacheSize

/-- Replaces the snapshot. -/
def update (e : Engine) (data : Snapshot) : Engine :=
  { e with data, sets := .empty }

/-- Ends the work of an engine: nothing is offered any more, and the matcher forgets its results. -/
def dispose (e : Engine) (m : Matcher) : Engine × Matcher :=
  ({ e with data := .empty, sets := .empty, disposed := true }, m.clearCache)

/-- The names of a subject, prepared if they are not yet. -/
def candidates (e : Engine) (m : Matcher) (subject : Subject) : CandidateSet × Engine × Matcher :=
  match e.sets.get? subject with
  | some set => (set, e, m)
  | none =>
    let ordered := subject.ordered e.data
    let (set, m') := m.index (ordered.map (·.1)) ⟨ordered.map fun n => (n.1, (n.2 : Int))⟩
    (set, { e with sets := e.sets.insert subject set }, m')

/-- The suggestions that a search leads to. -/
def search (e : Engine) (m : Matcher) (payee : Option String) (lookup : Lookup) :
    List Item × Engine × Matcher :=
  let (set, e', m') := e.candidates m lookup.subject
  let (found, m'') := m'.rankCapped lookup.query set e.settings.maxResults
  (offers e.data e.settings.templateCompletions payee lookup found, e', m'')

/-- Whether nothing is offered because the cursor stands inside a word.  In comments this makes no
difference. -/
def isMidWord (settings : Settings) (domain : Domain) (after : List Char) : Bool :=
  settings.suppressMidWord && domain != .tag && domain != .tagValue && after.head?.any isWord

/-- The suggestions for a domain, without their ranks.  A tag without values has no set of names. -/
def suggest (e : Engine) (m : Matcher) (domain : Domain) (before : List Char)
    (payee : Option String) (today : Date) :
    Except CompletionError (List Item × Engine × Matcher) :=
  match domain with
  | .date =>
    match dateItems e.data.lastDate today before with
    | .error err => .error (.calendar err)
    | .ok items => .ok (items, e, m)
  | _ =>
    match lookup? domain before with
    | none => .ok ([], e, m)
    | some lookup =>
      if domain == .tagValue && (lookup.subject.names e.data).isEmpty then .ok ([], e, m)
      else .ok (e.search m payee lookup)

/-- The suggestions for a request, the best first. -/
def complete (e : Engine) (m : Matcher) (request : Request) :
    Except CompletionError (List Item) × Engine × Matcher :=
  match analyze request.line request.column with
  | .error err => (.error (.column err), e, m)
  | .ok position =>
    match position.context.domain? with
    | none => (.ok [], e, m)
    | some domain =>
      if e.disposed || isMidWord e.settings domain position.after then (.ok [], e, m)
      else
        match e.suggest m domain position.before request.payee request.today with
        | .error err => (.error err, e, m)
        | .ok (items, e', m') => (.ok (numbered e.settings.maxResults items), e', m')

/-- The templates of a payee as journal text, the most relevant first. -/
def renderedTemplates (e : Engine) (payee : String) : List String :=
  (e.data.templatesFor payee).map (·.rendered (formatIn e.data))

end Engine

end Daybook.Completion
