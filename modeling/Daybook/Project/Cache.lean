import Daybook.Completion.Engine
import Daybook.Project.Pass
import Daybook.Snapshot.Merge
import Daybook.Text.Casing

/-!
# The project cache

The cache keeps one entry for each journal or directory that was asked for.  An entry is the merged
snapshot of all files that contributed, with the times of everything it depends on; it is built anew
when one of these times changed.

* `Entry`, `Cache`: the entries and the state.
* `Cache.get`: the entry of a journal; `Cache.workspace`: that of all journals below a directory.
* `Cache.updateText`, `Cache.invalidate`, `Cache.dispose`: unsaved buffers and forgetting.
* `Cache.scan`: the journals below a directory.
* `refresh`: gives a completion engine the snapshot of a journal.
-/

namespace Daybook.Project

open Text Journal Completion

/-- What is known about a journal or a directory. -/
structure Entry where
  path : Path
  data : Snapshot
  /-- The times of all that the entry depends on. -/
  times : Table Path Int
  warnings : List Warning

/-- The state of the cache. -/
structure Cache where
  settings : Settings
  entries : Table Path Entry
  files : Table Path FileResult
  /-- Unsaved buffers, which stand for files. -/
  buffers : Table Path String
  disposed : Bool

/-- What a request for an entry comes to. -/
structure Answer where
  /-- The entry, and whether it was there already. -/
  result : Except ProjectError (Entry × Bool)
  cache : Cache
  /-- The files that were read from the disk, in order. -/
  reads : List Path

namespace Cache

/-- A cache that knows nothing. -/
def start (settings : Settings) : Cache :=
  ⟨settings, .empty, .empty, .empty, false⟩

/-- Whether an entry no longer holds: the time of something that it depends on changed. -/
def isStale (view : View) (entry : Entry) : Bool :=
  entry.times.entries.any fun e => view.disk.modified e.1 != e.2

/-- The entry of a place, if it is there and holds. -/
def current? (c : Cache) (view : View) (path : Path) : Option Entry :=
  (c.entries.get? path).filter (!isStale view ·)

/-- The state in which a pass starts. -/
def startPass (c : Cache) (root : Path) (budget : Option Nat) : Pass where
  root
  budget
  files := c.files
  reads := []
  visited := []
  snapshots := []
  times := .empty
  warnings := []

/-- The entry that a finished pass leads to. -/
def entryOf (pass : Pass) : Entry :=
  ⟨pass.root, Snapshot.mergeAll pass.snapshots, pass.times, pass.warnings⟩

/-- Runs a pass and publishes its entry.  When it fails, all entries stay. -/
def runPass (c : Cache) (pass : Pass) (steps : PassM Unit) : Answer :=
  let (result, pass) := steps.run.run pass
  let c := { c with files := pass.files }
  match result with
  | .error e => ⟨.error e, c, pass.reads⟩
  | .ok () =>
    let entry := entryOf pass
    ⟨.ok (entry, false), { c with entries := c.entries.insert pass.root entry }, pass.reads⟩

/-- What a pass is governed by. -/
def context (c : Cache) (view : View) : PassContext :=
  ⟨view, c.settings, c.buffers⟩

/-- The place that a path names, for a cache that is in use. -/
def placeOf (c : Cache) (view : View) (path : WrittenPath) : Except ProjectError Path :=
  if c.disposed then .error .disposed
  else
    match view.surroundings.resolve path with
    | .error e => .error (.nowhere e)
    | .ok place => .ok place

/-- The entry of the journal at a place. -/
def getAt (c : Cache) (view : View) (budget : Option Nat) (root : Path) : Answer :=
  match c.current? view root with
  | some entry => ⟨.ok (entry, true), c, []⟩
  | none =>
    c.runPass (c.startPass root budget)
      (visit (c.context view) c.settings.maxIncludeDepth [] root)

/-- The entry of a journal.  `budget` is the number of files after which a pass is cancelled. -/
def get (c : Cache) (view : View) (budget : Option Nat) (path : WrittenPath) : Answer :=
  match c.placeOf view path with
  | .error e => ⟨.error e, c, []⟩
  | .ok root => c.getAt view budget root

/-- The entry of a place, whether it holds or not. -/
def peekAt (c : Cache) (place : Path) : Option Entry :=
  c.entries.get? place

/-- The entry of what a path names, whether it holds or not. -/
def peek (c : Cache) (s : Surroundings) (path : WrittenPath) : Except PathError (Option Entry) :=
  (s.resolve path).map c.peekAt

/-- Whether there is an entry of what a path names. -/
def contains (c : Cache) (s : Surroundings) (path : WrittenPath) : Except PathError Bool :=
  (c.peek s path).map (·.isSome)

/-- The number of entries. -/
def size (c : Cache) : Nat :=
  c.entries.size

/-- Drops the entries that depend on a place. -/
def dropDependents (c : Cache) (path : Path) : Cache :=
  { c with
    entries := ⟨c.entries.entries.filter fun e => !(e.2.times.contains path || e.1 == path)⟩ }

/-- Makes an unsaved buffer stand for the file at a place. -/
def updateTextAt (c : Cache) (place : Path) (text : String) : Cache :=
  { c with
    buffers := c.buffers.insert place text
    files := c.files.erase place }.dropDependents place

/-- Makes an unsaved buffer stand for a file. -/
def updateText (c : Cache) (view : View) (path : WrittenPath) (text : String) :
    Except ProjectError Cache :=
  (c.placeOf view path).map fun place => c.updateTextAt place text

/-- Forgets the file at a place and the entries that depend on it. -/
def invalidateAt (c : Cache) (place : Path) : Cache :=
  { c with
    entries := c.entries.erase place
    files := c.files.erase place
    buffers := c.buffers.erase place }.dropDependents place

/-- Forgets a file and the entries that depend on it. -/
def invalidate (c : Cache) (s : Surroundings) (path : WrittenPath) : Except PathError Cache :=
  (s.resolve path).map c.invalidateAt

/-- Forgets everything. -/
def invalidateAll (c : Cache) : Cache :=
  { c with entries := .empty, files := .empty, buffers := .empty }

/-- Forgets everything and refuses further use. -/
def dispose (c : Cache) : Cache :=
  { c.invalidateAll with disposed := true }

/-! ## Directories -/

/-- Whether directories of a name are searched for journals. -/
def isSearched (settings : Settings) (name : String) : Bool :=
  !settings.excludeDirs.contains name && !isHidden name

/-- Whether a file of a name is a journal. -/
def isJournal (settings : Settings) (name : String) : Bool :=
  let cs := (lower name).toList
  settings.journalExtensions.any fun e => e.toList.isSuffixOf cs

/-- The directories that are searched for journals, each before those in it. -/
def searchedDirectories (settings : Settings) (disk : Disk) (base : Path) : List Path :=
  if disk.isDirectory base then
    let inner := (disk.descendants base).filterMap fun e =>
      if !e.2.isFile && e.1.all (isSearched settings) then some (base.follow e.1) else none
    (base :: inner).mergeSort Path.le
  else []

/-- The journals in a directory, by name. -/
def journalsIn (settings : Settings) (disk : Disk) (directory : Path) : List Path :=
  let names := (disk.children directory).filterMap fun e =>
    if e.2.isFile && isJournal settings e.1 then some e.1 else none
  (names.mergeSort fun a b => decide (a ≤ b)).map directory.child

/-- The journals below the directory at a place. -/
def scanAt (c : Cache) (disk : Disk) (base : Path) : List Path :=
  (searchedDirectories c.settings disk base).flatMap (journalsIn c.settings disk)

/-- The journals below a directory. -/
def scan (c : Cache) (view : View) (path : WrittenPath) : Except PathError (List Path) :=
  (view.surroundings.resolve path).map (c.scanAt view.disk)

/-- Visits journals that were not visited before. -/
def visitAll (ctx : PassContext) (journals : List Path) : PassM Unit :=
  journals.forM fun path => do
    if !(← MonadState.get).visited.contains path then
      visit ctx ctx.settings.maxIncludeDepth [] path

/-- The entry of all journals below the directory at a place. -/
def workspaceAt (c : Cache) (view : View) (budget : Option Nat) (base : Path) : Answer :=
  match c.current? view base with
  | some entry => ⟨.ok (entry, true), c, []⟩
  | none =>
    let directories := searchedDirectories c.settings view.disk base
    let times := directories.foldl (fun t p => t.insert p (view.disk.modified p)) Table.empty
    c.runPass { c.startPass base budget with times }
      (visitAll (c.context view) (c.scanAt view.disk base))

/-- The entry of all journals below a directory. -/
def workspace (c : Cache) (view : View) (budget : Option Nat) (path : WrittenPath) : Answer :=
  match c.placeOf view path with
  | .error e => ⟨.error e, c, []⟩
  | .ok base =>
    match view.disk.holdsDirectory .root base.written with
    | .error e => ⟨.error (.unreadable base e), c, []⟩
    | .ok false => ⟨.error (.notDirectory base), c, []⟩
    | .ok true => c.workspaceAt view budget base

end Cache

/-- Gives an engine the snapshot of a journal, unless it has it. -/
def refresh (e : Engine) (c : Cache) (view : View) (path : WrittenPath) : Engine × Answer :=
  let answer := c.get view none path
  match answer.result with
  | .error _ => (e, answer)
  | .ok (entry, _) => (if entry.data = e.data then e else e.update entry.data, answer)

end Daybook.Project
