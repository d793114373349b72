import Daybook.Builder.Feed
import Daybook.Project.Include
import Daybook.Settings

/-!
# Passes

A pass reads a journal and everything it includes.  Files that did not change since they were last
read are not read again.  A pass can be cancelled between files; what it has read stays known.

* `View`: what a pass sees; `FileResult`: what it keeps of a file.
* `Pass`: the state of a pass; `PassM`: a step of it.
* `load`: what is known about one file.
* `visit`: a file and what it includes.
-/

namespace Daybook.Project

open Calendar Journal

/-- What a pass sees. -/
structure View where
  disk : Disk
  surroundings : Surroundings
  today : Date

/-- What is kept of a file. -/
structure FileResult where
  /-- The time of its last change when it was read. -/
  modified : Int
  data : Snapshot
  includes : List IncludeTarget
  /-- Whether an unsaved buffer was read instead of the file. -/
  fromBuffer : Bool

/-- The state of a pass. -/
structure Pass where
  root : Path
  /-- How many more files may be started on before the pass is cancelled. -/
  budget : Option Nat
  /-- What is known about files, also from earlier passes. -/
  files : Table Path FileResult
  /-- The files that were read from the disk, in order. -/
  reads : List Path
  /-- The files that were started on. -/
  visited : List Path
  snapshots : List Snapshot
  /-- The times of all that the outcome depends on. -/
  times : Table Path Int
  warnings : List Warning

/-- A step of a pass.  When it fails, what was done before stays done. -/
abbrev PassM := ExceptT ProjectError (StateM Pass)

/-- The value of a computation, or its failure. -/
def liftExcept {α : Type} : Except ProjectError α → PassM α
  | .ok a => pure a
  | .error e => throw e

/-- What a pass is governed by. -/
structure PassContext where
  view : View
  settings : Settings
  /-- The unsaved buffers that stand for files. -/
  buffers : Table Path String

/-- Fails if the pass is cancelled. -/
def checkCancelled : PassM Unit := do
  let pass ← get
  match pass.budget with
  | none => pure ()
  | some 0 => throw (.cancelled pass.root pass.visited.length)
  | some (n + 1) => set { pass with budget := some n }

/-- Adds a warning about a line of a file. -/
def warnAt (source : Path) (line : Nat) (message : String) : PassM Unit :=
  modify fun pass => { pass with warnings := pass.warnings ++ [⟨line, message, source.text⟩] }

/-- The text of a file on the disk. -/
def readFile (ctx : PassContext) (path : Path) : PassM String := do
  modify fun pass => { pass with reads := pass.reads ++ [path] }
  match ctx.view.disk.readText path with
  | .ok text => return text
  | .error cause => throw (.unreadable path cause)

/-- What a text amounts to. -/
def parseText (ctx : PassContext) (path : Path) (text : String) : Except BuildError Snapshot :=
  let options : BuildOptions :=
    { dateOrder := ctx.settings.dateOrder
      defaultYear := none
      source := some path.text
      today := ctx.view.today }
  (Snapshot.ofPortions options ctx.settings.chunkSize text).map (·.2)

/-- Whether what is known about a file still holds. -/
def FileResult.isCurrent (result : FileResult) (modified : Int) (buffered : Bool) : Bool :=
  result.modified == modified && result.fromBuffer == buffered

/-- What is known about a file, read anew if it changed. -/
def load (ctx : PassContext) (path : Path) : PassM FileResult := do
  let modified := ctx.view.disk.modified path
  let buffer := ctx.buffers.get? path
  let known := ((← get).files.get? path).filter (·.isCurrent modified buffer.isSome)
  match known with
  | some result => return result
  | none =>
    let text ←
      match buffer with
      | some text => pure text
      | none => readFile ctx path
    match parseText ctx path text with
    | .error cause => throw (.build cause)
    | .ok data =>
      let result : FileResult := ⟨modified, data, includeTargets text, buffer.isSome⟩
      modify fun pass => { pass with files := pass.files.insert path result }
      return result

/-- Records that the outcome depends on a place. -/
def watchPlace (ctx : PassContext) (place : Path) : PassM Unit :=
  modify fun pass =>
    { pass with times := pass.times.insertNew place (ctx.view.disk.modified place) }

/-- Follows a target of an include directive.  A target that is being visited closes a cycle; one
that was visited before is not visited again, and one that cannot be read is left out. -/
def followTarget (visitFile : Path → PassM Unit) (chain : List Path) (path : Path) (line : Nat)
    (target : Path) : PassM Unit := do
  if chain.contains target then warnAt path line ("include cycle skipped: " ++ target.text)
  else if (← get).visited.contains target then pure ()
  else
    tryCatch (visitFile target) fun e =>
      if e.isUnreadable then
        warnAt path line ("cannot read included file " ++ target.text ++ ": " ++ e.message)
      else throw e

/-- Follows an include directive. -/
def followInclude (ctx : PassContext) (visitFile : Path → PassM Unit) (chain : List Path)
    (path : Path) (target : IncludeTarget) : PassM Unit := do
  let site : IncludeSite := ⟨ctx.view.surroundings, path.parent.written⟩
  let files ← liftExcept (site.resolve ctx.view.disk target.pattern)
  watchPlace ctx (← liftExcept (site.watch target.pattern))
  if files.isEmpty then warnAt path target.line ("included file not found: " ++ target.pattern)
  else files.forM (followTarget visitFile chain path target.line)

/-- Starts on a file: what is known about it becomes part of the outcome. -/
def enter (ctx : PassContext) (path : Path) : PassM FileResult := do
  checkCancelled
  modify fun pass => { pass with visited := pass.visited.insert path }
  let result ← load ctx path
  modify fun pass =>
    { pass with
      times := pass.times.insert path result.modified
      snapshots := pass.snapshots ++ [result.data] }
  return result

/-- The warning about includes that are nested too deeply. -/
def depthWarning (limit : Nat) : String :=
  "include depth limit (" ++ toString limit ++ ") reached; nested includes ignored"

/-- Visits a file and what it includes, down to `depth` further levels.  `chain` holds the files by
whose includes it was reached. -/
def visit (ctx : PassContext) : Nat → List Path → Path → PassM Unit
  | 0, _, path => do
    let result ← enter ctx path
    match result.includes with
    | [] => pure ()
    | first :: _ => warnAt path first.line (depthWarning ctx.settings.maxIncludeDepth)
  | depth + 1, chain, path => do
    let result ← enter ctx path
    let here := path :: chain
    result.includes.forM (followInclude ctx (visit ctx depth here) here path)

end Daybook.Project
