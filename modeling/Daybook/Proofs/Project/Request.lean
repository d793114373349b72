import Daybook.Proofs.Project.Pass

/-!
# Requests

The entry of a journal and the entry of a directory are asked for in the same way.  A request fails
before it gets to any file, or is answered by an entry that holds, or opens a pass over its top-level
files: the journal itself, or the journals below the directory.  What is shown for requests in
general therefore needs no distinction between the two.

* `Request`: what a cache is asked for; `Request.ask`: the answer.
* `Opening`: a pass that a request opens; `Request.opened`: what a request comes to before any file
  is started on.
* `Request.ask_eq`: the answer in terms of what is opened.
* `View.ofFiles`: a disk with some files in its root directory.
-/

namespace Daybook.Project

open PassM

/-- What a cache is asked for. -/
inductive Request where
  /-- The entry of a journal. -/
  | journal (path : WrittenPath)
  /-- The entry of all journals below a directory. -/
  | directory (path : WrittenPath)

/-- A pass that a request opens. -/
structure Opening where
  /-- What the entry is published for. -/
  place : Path
  /-- The times that are known before any file is started on. -/
  times : Table Path Int
  /-- The top-level files, in order. -/
  tops : List Path

namespace Opening

/-- The pass over a journal. -/
def journal (root : Path) : Opening :=
  ⟨root, .empty, [root]⟩

/-- The pass over a directory.  It depends on all directories that are searched. -/
def directory (c : Cache) (view : View) (base : Path) : Opening where
  place := base
  times := (Cache.searchedDirectories c.settings view.disk base).foldl
    (fun t p => t.insert p (view.disk.modified p)) .empty
  tops := c.scanAt view.disk base

/-- The state in which the pass starts. -/
def pass (o : Opening) (c : Cache) (budget : Option Nat) : Pass :=
  { c.startPass o.place budget with times := o.times }

/-- The pass, unless there is an entry that holds. -/
def orCurrent (o : Opening) (c : Cache) (view : View) : Entry ⊕ Opening :=
  match c.current? view o.place with
  | some entry => .inl entry
  | none => .inr o

end Opening

/-- The steps of a pass matter only for what they come to. -/
theorem Cache.runPass_congr (c : Cache) {pass : Pass} {steps steps' : PassM Unit}
    (h : outcome steps pass = outcome steps' pass) : c.runPass pass steps = c.runPass pass steps' := by
  unfold outcome at h
  rw [runPass, runPass, h]

/-- Journals are visited one after another. -/
theorem Cache.visitAll_append (ctx : PassContext) (before after : List Path) :
    visitAll ctx (before ++ after) = visitAll ctx before >>= fun _ => visitAll ctx after :=
  List.forM_append

/-- A journal that was not visited before is visited first. -/
theorem outcome_visitAll_cons_of_new (ctx : PassContext) {path : Path} {p : Pass}
    (hnew : path ∉ p.visited) (rest : List Path) :
    outcome (Cache.visitAll ctx (path :: rest)) p =
      outcome (visit ctx ctx.settings.maxIncludeDepth [] path >>= fun _ =>
        Cache.visitAll ctx rest) p := by
  have hfresh : (!p.visited.contains path) = true := by simpa using hnew
  show outcome ((do
    let q ← MonadState.get
    if !q.visited.contains path then visit ctx ctx.settings.maxIncludeDepth [] path) >>=
      fun _ => Cache.visitAll ctx rest) p = _
  rw [outcome_bind, outcome_bind_of_ok (outcome_get p), if_pos hfresh, outcome_bind]

namespace Request

/-- The answer to a request. -/
def ask (c : Cache) (view : View) (budget : Option Nat) : Request → Answer
  | journal path => c.get view budget path
  | directory path => c.workspace view budget path

/-- What a request comes to before any file is started on. -/
def opened (c : Cache) (view : View) : Request → Except ProjectError (Entry ⊕ Opening)
  | journal path => (c.placeOf view path).map fun root => (Opening.journal root).orCurrent c view
  | directory path =>
    match c.placeOf view path with
    | .error e => .error e
    | .ok base =>
      match view.disk.holdsDirectory .root base.written with
      | .error e => .error (.unreadable base e)
      | .ok false => .error (.notDirectory base)
      | .ok true => .ok ((Opening.directory c view base).orCurrent c view)

/-- **The answer to a request**: a failure, an entry that holds, or what the pass comes to. -/
theorem ask_eq (c : Cache) (view : View) (budget : Option Nat) (q : Request) :
    q.ask c view budget =
      match q.opened c view with
      | .error e => ⟨.error e, c, []⟩
      | .ok (.inl entry) => ⟨.ok (entry, true), c, []⟩
      | .ok (.inr o) =>
        c.runPass (o.pass c budget) (Cache.visitAll (c.context view) o.tops) := by
  cases q with
  | journal path =>
    rw [ask, opened, Cache.get]
    cases c.placeOf view path with
    | error e => rfl
    | ok root =>
      simp only [Except.map, Opening.orCurrent, Opening.journal, Cache.getAt]
      cases c.current? view root with
      | some entry => rfl
      | none =>
        refine c.runPass_congr (Eq.symm ?_)
        rw [outcome_visitAll_cons_of_new _ List.not_mem_nil]
        exact congrArg (outcome · _) bind_pure_unit
  | directory path =>
    rw [ask, opened, Cache.workspace]
    cases c.placeOf view path with
    | error e => rfl
    | ok base =>
      dsimp only
      cases view.disk.holdsDirectory .root base.written with
      | error e => rfl
      | ok found =>
        cases found with
        | false => rfl
        | true =>
          simp only [Opening.orCurrent, Opening.directory, Cache.workspaceAt]
          cases c.current? view base <;> rfl

variable {c : Cache} {view : View} {q : Request} {o : Opening}

/-- The answer to a request that opens a pass. -/
theorem ask_of_opened (h : q.opened c view = .ok (.inr o)) (budget : Option Nat) :
    q.ask c view budget =
      c.runPass (o.pass c budget) (Cache.visitAll (c.context view) o.tops) := by
  rw [ask_eq, h]

/-- A journal without an entry that holds opens a pass. -/
theorem opened_journal {path : WrittenPath} {root : Path} (hplace : c.placeOf view path = .ok root)
    (hstale : (c.current? view root).isNone) :
    (journal path).opened c view = .ok (.inr (.journal root)) := by
  have hnone : c.current? view (Opening.journal root).place = none := Option.isNone_iff_eq_none.mp hstale
  rw [opened, hplace, Except.map, Opening.orCurrent, hnone]

end Request

/-- What is seen of a disk with some files in its root directory, all of the same time. -/
def View.ofFiles (time : Int) (files : List (String × ByteArray)) : View where
  disk := ⟨⟨(.root, ⟨.directory, time⟩) :: files.map fun f => (⟨[f.1]⟩, ⟨.file f.2, time⟩)⟩⟩
  surroundings := ⟨.root, "/", .empty⟩
  today := ⟨2024, 1, 1, by decide⟩

end Daybook.Project
