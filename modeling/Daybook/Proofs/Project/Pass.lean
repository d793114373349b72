import Daybook.Project.Cache
import Daybook.Proofs.Builder.Days
import Daybook.Proofs.Table

/-!
# What the steps of a pass come to

A step of a pass gives a value or fails, and either way it leaves a state behind.  Of a file a pass
can keep what an earlier one read; as long as all that is kept is what would be read now, nothing of
the outcome shows that it was not read again.

* `PassM.outcome`: what a step comes to, with one equation for each way of composing steps.
* `loaded`: what a file amounts to, read anew; `taken`: what it is taken to be, where something is
  kept.
* `parseText_congr_year`: a text amounts to the same on all days of a year.
* `Refreshed`: whether kept files are others with some read anew; `Refreshed.same`: this leaves `taken`
  as it is.
* `Known`: whether all that is kept of files and still holds is what they amount to.
* `load_cases`: the two ways of loading a file.  `outcome_load`: both come to what is taken.
* `outcome_enter`, `outcome_followInclude`: what starting on a file and following an include
  directive come to.
-/

namespace Daybook.Project

/-! ## Outcomes -/

namespace PassM

variable {α β : Type}

/-- What a step of a pass comes to, and the state that it leaves. -/
def outcome (m : PassM α) (p : Pass) : Except ProjectError α × Pass :=
  m.run.run p

@[simp] theorem outcome_pure (a : α) (p : Pass) : outcome (pure a) p = (.ok a, p) := rfl

@[simp] theorem outcome_throw (e : ProjectError) (p : Pass) :
    outcome (throw e : PassM α) p = (.error e, p) := rfl

@[simp] theorem outcome_modify (f : Pass → Pass) (p : Pass) :
    outcome (modify f) p = (.ok (), f p) := rfl

@[simp] theorem outcome_get (p : Pass) : outcome get p = (.ok p, p) := rfl

@[simp] theorem outcome_set (p p' : Pass) : outcome (set p') p = (.ok (), p') := rfl

theorem outcome_bind (m : PassM α) (f : α → PassM β) (p : Pass) :
    outcome (m >>= f) p =
      match outcome m p with
      | (.ok a, p') => outcome (f a) p'
      | (.error e, p') => (.error e, p') := by
  have hrun : (m >>= f).run.run p =
      match m.run.run p with
      | (.ok a, p') => (f a).run.run p'
      | (.error e, p') => (.error e, p') := by
    simp only [ExceptT.run_bind, StateT.run_bind]
    rcases m.run.run p with ⟨r, p'⟩
    cases r <;> rfl
  exact hrun

theorem outcome_tryCatch (m : PassM α) (handle : ProjectError → PassM α) (p : Pass) :
    outcome (tryCatch m handle) p =
      match outcome m p with
      | (.ok a, p') => (.ok a, p')
      | (.error e, p') => outcome (handle e) p' := by
  have hrun : (tryCatch m handle : PassM α).run.run p =
      match m.run.run p with
      | (.ok a, p') => (.ok a, p')
      | (.error e, p') => (handle e).run.run p' := by
    show (ExceptT.tryCatch m handle).run.run p = _
    simp only [ExceptT.tryCatch, ExceptT.run, ExceptT.mk, StateT.run_bind]
    rcases StateT.run m p with ⟨r, p'⟩
    cases r <;> rfl
  exact hrun

/-- The rest of a pass, behind a step that gives a value. -/
theorem outcome_bind_of_ok {m : PassM α} {p p' : Pass} {a : α} (h : outcome m p = (.ok a, p'))
    (f : α → PassM β) : outcome (m >>= f) p = outcome (f a) p' := by
  rw [outcome_bind, h]

/-- A step that fails is the last one. -/
theorem outcome_bind_of_error {m : PassM α} {p p' : Pass} {e : ProjectError}
    (h : outcome m p = (.error e, p')) (f : α → PassM β) :
    outcome (m >>= f) p = (.error e, p') := by
  rw [outcome_bind, h]

end PassM

open PassM

/-! ## Files -/

section

variable (ctx : PassContext)

/-- What the text of a file amounts to, from a buffer or from the disk. -/
def parsed (path : Path) (buffered : Bool) (text : String) : Except ProjectError FileResult :=
  match parseText ctx path text with
  | .error cause => .error (.build cause)
  | .ok data => .ok ⟨ctx.view.disk.modified path, data, includeTargets text, buffered⟩

/-- What a file amounts to, read anew. -/
def loaded (path : Path) : Except ProjectError FileResult :=
  match ctx.buffers.get? path with
  | some text => parsed ctx path true text
  | none =>
    match ctx.view.disk.readText path with
    | .error cause => .error (.unreadable path cause)
    | .ok text => parsed ctx path false text

/-- What is kept of a file and still holds. -/
def kept? (files : Table Path FileResult) (path : Path) : Option FileResult :=
  (files.get? path).filter
    (·.isCurrent (ctx.view.disk.modified path) (ctx.buffers.get? path).isSome)

/-- What a file is taken to be: what is kept of it and still holds, or what it amounts to. -/
def taken (files : Table Path FileResult) (path : Path) : Except ProjectError FileResult :=
  match kept? ctx files path with
  | some r => .ok r
  | none => loaded ctx path

/-- Whether kept files are others with those of a list read anew of which nothing was kept that still
holds.  What was read anew is kept if it amounts to something. -/
structure Refreshed (paths : List Path) (files files' : Table Path FileResult) : Prop where
  holds : ∀ path, kept? ctx files' path =
    (kept? ctx files path).or (if path ∈ paths then (loaded ctx path).toOption else none)
  kept : ∀ ⦃path r⦄, files'.get? path = some r →
    files.get? path = some r ∨ loaded ctx path = .ok r

/-- Whether all that is kept of files and still holds is what they amount to. -/
def Known (files : Table Path FileResult) : Prop :=
  ∀ ⦃path result⦄, files.get? path = some result →
    result.isCurrent (ctx.view.disk.modified path) (ctx.buffers.get? path).isSome →
      loaded ctx path = .ok result

theorem known_empty : Known ctx .empty :=
  fun _ _ h => nomatch h

end

section

variable {ctx : PassContext}

/-- A text amounts to the same on all days of a year. -/
theorem parseText_congr_year {ctx' : PassContext} (hsettings : ctx.settings = ctx'.settings)
    (hyear : ctx.view.today.year = ctx'.view.today.year) (path : Path) (text : String) :
    parseText ctx path text = parseText ctx' path text := by
  have hportions := Snapshot.ofPortions_congr_year
    ⟨ctx.settings.dateOrder, none, some path.text, ctx.view.today⟩ hyear ctx.settings.chunkSize text
  rw [parseText, parseText, ← hsettings]
  exact congrArg (Except.map (·.2)) hportions

theorem modified_of_parsed {path : Path} {buffered : Bool} {text : String} {r : FileResult}
    (h : parsed ctx path buffered text = .ok r) : r.modified = ctx.view.disk.modified path := by
  rw [parsed] at h
  split at h
  · cases h
  · cases h
    rfl

/-- What a file amounts to carries the time of its last change. -/
theorem modified_of_loaded {path : Path} {r : FileResult} (h : loaded ctx path = .ok r) :
    r.modified = ctx.view.disk.modified path := by
  rw [loaded] at h
  split at h
  · exact modified_of_parsed h
  · split at h
    · cases h
    · exact modified_of_parsed h

theorem loaded_of_buffer {path : Path} {text : String} (h : ctx.buffers.get? path = some text) :
    loaded ctx path = parsed ctx path true text := by
  rw [loaded, h]

theorem loaded_of_readText {path : Path} {text : String} (h : ctx.buffers.get? path = none)
    (htext : ctx.view.disk.readText path = .ok text) :
    loaded ctx path = parsed ctx path false text := by
  rw [loaded, h, htext]

theorem loaded_of_error {path : Path} {cause : DiskError} (h : ctx.buffers.get? path = none)
    (htext : ctx.view.disk.readText path = .error cause) :
    loaded ctx path = .error (.unreadable path cause) := by
  rw [loaded, h, htext]

/-- Loading a file whose text is at hand. -/
theorem outcome_parse {path : Path} {buffered : Bool} (text : String) (p : Pass) :
    outcome (match parseText ctx path text with
      | .error cause => throw (.build cause)
      | .ok data => do
        let result : FileResult :=
          ⟨ctx.view.disk.modified path, data, includeTargets text, buffered⟩
        modify fun pass => { pass with files := pass.files.insert path result }
        return result) p =
      match parsed ctx path buffered text with
      | .error e => (.error e, p)
      | .ok r => (.ok r, { p with files := p.files.insert path r }) := by
  unfold parsed
  cases parseText ctx path text <;> rfl

/-- What a file amounts to still holds. -/
theorem isCurrent_of_loaded {path : Path} {r : FileResult} (h : loaded ctx path = .ok r) :
    r.isCurrent (ctx.view.disk.modified path) (ctx.buffers.get? path).isSome := by
  have hparsed (buffered : Bool) (text : String) (h : parsed ctx path buffered text = .ok r) :
      r.isCurrent (ctx.view.disk.modified path) buffered := by
    rw [parsed] at h
    split at h
    · cases h
    · cases h
      simp [FileResult.isCurrent]
  rw [loaded] at h
  split at h
  · rename_i hbuffer
    rw [hbuffer]
    exact hparsed true _ h
  · rename_i hbuffer
    rw [hbuffer]
    split at h
    · cases h
    · exact hparsed false _ h

theorem taken_of_kept {files : Table Path FileResult} {path : Path} {r : FileResult}
    (h : kept? ctx files path = some r) : taken ctx files path = .ok r := by
  rw [taken, h]

theorem taken_of_not_kept {files : Table Path FileResult} {path : Path}
    (h : kept? ctx files path = none) : taken ctx files path = loaded ctx path := by
  rw [taken, h]

theorem Refreshed.refl (files : Table Path FileResult) : Refreshed ctx [] files files where
  holds path := by rw [if_neg List.not_mem_nil, Option.or_none]
  kept _ _ h := .inl h

theorem Refreshed.trans {paths more : List Path} {files files' files'' : Table Path FileResult}
    (h : Refreshed ctx paths files files') (h' : Refreshed ctx more files' files'') :
    Refreshed ctx (more ++ paths) files files'' where
  holds path := by
    rw [h'.holds, h.holds, Option.or_assoc]
    by_cases hmore : path ∈ more <;> by_cases hpaths : path ∈ paths <;> simp [hmore, hpaths]
  kept _ _ hget := (h'.kept hget).elim (@h.kept _ _) .inr

/-- What files are taken to be does not change when they are read anew. -/
theorem Refreshed.same {paths : List Path} {files files' : Table Path FileResult}
    (h : Refreshed ctx paths files files') : taken ctx files' = taken ctx files := by
  funext path
  cases hkept : kept? ctx files path with
  | some r =>
    rw [taken_of_kept hkept, taken_of_kept]
    rw [h.holds, hkept, Option.some_or]
  | none =>
    have hholds := h.holds path
    rw [hkept, Option.none_or] at hholds
    rw [taken, hholds, taken_of_not_kept hkept]
    by_cases hpath : path ∈ paths
    · rw [if_pos hpath]
      cases loaded ctx path <;> rfl
    · rw [if_neg hpath]

/-- A file of which something is kept that still holds is not read, and nothing is kept of one that does
not amount to anything. -/
theorem Refreshed.of_unchanged {files : Table Path FileResult} {path : Path}
    (h : kept? ctx files path = none → (loaded ctx path).toOption = none) :
    Refreshed ctx [path] files files where
  holds other := by
    by_cases hother : other = path
    · rw [hother, if_pos (List.mem_singleton_self path)]
      cases hkept : kept? ctx files path with
      | some r => rfl
      | none => rw [h hkept, Option.or_none]
    · rw [if_neg (mt List.mem_singleton.mp hother), Option.or_none]
  kept _ _ hget := .inl hget

/-- A file of which nothing is kept, or nothing that still holds, is read anew. -/
theorem Refreshed.insert {files : Table Path FileResult} {path : Path} {r : FileResult}
    (hkept : kept? ctx files path = none) (hr : loaded ctx path = .ok r) :
    Refreshed ctx [path] files (files.insert path r) where
  holds other := by
    by_cases hother : other = path
    · have hinsert : kept? ctx (files.insert path r) path = some r := by
        rw [kept?, Table.insert, Table.get?_alter, if_pos rfl]
        exact Option.filter_eq_some_iff.mpr ⟨rfl, isCurrent_of_loaded hr⟩
      rw [hother, hinsert, hkept, hr, if_pos (List.mem_singleton_self path)]
      rfl
    · rw [if_neg (mt List.mem_singleton.mp hother), Option.or_none, kept?, kept?, Table.insert,
        Table.get?_alter, if_neg hother]
  kept other r' hget := by
    rw [Table.insert, Table.get?_alter] at hget
    split at hget
    · rename_i hother
      rw [hother, hr, Option.some.inj hget]
      exact .inr rfl
    · exact .inl hget

theorem Known.taken_eq {files : Table Path FileResult} (h : Known ctx files) :
    taken ctx files = loaded ctx := by
  funext path
  cases hkept : kept? ctx files path with
  | none => exact taken_of_not_kept hkept
  | some r =>
    obtain ⟨hget, hcurrent⟩ := Option.filter_eq_some_iff.mp hkept
    rw [taken_of_kept hkept, h hget hcurrent]

theorem Known.refreshed {paths : List Path} {files files' : Table Path FileResult}
    (h : Known ctx files) (hfiles : Refreshed ctx paths files files') : Known ctx files' := by
  intro path r hget hcurrent
  rcases hfiles.kept hget with hkept | hloaded
  · exact h hkept hcurrent
  · exact hloaded

/-- Loading a file takes what is kept of it, or reads it anew and keeps that.  It is read from the
disk at most once. -/
theorem load_cases (ctx : PassContext) (path : Path) (p : Pass) :
    (∃ r, kept? ctx p.files path = some r ∧ outcome (load ctx path) p = (.ok r, p)) ∨
    kept? ctx p.files path = none ∧
    ∃ reads, (reads = p.reads ∨ reads = p.reads ++ [path]) ∧ outcome (load ctx path) p =
      match loaded ctx path with
      | .error e => (.error e, { p with reads })
      | .ok r => (.ok r, { p with reads, files := p.files.insert path r }) := by
  rw [load, outcome_bind_of_ok (outcome_get p)]
  cases hkept : (p.files.get? path).filter
      (·.isCurrent (ctx.view.disk.modified path) (ctx.buffers.get? path).isSome) with
  | some r => exact .inl ⟨r, hkept, rfl⟩
  | none =>
    refine .inr ⟨hkept, ?_⟩
    dsimp only
    cases hbuffer : ctx.buffers.get? path with
    | some text =>
      refine ⟨p.reads, .inl rfl, ?_⟩
      rw [loaded_of_buffer hbuffer]
      exact outcome_parse text p
    | none =>
      refine ⟨p.reads ++ [path], .inr rfl, ?_⟩
      cases htext : ctx.view.disk.readText path with
      | error cause =>
        have hread : outcome (readFile ctx path) p =
            (.error (.unreadable path cause), { p with reads := p.reads ++ [path] }) := by
          rw [readFile, outcome_bind_of_ok (outcome_modify _ p), htext]
          rfl
        rw [loaded_of_error hbuffer htext]
        exact outcome_bind_of_error hread _
      | ok text =>
        have hread : outcome (readFile ctx path) p =
            (.ok text, { p with reads := p.reads ++ [path] }) := by
          rw [readFile, outcome_bind_of_ok (outcome_modify _ p), htext]
          rfl
        rw [loaded_of_readText hbuffer htext]
        exact (outcome_bind_of_ok hread _).trans (outcome_parse text _)

/-- **Loading a file** comes to what it is taken to be, and leaves what files are taken to be. -/
theorem outcome_load (ctx : PassContext) (path : Path) (p : Pass) :
    ∃ files reads, Refreshed ctx [path] p.files files ∧
      (reads = p.reads ∨ reads = p.reads ++ [path]) ∧
      outcome (load ctx path) p = (taken ctx p.files path, { p with files, reads }) := by
  rcases load_cases ctx path p with ⟨r, hkept, hrun⟩ | ⟨hkept, reads, hreads, hrun⟩
  · refine ⟨p.files, p.reads, .of_unchanged fun hnone => ?_, .inl rfl, ?_⟩
    · cases hnone.symm.trans hkept
    · rw [hrun, taken_of_kept hkept]
  · rw [taken_of_not_kept hkept]
    cases hr : loaded ctx path with
    | error e =>
      rw [hr] at hrun
      exact ⟨p.files, reads, .of_unchanged fun _ => by rw [hr]; rfl, hreads, hrun⟩
    | ok r =>
      rw [hr] at hrun
      exact ⟨_, reads, .insert hkept hr, hreads, hrun⟩

/-- Asking whether a pass is cancelled: it is when nothing is left of its budget, and otherwise only
the budget changes. -/
theorem outcome_checkCancelled (p : Pass) :
    (p.budget = some 0 ∧
      outcome checkCancelled p = (.error (.cancelled p.root p.visited.length), p)) ∨
    ∃ budget, (p.budget = none → budget = none) ∧
      outcome checkCancelled p = (.ok (), { p with budget }) := by
  obtain ⟨root, budget, files, reads, visited, snapshots, times, warnings⟩ := p
  rcases budget with _ | _ | n
  · exact .inr ⟨none, fun _ => rfl, rfl⟩
  · exact .inl ⟨rfl, rfl⟩
  · exact .inr ⟨some n, nofun, rfl⟩

/-- **Starting on a file**, in a pass that is not cancelled there. -/
theorem outcome_enter (path : Path) {p : Pass} {budget : Option Nat}
    (hcheck : outcome checkCancelled p = (.ok (), { p with budget })) :
    ∃ files reads, Refreshed ctx [path] p.files files ∧
      (reads = p.reads ∨ reads = p.reads ++ [path]) ∧
      outcome (enter ctx path) p =
        match taken ctx p.files path with
        | .error e => (.error e, { p with budget, files, reads, visited := p.visited.insert path })
        | .ok r => (.ok r, { p with
            budget, files, reads
            visited := p.visited.insert path
            times := p.times.insert path r.modified
            snapshots := p.snapshots ++ [r.data] }) := by
  obtain ⟨files, reads, hfiles, hreads, hload⟩ := outcome_load ctx path
    { p with budget, visited := p.visited.insert path }
  refine ⟨files, reads, hfiles, hreads, ?_⟩
  rw [enter, outcome_bind_of_ok hcheck, outcome_bind_of_ok (outcome_modify _ _)]
  cases htaken : taken ctx p.files path with
  | error e =>
    rw [htaken] at hload
    exact outcome_bind_of_error hload _
  | ok r =>
    rw [htaken] at hload
    exact outcome_bind_of_ok hload _

/-- Starting on a file where what is kept is known. -/
theorem Known.outcome_enter (path : Path) {p : Pass} {budget : Option Nat}
    (hcheck : outcome checkCancelled p = (.ok (), { p with budget }))
    (hfiles : Known ctx p.files) :
    ∃ files reads, Known ctx files ∧
      outcome (enter ctx path) p =
        match loaded ctx path with
        | .error e => (.error e, { p with budget, files, reads, visited := p.visited.insert path })
        | .ok r => (.ok r, { p with
            budget, files, reads
            visited := p.visited.insert path
            times := p.times.insert path r.modified
            snapshots := p.snapshots ++ [r.data] }) := by
  obtain ⟨files, reads, hrefreshed, -, hrun⟩ := Project.outcome_enter path hcheck
  rw [hfiles.taken_eq] at hrun
  exact ⟨files, reads, hfiles.refreshed hrefreshed, hrun⟩

/-! ## Include directives -/

/-- Where the include directives of a file stand. -/
def siteOf (ctx : PassContext) (path : Path) : IncludeSite :=
  ⟨ctx.view.surroundings, path.parent.written⟩

/-- What can be resolved can be watched. -/
theorem exists_watch_of_resolve {site : IncludeSite} {disk : Disk} {pattern : String}
    {files : List Path} (h : site.resolve disk pattern = .ok files) :
    ∃ place, site.watch pattern = .ok place := by
  rw [IncludeSite.resolve] at h
  rw [IncludeSite.watch]
  split at h
  · cases h
  · exact ⟨_, rfl⟩

section

variable {path place : Path} {t : IncludeTarget} {files : List Path}
  (visitFile : Path → PassM Unit) (chain : List Path) (p : Pass)

/-- A directive that cannot be resolved ends the visit of its file. -/
theorem outcome_followInclude_of_error {e : ProjectError}
    (hresolve : (siteOf ctx path).resolve ctx.view.disk t.pattern = .error e) :
    outcome (followInclude ctx visitFile chain path t) p = (.error e, p) := by
  unfold siteOf at hresolve
  rw [followInclude, hresolve]
  rfl

/-- A directive that can be resolved is watched, and its files are followed. -/
theorem outcome_followInclude (hresolve :
    (siteOf ctx path).resolve ctx.view.disk t.pattern = .ok files)
    (hwatch : (siteOf ctx path).watch t.pattern = .ok place) :
    outcome (followInclude ctx visitFile chain path t) p =
      outcome (if files.isEmpty then
          warnAt path t.line ("included file not found: " ++ t.pattern)
        else files.forM (followTarget visitFile chain path t.line))
        { p with times := p.times.insertNew place (ctx.view.disk.modified place) } := by
  unfold siteOf at hresolve hwatch
  rw [followInclude, hresolve, hwatch]
  rfl

end

end

/-! ## Requests -/

namespace Cache

/-- A new cache with unsaved buffers. -/
def anew (settings : Settings) (buffers : Table Path String) : Cache :=
  { start settings with buffers }

/-- The place that a path names, for a cache that was not disposed of. -/
theorem placeOf_eq {c : Cache} (hopen : c.disposed = false) (view : View) (path : WrittenPath) :
    c.placeOf view path =
      match view.surroundings.resolve path with
      | .error e => .error (.nowhere e)
      | .ok place => .ok place := by
  have hif : ¬c.disposed = true := by
    rw [hopen]
    exact Bool.false_ne_true
  exact if_neg hif

theorem placeOf_of_error {c : Cache} (hopen : c.disposed = false) (view : View)
    {path : WrittenPath} {e : PathError} (h : view.surroundings.resolve path = .error e) :
    c.placeOf view path = .error (.nowhere e) := by
  rw [placeOf_eq hopen, h]

theorem placeOf_of_ok {c : Cache} (hopen : c.disposed = false) (view : View)
    {path : WrittenPath} {place : Path} (h : view.surroundings.resolve path = .ok place) :
    c.placeOf view path = .ok place := by
  rw [placeOf_eq hopen, h]

/-- A request for an entry that does not hold starts a pass. -/
theorem getAt_of_stale {c : Cache} {view : View} {root : Path}
    (hcurrent : c.current? view root = none) (budget : Option Nat) :
    c.getAt view budget root = c.runPass (c.startPass root budget)
      (visit (c.context view) c.settings.maxIncludeDepth [] root) := by
  rw [getAt, hcurrent]

/-- A pass that fails leaves all entries. -/
theorem runPass_of_error (c : Cache) {pass p : Pass} {steps : PassM Unit} {e : ProjectError}
    (h : outcome steps pass = (.error e, p)) :
    c.runPass pass steps = ⟨.error e, { c with files := p.files }, p.reads⟩ := by
  unfold outcome at h
  rw [runPass, h]

/-- A pass that comes to its end publishes its entry. -/
theorem runPass_of_ok (c : Cache) {pass p : Pass} {steps : PassM Unit}
    (h : outcome steps pass = (.ok (), p)) :
    c.runPass pass steps = ⟨.ok (entryOf p, false),
      { c with files := p.files, entries := c.entries.insert p.root (entryOf p) }, p.reads⟩ := by
  unfold outcome at h
  rw [runPass, h]

end Cache

end Daybook.Project
