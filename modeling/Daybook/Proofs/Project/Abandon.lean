import Daybook.Proofs.Project.Search

/-!
# Passes that are abandoned

A pass that fails leaves behind what it read of files, and nothing else.  Until the year changes that cannot
be told from the outside: what is kept of a file is what the file would be taken to be anyway, so later
requests come to the same as if the failed one had not been made.  This holds for whatever a cache has
kept, also if some of it should be out of date.  In another year a date without a year means another day,
but what was kept stays.

The argument compares a pass with one that is never cancelled and that may have different files
kept.  Side by side the two come to the same, until the first is cancelled when it has started on as
many files as it may.  No step between a visit and the request takes the cancellation for the failure
of a single file.

* `Cut`: whether a pass has started on the first files of another one.
* `Echo`: whether the state of a pass is that of another, apart from a limit and from what is kept.
* `Repeats`: whether a step, run from such states, comes to the same or is cancelled in time.
* `repeats_visit`, `repeats_visitAll`: visits do.
* `AlikeOn`: whether what is kept of files makes no difference on some days; `AlikeOn.refreshed`: it still
  makes none when the same files are read anew.
* `Cache.Alike`: whether two caches differ only in that; `Alike.ask`: they answer alike.
* `Request.failure_leaves_no_trace`: a failed request leaves no trace, and when requests fail.
* `Request.failure_shows_in_next_year`: where it does, and where requests do not fail.
-/

namespace Daybook.Project

open PassM Journal

variable {α β : Type} {ctx : PassContext}

/-! ## Side by side -/

/-- Whether a pass has started on the first `n` files of another one, which has started on more. -/
structure Cut (n : Nat) (p q : Pass) : Prop where
  visited : p.visited <:+ q.visited
  length : p.visited.length = n
  more : n < q.visited.length

theorem Cut.grow {n : Nat} {p q q' : Pass} (h : Cut n p q) (hgrows : q.visited <:+ q'.visited) :
    Cut n p q' :=
  ⟨h.visited.trans hgrows, h.length, Nat.lt_of_lt_of_le h.more hgrows.length_le⟩

/-- Passes that were cut at the same number of files have started on the same files. -/
theorem Cut.visited_eq {n : Nat} {p p' q : Pass} (h : Cut n p q) (h' : Cut n p' q) :
    p'.visited = p.visited :=
  (List.suffix_of_suffix_length_le h'.visited h.visited
    (Nat.le_of_eq (h'.length.trans h.length.symm))).eq_of_length (h'.length.trans h.length.symm)

/-- Whether the state `p` of a pass is `q`, apart from a limit on the number of files that may be
started on, which only `p` has, and from what is kept of files, as long as that comes to the same. -/
structure Echo (ctx : PassContext) (limit : Option Nat) (p q : Pass) : Prop where
  budget : p.budget = limit.map (· - q.visited.length)
  within : ∀ n ∈ limit, q.visited.length ≤ n
  unlimited : q.budget = none
  taken : taken ctx p.files = taken ctx q.files
  root : p.root = q.root
  visited : p.visited = q.visited
  snapshots : p.snapshots = q.snapshots
  times : p.times = q.times
  warnings : p.warnings = q.warnings

theorem Echo.refl {q : Pass} (h : q.budget = none) : Echo ctx none q q :=
  ⟨h, nofun, h, rfl, rfl, rfl, rfl, rfl, rfl⟩

/-- What is published does not depend on the limit, nor on what is kept of files. -/
theorem Echo.entryOf_eq {limit : Option Nat} {p q : Pass} (h : Echo ctx limit p q) :
    Cache.entryOf p = Cache.entryOf q := by
  rw [Cache.entryOf, Cache.entryOf, h.root, h.snapshots, h.times, h.warnings]

/-- What a step comes to from `p`, next to what it comes to from `q` without a limit: it is cancelled
before it has started on as many files, or both come to the same. -/
structure Repeated (ctx : PassContext) (limit : Option Nat) (q : Pass)
    (limited free : Except ProjectError α × Pass) : Prop where
  root : free.2.root = q.root
  grows : q.visited <:+ free.2.visited
  result : (∃ n ∈ limit, limited.1 = .error (.cancelled q.root n) ∧ Cut n limited.2 free.2) ∨
    limited.1 = free.1 ∧ Echo ctx limit limited.2 free.2

/-- Whether a step repeats itself from all states that are like a state. -/
def Repeats (ctx : PassContext) (m : PassM α) (q : Pass) : Prop :=
  ∀ limit p, Echo ctx limit p q → Repeated ctx limit q (outcome m p) (outcome m q)

section

variable {q q' : Pass}

/-- Where the step comes to the same at once. -/
theorem Repeated.of_echo {limit : Option Nat} {p' : Pass} {result : Except ProjectError α}
    (hroot : q'.root = q.root) (hgrows : q.visited <:+ q'.visited)
    (h : Echo ctx limit p' q') : Repeated ctx limit q (result, p') (result, q') :=
  ⟨hroot, hgrows, .inr ⟨rfl, h⟩⟩

theorem repeats_pure (a : α) (q : Pass) : Repeats ctx (pure a) q :=
  fun _ _ h => .of_echo rfl (List.suffix_refl _) h

theorem repeats_throw (e : ProjectError) (q : Pass) : Repeats ctx (throw e : PassM α) q :=
  fun _ _ h => .of_echo rfl (List.suffix_refl _) h

theorem repeats_warnAt (source : Path) (line : Nat) (message : String) (q : Pass) :
    Repeats ctx (warnAt source line message) q := by
  intro limit p h
  have hwarnings := congrArg (· ++ [Warning.mk line message source.text]) h.warnings
  exact .of_echo rfl (List.suffix_refl _) { h with warnings := hwarnings }

/-- A pass without a limit is still without one after a step, and what was started on grows. -/
theorem Repeats.free {m : PassM α} (h : Repeats ctx m q) (hq : q.budget = none) :
    (outcome m q).2.budget = none ∧ (outcome m q).2.root = q.root ∧
      q.visited <:+ (outcome m q).2.visited := by
  obtain ⟨hroot, hgrows, ⟨n, hn, -⟩ | ⟨-, hecho⟩⟩ := h none q (.refl hq)
  · cases hn
  · exact ⟨hecho.unlimited, hroot, hgrows⟩

theorem Repeats.bind {m : PassM α} {f : α → PassM β} (hm : Repeats ctx m q)
    (hf : ∀ a, (outcome m q).1 = .ok a → Repeats ctx (f a) (outcome m q).2) :
    Repeats ctx (m >>= f) q := by
  intro limit p h
  obtain ⟨hroot, hgrows, hresult⟩ := hm limit p h
  have hfree := (hm.free h.unlimited).1
  cases hrunq : outcome m q with
  | mk result q' =>
    cases hrunp : outcome m p with
    | mk resultp p' =>
      rw [hrunq] at hroot hgrows hf hfree
      rw [hrunq, hrunp] at hresult
      dsimp only at hroot hgrows hf hfree hresult
      rcases hresult with ⟨n, hn, rfl, hcut⟩ | ⟨rfl, hecho⟩
      · rw [outcome_bind_of_error hrunp]
        cases result with
        | error e =>
          rw [outcome_bind_of_error hrunq]
          exact ⟨hroot, hgrows, .inl ⟨n, hn, rfl, hcut⟩⟩
        | ok a =>
          rw [outcome_bind_of_ok hrunq]
          obtain ⟨-, hroot', hgrows'⟩ := (hf a rfl).free hfree
          exact ⟨hroot'.trans hroot, hgrows.trans hgrows', .inl ⟨n, hn, rfl, hcut.grow hgrows'⟩⟩
      · cases resultp with
        | error e =>
          rw [outcome_bind_of_error hrunp, outcome_bind_of_error hrunq]
          exact .of_echo hroot hgrows hecho
        | ok a =>
          rw [outcome_bind_of_ok hrunp, outcome_bind_of_ok hrunq]
          obtain ⟨hroot', hgrows', hresult⟩ := hf a rfl limit p' hecho
          rw [hroot] at hroot' hresult
          exact ⟨hroot', hgrows.trans hgrows', hresult⟩

/-- A handler that lets cancellation pass. -/
theorem Repeats.tryCatch {m : PassM α} {handle : ProjectError → PassM α} (hm : Repeats ctx m q)
    (hhandle : ∀ e q', Repeats ctx (handle e) q')
    (hcancelled : ∀ root n, handle (.cancelled root n) = throw (.cancelled root n)) :
    Repeats ctx (tryCatch m handle) q := by
  intro limit p h
  obtain ⟨hroot, hgrows, hresult⟩ := hm limit p h
  have hfree := (hm.free h.unlimited).1
  rw [outcome_tryCatch, outcome_tryCatch]
  cases hrunq : outcome m q with
  | mk result q' =>
    cases hrunp : outcome m p with
    | mk resultp p' =>
      rw [hrunq] at hroot hgrows hfree
      rw [hrunq, hrunp] at hresult
      dsimp only at hroot hgrows hfree hresult
      rcases hresult with ⟨n, hn, rfl, hcut⟩ | ⟨rfl, hecho⟩
      · simp only [hcancelled, outcome_throw]
        cases result with
        | ok a => exact ⟨hroot, hgrows, .inl ⟨n, hn, rfl, hcut⟩⟩
        | error e =>
          obtain ⟨-, hroot', hgrows'⟩ := (hhandle e q').free hfree
          exact ⟨hroot'.trans hroot, hgrows.trans hgrows', .inl ⟨n, hn, rfl, hcut.grow hgrows'⟩⟩
      · cases resultp with
        | ok a => exact .of_echo hroot hgrows hecho
        | error e =>
          obtain ⟨hroot', hgrows', hresult⟩ := hhandle e q' limit p' hecho
          rw [hroot] at hroot' hresult
          exact ⟨hroot', hgrows.trans hgrows', hresult⟩

theorem Repeats.forM {l : List α} {step : α → PassM Unit}
    (h : ∀ a ∈ l, ∀ q, Repeats ctx (step a) q) (q : Pass) : Repeats ctx (l.forM step) q := by
  induction l generalizing q with
  | nil => exact repeats_pure () q
  | cons a l ih =>
    rw [List.forall_mem_cons] at h
    exact (h.1 q).bind fun _ _ => ih h.2 _

end

/-! ## Visits -/

theorem outcome_checkCancelled_of_none {p : Pass} (h : p.budget = none) :
    outcome checkCancelled p = (.ok (), { p with budget := none }) := by
  obtain ⟨root, budget, files, reads, visited, snapshots, times, warnings⟩ := p
  cases h
  rfl

theorem outcome_checkCancelled_of_zero {p : Pass} (h : p.budget = some 0) :
    outcome checkCancelled p = (.error (.cancelled p.root p.visited.length), p) := by
  obtain ⟨root, budget, files, reads, visited, snapshots, times, warnings⟩ := p
  cases h
  rfl

theorem outcome_checkCancelled_of_succ {p : Pass} {n : Nat} (h : p.budget = some (n + 1)) :
    outcome checkCancelled p = (.ok (), { p with budget := some n }) := by
  obtain ⟨root, budget, files, reads, visited, snapshots, times, warnings⟩ := p
  cases h
  rfl

/-- Asking for cancellation, next to a pass that is never cancelled: it is cancelled when it started
on as many files as it may, and otherwise one more can be started on. -/
theorem Echo.checkCancelled {limit : Option Nat} {p q : Pass} (h : Echo ctx limit p q) :
    (∃ n ∈ limit, n = q.visited.length ∧
      outcome checkCancelled p = (.error (.cancelled q.root n), p)) ∨
    (∀ n ∈ limit, q.visited.length + 1 ≤ n) ∧
      outcome checkCancelled p =
        (.ok (), { p with budget := limit.map (· - (q.visited.length + 1)) }) := by
  have hbudget := h.budget
  cases limit with
  | none => exact .inr ⟨nofun, outcome_checkCancelled_of_none hbudget⟩
  | some n =>
    have hn := h.within n rfl
    rw [Option.map_some] at hbudget
    rcases Nat.eq_or_lt_of_le hn with heq | hlt
    · rw [heq, Nat.sub_self] at hbudget
      refine .inl ⟨n, rfl, heq.symm, ?_⟩
      rw [outcome_checkCancelled_of_zero hbudget, h.root, h.visited, heq]
    · refine .inr ⟨fun m hm => Option.mem_some_iff.mp hm ▸ hlt, ?_⟩
      rw [show n - q.visited.length = n - (q.visited.length + 1) + 1 by omega] at hbudget
      exact outcome_checkCancelled_of_succ hbudget

/-- Starting on a new file. -/
theorem repeats_enter {path : Path} {q : Pass} (hnew : path ∉ q.visited) :
    Repeats ctx (enter ctx path) q := by
  intro limit p h
  have hinsert : q.visited.insert path = path :: q.visited := List.insert_of_not_mem hnew
  obtain ⟨filesq, readsq, hfilesq, -, hrunq⟩ :=
    @outcome_enter ctx path _ _ (outcome_checkCancelled_of_none h.unlimited)
  have hrootq : (outcome (enter ctx path) q).2.root = q.root := by
    rw [hrunq]
    split <;> rfl
  have hvisitedq : (outcome (enter ctx path) q).2.visited = path :: q.visited := by
    rw [hrunq, ← hinsert]
    split <;> rfl
  have hgrows : q.visited <:+ (outcome (enter ctx path) q).2.visited :=
    hvisitedq ▸ List.suffix_cons path q.visited
  refine ⟨hrootq, hgrows, ?_⟩
  have hlength : (q.visited.insert path).length = q.visited.length + 1 := by
    rw [hinsert, List.length_cons]
  rcases h.checkCancelled with ⟨n, hn, hlast, hrunp⟩ | ⟨hwithin, hcheck⟩
  · have hmore : n < (outcome (enter ctx path) q).2.visited.length := by
      rw [hvisitedq, List.length_cons, hlast]
      exact Nat.lt_succ_self _
    have hrun : outcome (enter ctx path) p = (.error (.cancelled q.root n), p) := by
      rw [enter, outcome_bind_of_error hrunp]
    rw [hrun]
    exact .inl ⟨n, hn, rfl, h.visited ▸ hgrows, (congrArg List.length h.visited).trans hlast.symm,
      hmore⟩
  · obtain ⟨filesp, readsp, hfilesp, -, hrunp⟩ := @outcome_enter ctx path _ _ hcheck
    have htaken : taken ctx filesp = taken ctx filesq :=
      hfilesp.same.trans (h.taken.trans hfilesq.same.symm)
    have hvisited := congrArg (List.insert path) h.visited
    rw [h.taken] at hrunp
    rw [hrunp, hrunq]
    refine .inr ?_
    cases taken ctx q.files path with
    | error e =>
      exact ⟨rfl, { h with
        budget := by rw [hlength]
        within := fun n hn => by rw [hlength]; exact hwithin n hn
        unlimited := rfl
        taken := htaken
        visited := hvisited }⟩
    | ok r =>
      exact ⟨rfl, { h with
        budget := by rw [hlength]
        within := fun n hn => by rw [hlength]; exact hwithin n hn
        unlimited := rfl
        taken := htaken
        visited := hvisited
        snapshots := congrArg (· ++ [r.data]) h.snapshots
        times := congrArg (Table.insert · path r.modified) h.times }⟩

theorem repeats_followTarget {visitFile : Path → PassM Unit} {target : Path}
    (hvisit : ∀ q : Pass, target ∉ q.visited → Repeats ctx (visitFile target) q)
    (chain : List Path) (path : Path) (line : Nat) (q : Pass) :
    Repeats ctx (followTarget visitFile chain path line target) q := by
  rw [followTarget]
  split
  · exact repeats_warnAt path line _ q
  · intro limit p h
    rw [outcome_bind_of_ok (outcome_get p), outcome_bind_of_ok (outcome_get q), h.visited]
    by_cases hseen : q.visited.contains target
    · rw [if_pos hseen]
      exact repeats_pure () q limit p h
    · rw [if_neg hseen]
      refine (hvisit q (mt List.contains_iff_mem.mpr hseen)).tryCatch (fun e q' => ?_) ?_ limit p h
      · split
        · exact repeats_warnAt path line _ q'
        · exact repeats_throw e q'
      · exact fun _ _ => rfl

theorem repeats_followInclude {visitFile : Path → PassM Unit}
    (hvisit : ∀ target (q : Pass), target ∉ q.visited → Repeats ctx (visitFile target) q)
    (chain : List Path) (path : Path) (t : IncludeTarget) (q : Pass) :
    Repeats ctx (followInclude ctx visitFile chain path t) q := by
  intro limit p h
  cases hresolve : (siteOf ctx path).resolve ctx.view.disk t.pattern with
  | error e =>
    rw [outcome_followInclude_of_error visitFile chain p hresolve,
      outcome_followInclude_of_error visitFile chain q hresolve]
    exact .of_echo rfl (List.suffix_refl _) h
  | ok targets =>
    obtain ⟨place, hwatch⟩ := exists_watch_of_resolve hresolve
    rw [outcome_followInclude visitFile chain p hresolve hwatch,
      outcome_followInclude visitFile chain q hresolve hwatch]
    have hwatched : Echo ctx limit
        { p with times := p.times.insertNew place (ctx.view.disk.modified place) }
        { q with times := q.times.insertNew place (ctx.view.disk.modified place) } :=
      { h with times := congrArg (Table.insertNew · place _) h.times }
    have hfollow (q' : Pass) : Repeats ctx (if targets.isEmpty then
          warnAt path t.line ("included file not found: " ++ t.pattern)
        else targets.forM (followTarget visitFile chain path t.line)) q' := by
      split
      · exact repeats_warnAt path t.line _ q'
      · exact Repeats.forM (fun target _ => repeats_followTarget (hvisit target) chain path t.line) q'
    obtain ⟨hroot, hgrows, hresult⟩ := hfollow _ limit _ hwatched
    exact ⟨hroot, hgrows, hresult⟩

/-- **Visits of new files repeat themselves.** -/
theorem repeats_visit (ctx : PassContext) (depth : Nat) (chain : List Path) {path : Path} {q : Pass}
    (hnew : path ∉ q.visited) : Repeats ctx (visit ctx depth chain path) q := by
  induction depth generalizing chain path q with
  | zero =>
    rw [visit]
    refine (repeats_enter hnew).bind fun r _ => ?_
    cases r.includes with
    | nil => exact repeats_pure () _
    | cons first rest => exact repeats_warnAt path first.line _ _
  | succ depth ih =>
    rw [visit]
    exact (repeats_enter hnew).bind fun r _ => Repeats.forM
      (fun t _ => repeats_followInclude (fun target q h => ih (path :: chain) h) _ path t) _

theorem repeats_visitAll (ctx : PassContext) (tops : List Path) (q : Pass) :
    Repeats ctx (Cache.visitAll ctx tops) q := by
  refine Repeats.forM (fun top _ q => ?_) q
  intro limit p h
  rw [outcome_bind_of_ok (outcome_get p), outcome_bind_of_ok (outcome_get q), h.visited]
  by_cases hseen : q.visited.contains top
  · rw [hseen]
    exact repeats_pure () q limit p h
  · have hnew : (!q.visited.contains top) = true := by simpa using hseen
    rw [if_pos hnew]
    exact repeats_visit ctx _ [] (mt List.contains_iff_mem.mpr hseen) limit p h

/-! ## Other days -/

/-- What is seen on another day. -/
def View.on (view : View) (day : Calendar.Date) : View :=
  { view with today := day }

/-- What governs a pass on another day. -/
def PassContext.on (ctx : PassContext) (day : Calendar.Date) : PassContext :=
  { ctx with view := ctx.view.on day }

/-- On another day of the year a file amounts to the same. -/
theorem loaded_on_of_year (ctx : PassContext) {day : Calendar.Date}
    (h : day.year = ctx.view.today.year) (path : Path) :
    loaded (ctx.on day) path = loaded ctx path := by
  have hsettings : (ctx.on day).settings = ctx.settings := rfl
  have hparsed (buffered : Bool) (text : String) :
      parsed (ctx.on day) path buffered text = parsed ctx path buffered text := by
    rw [parsed, parsed, parseText_congr_year hsettings h]
    rfl
  unfold loaded
  simp only [hparsed]
  rfl

/-- What is kept of a file and still holds is a matter of the disk and the buffers. -/
theorem kept?_on (ctx : PassContext) (day : Calendar.Date) : kept? (ctx.on day) = kept? ctx :=
  rfl

/-- Whether of two tables of kept files, which may differ otherwise, the second one keeps of each file
what the first one does, or what the file amounts to on all of some days. -/
def AlikeOn (ctx : PassContext) (days : List Calendar.Date)
    (files files' : Table Path FileResult) : Prop :=
  ∀ path, kept? ctx files' path = kept? ctx files path ∨
    kept? ctx files path = none ∧
      ∃ r, kept? ctx files' path = some r ∧ ∀ day ∈ days, loaded (ctx.on day) path = .ok r

section

variable {days : List Calendar.Date} {files files' : Table Path FileResult}

theorem AlikeOn.refl (ctx : PassContext) (days : List Calendar.Date)
    (files : Table Path FileResult) : AlikeOn ctx days files files :=
  fun _ => .inl rfl

/-- On one of the days, files are taken to be the same. -/
theorem AlikeOn.taken_eq (h : AlikeOn ctx days files files') {day : Calendar.Date}
    (hday : day ∈ days) : taken (ctx.on day) files' = taken (ctx.on day) files := by
  funext path
  rw [taken, taken, kept?_on]
  rcases h path with hsame | ⟨hnone, r, hsome, hloaded⟩
  · rw [hsame]
  · rw [hnone, hsome, hloaded day hday]

/-- Reading the same files anew on one of the days. -/
theorem AlikeOn.refreshed (h : AlikeOn ctx days files files') {day : Calendar.Date}
    (hday : day ∈ days) {paths : List Path} {after after' : Table Path FileResult}
    (hafter : Refreshed (ctx.on day) paths files after)
    (hafter' : Refreshed (ctx.on day) paths files' after') : AlikeOn ctx days after after' := by
  intro path
  have hholds := hafter.holds path
  have hholds' := hafter'.holds path
  rw [kept?_on] at hholds hholds'
  rw [hholds, hholds']
  rcases h path with hsame | ⟨hnone, r, hsome, hloaded⟩
  · exact .inl (by rw [hsame])
  · rw [hnone, hsome, Option.some_or, Option.none_or]
    by_cases hpath : path ∈ paths
    · rw [if_pos hpath, hloaded day hday]
      exact .inl rfl
    · rw [if_neg hpath]
      exact .inr ⟨rfl, r, rfl, hloaded⟩

/-- What was read anew is alike on days on which it is the same. -/
theorem AlikeOn.of_refreshed {paths : List Path} (h : Refreshed ctx paths files files')
    (hdays : ∀ path, files'.get? path ≠ files.get? path →
      ∀ day ∈ days, loaded (ctx.on day) path = loaded ctx path) : AlikeOn ctx days files files' := by
  intro path
  rw [h.holds path]
  cases hkept : kept? ctx files path with
  | some r => exact .inl rfl
  | none =>
    rw [Option.none_or]
    by_cases hpath : path ∈ paths
    · rw [if_pos hpath]
      cases hr : loaded ctx path with
      | error e => exact .inl rfl
      | ok r =>
        have hholds : kept? ctx files' path = some r := by
          rw [h.holds path, hkept, if_pos hpath, hr]
          rfl
        have hchanged : files'.get? path ≠ files.get? path := by
          intro hsame
          rw [kept?, hsame, ← kept?, hkept] at hholds
          cases hholds
        exact .inr ⟨rfl, r, rfl, fun day hday => (hdays path hchanged day hday).trans hr⟩
    · rw [if_neg hpath]
      exact .inl rfl

end

/-! ## Caches -/

/-- Whether two caches differ at most in what is kept of files, and will not be told apart by that on
some days. -/
def Cache.Alike (view : View) (days : List Calendar.Date) (c c' : Cache) : Prop :=
  ∃ files, c' = { c with files } ∧ AlikeOn (c.context view) days c.files files

/-- The files that a pass starts on if it is not cancelled. -/
def Opening.started (o : Opening) (c : Cache) (view : View) : List Path :=
  (outcome (Cache.visitAll (c.context view) o.tops) (o.pass c none)).2.visited

namespace Cache

variable {view : View} {days : List Calendar.Date} {c c' : Cache}

theorem Alike.refl (c : Cache) : Alike view days c c :=
  ⟨c.files, rfl, .refl _ _ _⟩

/-- What is opened does not depend on what is kept of files. -/
theorem opened_of_files (c : Cache) (view : View) (files : Table Path FileResult) (q : Request) :
    q.opened { c with files } view = q.opened c view := by
  cases q <;> rfl

theorem context_of_files (c : Cache) (view : View) (files : Table Path FileResult) :
    { c with files }.context view = c.context view :=
  rfl

/-- The start of a pass, next to one without a limit. -/
theorem echo_pass (o : Opening) (budget : Option Nat) {files : Table Path FileResult}
    (h : taken (c.context view) files = taken (c.context view) c.files) :
    Echo (c.context view) budget (o.pass { c with files } budget) (o.pass c none) where
  budget := by cases budget <;> rfl
  within n _ := Nat.zero_le n
  unlimited := rfl
  taken := h
  root := rfl
  visited := rfl
  snapshots := rfl
  times := rfl
  warnings := rfl

/-- A pass reads anew what it starts on, where necessary. -/
theorem refreshed_of_pass (c : Cache) (o : Opening) (budget : Option Nat)
    {result : Except ProjectError Unit} {p : Pass}
    (hrun : outcome (visitAll (c.context view) o.tops) (o.pass c budget) = (result, p)) :
    Refreshed (c.context view) p.visited c.files p.files := by
  have htracks := (o.explored c view budget).tracks
  rw [hrun] at htracks
  exact htracks.refreshed

/-- A failed pass leaves a cache that is like the one before, on days on which the files are the same
that were read anew. -/
theorem alike_of_error {budget : Option Nat} {q : Request} {e : ProjectError}
    (h : (q.ask c view budget).result = .error e)
    (hdays : ∀ path, (q.ask c view budget).cache.files.get? path ≠ c.files.get? path →
      ∀ day ∈ days, loaded ((c.context view).on day) path = loaded (c.context view) path) :
    Alike view days c (q.ask c view budget).cache := by
  cases hopened : q.opened c view with
  | error _ =>
    rw [q.ask_eq, hopened]
    exact .refl c
  | ok found =>
    cases found with
    | inl entry =>
      rw [q.ask_eq, hopened]
      exact .refl c
    | inr o =>
      rw [Request.ask_of_opened hopened] at h hdays ⊢
      cases hrun : outcome (visitAll (c.context view) o.tops) (o.pass c budget) with
      | mk result p =>
        cases result with
        | error e =>
          rw [runPass_of_error c hrun] at hdays ⊢
          exact ⟨p.files, rfl, .of_refreshed (refreshed_of_pass c o budget hrun) hdays⟩
        | ok _ =>
          rw [runPass_of_ok c hrun] at h
          cases h

/-- Two passes with the same limit start on the same files and come to the same if files are taken to be
the same. -/
theorem outcome_pass_congr {o : Opening} {files : Table Path FileResult} (budget : Option Nat)
    (h : taken (c.context view) files = taken (c.context view) c.files)
    {result result' : Except ProjectError Unit} {p p' : Pass}
    (hrun : outcome (visitAll (c.context view) o.tops) (o.pass c budget) = (result, p))
    (hrun' : outcome (visitAll (c.context view) o.tops) (o.pass { c with files } budget) =
      (result', p')) :
    result' = result ∧ p'.visited = p.visited ∧
      (result = .ok () → p'.root = p.root ∧ entryOf p' = entryOf p) := by
  have hfirst := (repeats_visitAll (c.context view) o.tops (o.pass c none) budget _
    (echo_pass o budget rfl)).result
  have hsecond := (repeats_visitAll (c.context view) o.tops (o.pass c none) budget _
    (echo_pass o budget h)).result
  rw [hrun] at hfirst
  rw [hrun'] at hsecond
  rcases hfirst with ⟨n, hn, he, hcut⟩ | ⟨hsame, hecho⟩ <;>
    rcases hsecond with ⟨n', hn', he', hcut'⟩ | ⟨hsame', hecho'⟩
  · cases Option.mem_unique hn hn'
    refine ⟨he'.trans he.symm, hcut.visited_eq hcut', fun hok => ?_⟩
    cases hok.symm.trans he
  · exact absurd (hecho'.within n hn) (Nat.not_le_of_lt hcut.more)
  · exact absurd (hecho.within n' hn') (Nat.not_le_of_lt hcut'.more)
  · exact ⟨hsame'.trans hsame.symm, hecho'.visited.trans hecho.visited.symm, fun _ =>
      ⟨hecho'.root.trans hecho.root.symm, hecho'.entryOf_eq.trans hecho.entryOf_eq.symm⟩⟩

/-- **Caches that are alike answer alike** on one of the days, and stay alike. -/
theorem Alike.ask (h : Alike view days c c') {day : Calendar.Date} (hday : day ∈ days)
    (budget : Option Nat) (q : Request) :
    (q.ask c' (view.on day) budget).result = (q.ask c (view.on day) budget).result ∧
      Alike view days (q.ask c (view.on day) budget).cache
        (q.ask c' (view.on day) budget).cache := by
  obtain ⟨files, rfl, halike⟩ := h
  have htaken : taken (c.context (view.on day)) files = taken (c.context (view.on day)) c.files :=
    halike.taken_eq hday
  rw [q.ask_eq, q.ask_eq, opened_of_files, context_of_files]
  cases hopened : q.opened c (view.on day) with
  | error e => exact ⟨rfl, files, rfl, halike⟩
  | ok found =>
    cases found with
    | inl entry => exact ⟨rfl, files, rfl, halike⟩
    | inr o =>
      dsimp only
      cases hrun : outcome (visitAll (c.context (view.on day)) o.tops) (o.pass c budget) with
      | mk result p =>
        cases hrun' : outcome (visitAll (c.context (view.on day)) o.tops)
            (o.pass { c with files } budget) with
        | mk result' p' =>
          obtain ⟨rfl, hvisited, hok⟩ := outcome_pass_congr budget htaken hrun hrun'
          have hfiles := refreshed_of_pass c o budget hrun
          have hfiles' : Refreshed (c.context (view.on day)) p'.visited files p'.files :=
            refreshed_of_pass { c with files } o budget hrun'
          rw [hvisited] at hfiles'
          have hafter : AlikeOn (c.context view) days p.files p'.files :=
            halike.refreshed hday hfiles hfiles'
          cases result' with
          | error e =>
            rw [runPass_of_error c hrun, runPass_of_error { c with files } hrun']
            exact ⟨rfl, p'.files, rfl, hafter⟩
          | ok _ =>
            obtain ⟨hroot, hentry⟩ := hok rfl
            rw [runPass_of_ok c hrun, runPass_of_ok { c with files } hrun', hroot, hentry]
            exact ⟨rfl, p'.files, rfl, hafter⟩

end Cache

namespace Request

/-- What requests come to, one after another, each on its day. -/
def askAll (view : View) (c : Cache) :
    List (Calendar.Date × Option Nat × Request) → List (Except ProjectError (Entry × Bool))
  | [] => []
  | (day, budget, q) :: later =>
    let answer := q.ask c (view.on day) budget
    answer.result :: askAll view answer.cache later

variable {view : View} {c c' : Cache}

theorem askAll_of_alike {days : List Calendar.Date} (h : c.Alike view days c')
    {later : List (Calendar.Date × Option Nat × Request)} (hlater : ∀ l ∈ later, l.1 ∈ days) :
    askAll view c' later = askAll view c later := by
  induction later generalizing c c' with
  | nil => rfl
  | cons first later ih =>
    rw [List.forall_mem_cons] at hlater
    obtain ⟨hresult, halike⟩ := h.ask hlater.1 first.2.1 first.2.2
    rw [askAll, askAll, hresult, ih halike hlater.2]

/-- **When a pass is cancelled**: if and only if it would start on more files than it may.  Otherwise
it comes to what it comes to without a limit. -/
theorem result_ask_of_limit {q : Request} {o : Opening} (hopened : q.opened c view = .ok (.inr o))
    (limit : Nat) :
    (q.ask c view (some limit)).result =
      if limit < (o.started c view).length then .error (.cancelled o.place limit)
      else (q.ask c view none).result := by
  have hrepeated := (repeats_visitAll (c.context view) o.tops (o.pass c none) (some limit) _
    (Cache.echo_pass o (some limit) rfl)).result
  rw [ask_of_opened hopened, ask_of_opened hopened, Opening.started]
  cases hfree : outcome (Cache.visitAll (c.context view) o.tops) (o.pass c none) with
  | mk result p =>
    cases hlimited : outcome (Cache.visitAll (c.context view) o.tops) (o.pass c (some limit)) with
    | mk result' p' =>
      rw [hlimited, hfree] at hrepeated
      rcases hrepeated with ⟨n, hn, he, hcut⟩ | ⟨hsame, hecho⟩
      · cases hn
        dsimp only at he
        rw [he] at hlimited
        rw [if_pos hcut.more, Cache.runPass_of_error c hlimited]
        rfl
      · dsimp only at hsame
        rw [hsame] at hlimited
        rw [if_neg (Nat.not_lt_of_le (hecho.within limit rfl))]
        cases result with
        | error e => rw [Cache.runPass_of_error c hlimited, Cache.runPass_of_error c hfree]
        | ok _ => rw [Cache.runPass_of_ok c hlimited, Cache.runPass_of_ok c hfree, hecho.entryOf_eq]

/-- **A failed request leaves no trace**: all entries and unsaved buffers stay, so every place has
the entry that it had, and later requests come to what they would have come to, as long as disk and buffers
stay the same, and on days on which the files amount to the same that the failed request read anew, such as
those of the same year.  A request with a limit on the files of its pass is cancelled if and only if
the pass would start on more files, wherever this happens.  A top-level file that is not found from those
before it, and of which nothing is kept that still holds, makes the request fail if it cannot be read. -/
theorem failure_leaves_no_trace (c : Cache) (view : View) (budget : Option Nat) (q : Request) :
    (∀ e, (q.ask c view budget).result = .error e →
      (q.ask c view budget).cache.entries = c.entries ∧
      (q.ask c view budget).cache.buffers = c.buffers ∧
      (∀ place, (q.ask c view budget).cache.peekAt place = c.peekAt place) ∧
      ∀ later, (∀ path, (q.ask c view budget).cache.files.get? path ≠ c.files.get? path →
          ∀ l ∈ later, loaded ((c.context view).on l.1) path = loaded (c.context view) path) →
        askAll view (q.ask c view budget).cache later = askAll view c later) ∧
    ∀ o, q.opened c view = .ok (.inr o) →
      (∀ limit, (q.ask c view (some limit)).result =
        if limit < (o.started c view).length then .error (.cancelled o.place limit)
        else (q.ask c view none).result) ∧
      ∀ before top after e, o.tops = before ++ top :: after →
        top ∉ exploreEach (next (c.context view) c.files) c.settings.maxIncludeDepth [] before →
          taken (c.context view) c.files top = .error e →
            ∃ e', (q.ask c view budget).result = .error e' := by
  refine ⟨fun e he => ?_, fun o hopened => ⟨result_ask_of_limit hopened, ?_⟩⟩
  · have hnone : ∀ path, (q.ask c view budget).cache.files.get? path ≠ c.files.get? path →
        ∀ day ∈ [], loaded ((c.context view).on day) path = loaded (c.context view) path :=
      fun _ _ _ h => nomatch h
    obtain ⟨files, hfiles, -⟩ := Cache.alike_of_error he hnone
    refine ⟨by rw [hfiles], by rw [hfiles], fun place => by rw [hfiles]; rfl, fun later hlater => ?_⟩
    have hdays : ∀ path, (q.ask c view budget).cache.files.get? path ≠ c.files.get? path →
        ∀ day ∈ later.map (·.1),
          loaded ((c.context view).on day) path = loaded (c.context view) path := by
      intro path hpath day hday
      obtain ⟨l, hl, rfl⟩ := List.mem_map.mp hday
      exact hlater path hpath l hl
    exact askAll_of_alike (Cache.alike_of_error he hdays) fun l hl => List.mem_map_of_mem hl
  · intro before top after e htops hnew he
    have htracks : Tracks (c.context view) c.files (o.pass c budget) :=
      ⟨.refl c.files, List.nodup_nil, rfl, List.Sublist.refl []⟩
    have hfails : ∃ e', (outcome (Cache.visitAll (c.context view) (before ++ top :: after))
        (o.pass c budget)).1 = .error e' := htracks.visitAll_fails hnew he
    obtain ⟨e', he'⟩ := hfails
    rw [← htops] at he'
    rw [ask_of_opened hopened]
    cases hrun : outcome (Cache.visitAll (c.context view) o.tops) (o.pass c budget) with
    | mk result p =>
      rw [hrun] at he'
      cases he'
      exact ⟨e', by rw [Cache.runPass_of_error c hrun]⟩

/-- A request for a journal. -/
def askedJournal : Request := .journal ⟨.root, ["r"]⟩

/-- A cache that has the entry of the journal, which includes another one. -/
def beforeChange : Cache :=
  (askedJournal.ask (.start .standard)
    (.ofFiles 1000 [("r", "include a\n".toUTF8), ("a", "payee P\n".toUTF8)]) none).cache

/-- The two journals after a change. -/
def afterChange : View :=
  .ofFiles 1001 [("r", "include a\n".toUTF8), ("a", "payee Q\n".toUTF8)]

/-- The journal after a change by which it cannot be decoded. -/
def afterDamage : View :=
  .ofFiles 1001 [("r", ⟨#[255]⟩)]

/-- Asking for the journal again fails when it is cancelled after one of its two files, or when it
was damaged.  The entry from before stays, and other requests of the year do not notice. -/
theorem failure_leaves_no_trace_after_change :
    (askedJournal.ask beforeChange afterChange (some 1)).result = .error (.cancelled ⟨["r"]⟩ 1) ∧
    ((askedJournal.ask beforeChange afterChange (some 1)).cache.peekAt ⟨["r"]⟩).map
      (·.data.payees) = some ["P"] ∧
    (∀ later, (∀ l ∈ later, l.1.year = 2024) →
      askAll afterChange (askedJournal.ask beforeChange afterChange (some 1)).cache later =
        askAll afterChange beforeChange later) ∧
    (askAll afterChange beforeChange [(⟨2024, 12, 31, by decide⟩, none, askedJournal)]).map
      (·.map (·.1.data.payees)) = [.ok ["Q"]] ∧
    ∃ e, (askedJournal.ask beforeChange afterDamage none).result = .error e ∧
      (askedJournal.ask beforeChange afterDamage none).cache.entries = beforeChange.entries := by
  have hfacts : beforeChange.placeOf afterChange ⟨.root, ["r"]⟩ = .ok ⟨["r"]⟩ ∧
      beforeChange.placeOf afterDamage ⟨.root, ["r"]⟩ = .ok ⟨["r"]⟩ ∧
      (beforeChange.current? afterChange ⟨["r"]⟩).isNone ∧
      (beforeChange.current? afterDamage ⟨["r"]⟩).isNone ∧
      (beforeChange.peekAt ⟨["r"]⟩).map (·.data.payees) = some ["P"] ∧
      1 < ((Opening.journal ⟨["r"]⟩).started beforeChange afterChange).length ∧
      (taken (beforeChange.context afterDamage) beforeChange.files ⟨["r"]⟩).map (·.modified) =
        .error (.unreadable ⟨["r"]⟩ (.notText ⟨0, 255, 1, .start⟩)) := by
    decide +kernel
  obtain ⟨hplace, hplace', hchange, hdamage, hpeek, hstarted, htaken⟩ := hfacts
  have hopened := opened_journal hplace hchange
  have hopened' := opened_journal hplace' hdamage
  obtain ⟨e, he⟩ : ∃ e, taken (beforeChange.context afterDamage) beforeChange.files ⟨["r"]⟩ =
      .error e := by
    cases hr : taken (beforeChange.context afterDamage) beforeChange.files ⟨["r"]⟩ with
    | error e => exact ⟨e, rfl⟩
    | ok r =>
      rw [hr] at htaken
      cases htaken
  have hcancelled : (askedJournal.ask beforeChange afterChange (some 1)).result =
      .error (.cancelled ⟨["r"]⟩ 1) := by
    have hlimit := ((failure_leaves_no_trace beforeChange afterChange none askedJournal).2 _
      hopened).1 1
    rwa [if_pos hstarted] at hlimit
  obtain ⟨-, -, hkept, hlater⟩ :=
    (failure_leaves_no_trace beforeChange afterChange (some 1) askedJournal).1 _ hcancelled
  refine ⟨hcancelled, by rw [hkept]; exact hpeek, fun later hyear => ?_, by decide +kernel, ?_⟩
  · exact hlater later fun path _ l hl => loaded_on_of_year _ (hyear l hl) path
  · have hdamaged := failure_leaves_no_trace beforeChange afterDamage none askedJournal
    obtain ⟨e', he'⟩ := (hdamaged.2 _ hopened').2 [] ⟨["r"]⟩ [] e rfl List.not_mem_nil he
    exact ⟨e', he', (hdamaged.1 e' he').1⟩

/-- A journal that leaves the year to the day on which it is read, and includes another one. -/
def yearlessView : View :=
  .ofFiles 1000 [("r", "12-31 x\n p\n\ninclude a\n".toUTF8), ("a", .empty)]

/-- A request for all journals of a disk. -/
def askedRoot : Request := .directory ⟨.root, []⟩

/-- Two journals, of which the second one is no text and is included by the first one. -/
def damagedInclude : View :=
  .ofFiles 1000 [("a.journal", "include b.journal\n".toUTF8), ("b.journal", ⟨#[255]⟩)]

/-- A cache that has the entry of a journal. -/
def beforeDamage : Cache :=
  (Request.ask (.start .standard) (.ofFiles 1000 [("r.journal", "payee P\n".toUTF8)]) none
    (.journal ⟨.root, ["r.journal"]⟩)).cache

/-- The journal when it is no text any more, with the same time. -/
def damagedInPlace : View :=
  .ofFiles 1000 [("r.journal", ⟨#[255]⟩)]

/-- The journals of the directory, in order. -/
theorem scanAt_damagedInclude :
    (Cache.start .standard).scanAt damagedInclude.disk .root =
      [⟨["a.journal"]⟩, ⟨["b.journal"]⟩] := by
  have hdirectories : Cache.searchedDirectories .standard damagedInclude.disk .root = [.root] := by
    decide +kernel
  have hnames : ((damagedInclude.disk.children .root).filterMap fun e =>
      if e.2.isFile && Cache.isJournal .standard e.1 then some e.1 else none) =
        ["a.journal", "b.journal"] := by
    decide +kernel
  have hsorted : (["a.journal", "b.journal"].mergeSort fun a b => decide (a ≤ b)) =
      ["a.journal", "b.journal"] := List.mergeSort_of_pairwise (by decide)
  show (Cache.searchedDirectories .standard damagedInclude.disk .root).flatMap
    (Cache.journalsIn .standard damagedInclude.disk) = _
  rw [hdirectories, List.flatMap_singleton, Cache.journalsIn, hnames, hsorted]
  rfl

/-- The damaged journal is left out with a warning. -/
theorem ask_damagedInclude :
    (askedRoot.ask (.start .standard) damagedInclude none).result.map (·.1.warnings.length) =
      .ok 1 := by
  have hopened : askedRoot.opened (.start .standard) damagedInclude =
      .ok (.inr (.directory (.start .standard) damagedInclude .root)) := rfl
  rw [ask_of_opened hopened, show (Opening.directory (.start .standard) damagedInclude .root).tops =
    _ from scanAt_damagedInclude]
  decide +kernel

/-- **The year of a failed request can show later, and a damaged top-level file need not make a request
fail.**  A date without a year keeps the year in which a request that was cancelled has read it.  A
top-level file that cannot be read is only a warning if another one includes it first, and it is not even
looked at if its time is still that of what is kept of it. -/
theorem failure_shows_in_next_year :
    ((askedJournal.ask (.start .standard) yearlessView (some 1)).result.map (·.2) =
        .error (.cancelled ⟨["r"]⟩ 1) ∧
      (askAll yearlessView (askedJournal.ask (.start .standard) yearlessView (some 1)).cache
        [(⟨2025, 1, 1, by decide⟩, none, askedJournal)]).map (·.map (·.1.data.lastDate)) =
          [.ok (some ⟨2024, 12, 31, by decide⟩)] ∧
      (askAll yearlessView (.start .standard)
        [(⟨2025, 1, 1, by decide⟩, none, askedJournal)]).map (·.map (·.1.data.lastDate)) =
          [.ok (some ⟨2025, 12, 31, by decide⟩)]) ∧
    ((Cache.start .standard).scanAt damagedInclude.disk .root = [⟨["a.journal"]⟩, ⟨["b.journal"]⟩] ∧
      damagedInclude.disk.readText ⟨["b.journal"]⟩ = .error (.notText ⟨0, 255, 1, .start⟩) ∧
      (askedRoot.ask (.start .standard) damagedInclude none).result.map (·.1.warnings.length) =
        .ok 1) ∧
    (beforeDamage.scanAt damagedInPlace.disk .root = [⟨["r.journal"]⟩] ∧
      damagedInPlace.disk.readText ⟨["r.journal"]⟩ = .error (.notText ⟨0, 255, 1, .start⟩) ∧
      (askedRoot.ask beforeDamage damagedInPlace none).result.map (·.1.data.payees) =
        .ok ["P"]) := by
  refine ⟨⟨?_, ?_, ?_⟩, ⟨scanAt_damagedInclude, ?_, ask_damagedInclude⟩, ?_, ?_, ?_⟩
  · decide +kernel
  · decide +kernel
  · decide +kernel
  · decide +kernel
  · decide +kernel
  · decide +kernel
  · decide +kernel

end Request

end Daybook.Project
