import Daybook.Proofs.Project.Request

/-!
# A pass as a search

The files that a pass starts on are those of a depth-first search.  The search knows nothing of
snapshots, times, warnings and kept files: from a file it goes to the files that the include
directives of that file stand for, one after another, and it never goes to a file twice.  Cycles and
repeated targets need no rule of their own there, since the files by whose includes a file was
reached are among those that were found before.

A directive that cannot be resolved at all ends its file: what stands behind it is not followed.  If
the file was included by another one and the failure is that of a single file, the search goes on
behind the file; otherwise the pass ends.

* `explore`, `exploreEach`: the search from one file and from several, the last file first.
* `Found`: how files are found; `found_exploreEach`: the search finds them so.
* `leads`, `next`: the files that a file leads to.
* `Tracks`: what holds of a pass at any time; `Blocks`: why a file can end a pass.
* `searches_visit`, `explored_visitAll`: visits are searches, unless they are cancelled or blocked.
* `Opening.files`, `Opening.parts`: the files of the pass that a request opens, and what they amount
  to.
-/

namespace Daybook.Project

open PassM Journal

/-! ## Depth-first search -/

section

variable (next : Path → List Path)

/-- The files that are found from a file by going down at most so many levels, the last one first.
Files that were found before stand behind them and are not gone to again. -/
def explore : Nat → List Path → Path → List Path
  | 0, seen, path => path :: seen
  | depth + 1, seen, path =>
    (next path).foldl (fun seen file => if file ∈ seen then seen else explore depth seen file)
      (path :: seen)

/-- The files that are found from several files, one after another. -/
def exploreEach (depth : Nat) (seen files : List Path) : List Path :=
  files.foldl (fun seen file => if file ∈ seen then seen else explore next depth seen file) seen

variable {next}

theorem explore_zero (seen : List Path) (path : Path) :
    explore next 0 seen path = path :: seen :=
  rfl

theorem explore_succ (depth : Nat) (seen : List Path) (path : Path) :
    explore next (depth + 1) seen path = exploreEach next depth (path :: seen) (next path) :=
  rfl

theorem exploreEach_cons (depth : Nat) (seen : List Path) (file : Path) (rest : List Path) :
    exploreEach next depth seen (file :: rest) = exploreEach next depth
      (if file ∈ seen then seen else explore next depth seen file) rest :=
  rfl

theorem exploreEach_append (depth : Nat) (seen files more : List Path) :
    exploreEach next depth seen (files ++ more) =
      exploreEach next depth (exploreEach next depth seen files) more :=
  List.foldl_append

/-- A file that leads nowhere is the only one that is found from it. -/
theorem explore_of_next_eq_nil {path : Path} (h : next path = []) (depth : Nat)
    (seen : List Path) : explore next depth seen path = path :: seen := by
  cases depth with
  | zero => rfl
  | succ depth =>
    rw [explore_succ, h]
    rfl

theorem suffix_exploreEach_of {depth : Nat}
    (h : ∀ seen path, seen <:+ explore next depth seen path) (seen files : List Path) :
    seen <:+ exploreEach next depth seen files := by
  induction files generalizing seen with
  | nil => exact List.suffix_refl seen
  | cons file rest ih =>
    rw [exploreEach_cons]
    refine List.IsSuffix.trans ?_ (ih _)
    split
    · exact List.suffix_refl seen
    · exact h seen file

/-- What was found stays, in its order. -/
theorem suffix_explore (depth : Nat) (seen : List Path) (path : Path) :
    path :: seen <:+ explore next depth seen path := by
  induction depth generalizing seen path with
  | zero => exact List.suffix_refl _
  | succ depth ih =>
    exact suffix_exploreEach_of (fun seen path => (List.suffix_cons path seen).trans (ih seen path))
      (path :: seen) (next path)

theorem suffix_exploreEach (depth : Nat) (seen files : List Path) :
    seen <:+ exploreEach next depth seen files :=
  suffix_exploreEach_of
    (fun seen path => (List.suffix_cons path seen).trans (suffix_explore depth seen path)) seen files

/-- The files that the search starts from are found. -/
theorem mem_exploreEach {depth : Nat} {seen files : List Path} {file : Path} (h : file ∈ files) :
    file ∈ exploreEach next depth seen files := by
  induction files generalizing seen with
  | nil => cases h
  | cons first rest ih =>
    rw [exploreEach_cons]
    rcases List.mem_cons.mp h with rfl | h
    · refine (suffix_exploreEach depth _ rest).subset ?_
      split
      · assumption
      · exact (suffix_explore depth seen file).subset List.mem_cons_self
    · exact ih h

/-- How files are found, the last one first: each is new, and either the search starts from it or a
file that was found before leads to it. -/
inductive Found (next : Path → List Path) (tops : List Path) : List Path → Prop where
  | none : Found next tops []
  | add {seen : List Path} {file : Path} : Found next tops seen → file ∉ seen →
      (file ∈ tops ∨ ∃ source ∈ seen, file ∈ next source) → Found next tops (file :: seen)

variable {tops : List Path}

theorem Found.nodup {seen : List Path} (h : Found next tops seen) : seen.Nodup := by
  induction h with
  | none => exact List.nodup_nil
  | add _ hnew _ ih => exact List.nodup_cons.mpr ⟨hnew, ih⟩

/-- A file is found after one that leads to it. -/
theorem Found.led {seen : List Path} (h : Found next tops seen) {before after : List Path}
    {file : Path} (hfile : seen.reverse = before ++ file :: after) :
    file ∈ tops ∨ ∃ source ∈ before, file ∈ next source := by
  induction h generalizing after with
  | none => simp at hfile
  | @add seen last _ _ hlast ih =>
    rw [List.reverse_cons] at hfile
    rcases List.eq_nil_or_concat after with rfl | ⟨rest, last', rfl⟩
    · obtain ⟨rfl, hsame⟩ := List.append_inj' hfile rfl
      obtain rfl : last = file := List.singleton_inj.mp hsame
      simpa only [List.mem_reverse] using hlast
    · rw [List.concat_eq_append, ← List.cons_append, ← List.append_assoc] at hfile
      exact ih (List.append_inj_left' hfile rfl)

theorem Found.exploreEach_of {depth : Nat}
    (h : ∀ seen path, Found next tops seen → path ∉ seen →
      (path ∈ tops ∨ ∃ source ∈ seen, path ∈ next source) →
        Found next tops (explore next depth seen path))
    {seen files : List Path} (hseen : Found next tops seen)
    (hfiles : ∀ file ∈ files, file ∈ tops ∨ ∃ source ∈ seen, file ∈ next source) :
    Found next tops (exploreEach next depth seen files) := by
  induction files generalizing seen with
  | nil => exact hseen
  | cons file rest ih =>
    rw [List.forall_mem_cons] at hfiles
    rw [exploreEach_cons]
    split
    · exact ih hseen hfiles.2
    · rename_i hnew
      refine ih (h seen file hseen hnew hfiles.1) fun other hother => ?_
      have hsub : seen ⊆ explore next depth seen file :=
        ((List.suffix_cons file seen).trans (suffix_explore depth seen file)).subset
      exact (hfiles.2 other hother).imp_right fun ⟨source, hsource, hleads⟩ =>
        ⟨source, hsub hsource, hleads⟩

theorem Found.explore {depth : Nat} {seen : List Path} {path : Path}
    (hseen : Found next tops seen) (hnew : path ∉ seen)
    (hpath : path ∈ tops ∨ ∃ source ∈ seen, path ∈ next source) :
    Found next tops (explore next depth seen path) := by
  induction depth generalizing seen path with
  | zero => exact hseen.add hnew hpath
  | succ depth ih =>
    exact (hseen.add hnew hpath).exploreEach_of (fun seen path => ih) fun file hfile =>
      .inr ⟨path, List.mem_cons_self, hfile⟩

/-- **The search finds files in order**: each is new and is started from or led to. -/
theorem found_exploreEach (next : Path → List Path) (depth : Nat) (tops : List Path) :
    Found next tops (exploreEach next depth [] tops) :=
  Found.none.exploreEach_of (fun _ _ => .explore) fun _ => .inl

end

/-! ## What a file leads to -/

section

variable (ctx : PassContext) (files : Table Path FileResult)

/-- The files that directives of a file stand for, up to the first that cannot be resolved. -/
def leads (path : Path) : List IncludeTarget → List Path
  | [] => []
  | t :: rest =>
    match (siteOf ctx path).resolve ctx.view.disk t.pattern with
    | .error _ => []
    | .ok targets => targets ++ leads path rest

/-- The files that a file leads to. -/
def next (path : Path) : List Path :=
  match taken ctx files path with
  | .error _ => []
  | .ok r => leads ctx path r.includes

/-- What a file amounts to in a snapshot, if it amounts to something. -/
def dataOf? (path : Path) : Option Snapshot :=
  (taken ctx files path).toOption.map (·.data)

/-- Why a file can end a pass: it does not amount to anything, or one of its directives cannot be
resolved. -/
inductive Blocks : Path → ProjectError → Prop where
  | file {path : Path} {e : ProjectError} : taken ctx files path = .error e → Blocks path e
  | directive {path : Path} {r : FileResult} {t : IncludeTarget} {e : ProjectError} :
    taken ctx files path = .ok r → t ∈ r.includes →
      (siteOf ctx path).resolve ctx.view.disk t.pattern = .error e → Blocks path e

/-- What holds of a pass at any time.  Kept files are those from the beginning, with the files that were
started on read anew where necessary.  No file was started on twice; those that amount to something have
their snapshots in the order in which they were started on; and none was read twice. -/
structure Tracks (p : Pass) : Prop where
  refreshed : Refreshed ctx p.visited files p.files
  nodup : p.visited.Nodup
  snapshots : p.snapshots = p.visited.reverse.filterMap (dataOf? ctx files)
  reads : p.reads.Sublist p.visited.reverse

end

/-- Whether an error says that a pass was cancelled. -/
def ProjectError.IsCancelled (e : ProjectError) : Prop :=
  ∃ root n, e = .cancelled root n

theorem ProjectError.IsCancelled.not_isUnreadable {e : ProjectError} (h : e.IsCancelled) :
    ¬e.isUnreadable := by
  obtain ⟨root, n, rfl⟩ := h
  exact Bool.false_ne_true

section

variable {ctx : PassContext} {files : Table Path FileResult}

theorem next_of_error {path : Path} {e : ProjectError} (h : taken ctx files path = .error e) :
    next ctx files path = [] := by
  rw [next, h]

theorem next_of_ok {path : Path} {r : FileResult} (h : taken ctx files path = .ok r) :
    next ctx files path = leads ctx path r.includes := by
  rw [next, h]

/-- Warnings and watched places do not matter. -/
theorem Tracks.of_eq {p p' : Pass} (h : Tracks ctx files p) (hfiles : p'.files = p.files)
    (hvisited : p'.visited = p.visited) (hsnapshots : p'.snapshots = p.snapshots)
    (hreads : p'.reads = p.reads) : Tracks ctx files p' where
  refreshed := by
    rw [hfiles, hvisited]
    exact h.refreshed
  nodup := hvisited ▸ h.nodup
  snapshots := by rw [hsnapshots, hvisited, h.snapshots]
  reads := by
    rw [hreads, hvisited]
    exact h.reads

/-- A pass that has started on one more file is still in order, whether or not the file amounts to
something. -/
theorem Tracks.cons {p p' : Pass} (h : Tracks ctx files p) {path : Path} (hnew : path ∉ p.visited)
    (hfiles : Refreshed ctx [path] p.files p'.files) (hvisited : p'.visited = path :: p.visited)
    (hsnapshots : p'.snapshots = p.snapshots ++ (dataOf? ctx files path).toList)
    (hreads : p'.reads.Sublist (p.visited.reverse ++ [path])) : Tracks ctx files p' where
  refreshed := by
    rw [hvisited]
    exact h.refreshed.trans hfiles
  nodup := hvisited ▸ List.nodup_cons.mpr ⟨hnew, h.nodup⟩
  snapshots := by
    rw [hsnapshots, hvisited, List.reverse_cons, List.filterMap_append, ← h.snapshots]
    cases hdata : dataOf? ctx files path with
    | none => rw [List.filterMap_cons_none hdata, List.filterMap_nil, Option.toList_none]
    | some data => rw [List.filterMap_cons_some hdata, List.filterMap_nil, Option.toList_some]
  reads := by
    rw [hvisited, List.reverse_cons]
    exact hreads

/-- Starting on a new file: the pass is cancelled, or the file comes to what it is taken to be. -/
theorem Tracks.enter {p : Pass} (h : Tracks ctx files p) {path : Path} (hnew : path ∉ p.visited) :
    (∃ e, e.IsCancelled ∧ outcome (enter ctx path) p = (.error e, p)) ∨
      ∃ p', Tracks ctx files p' ∧ p'.visited = path :: p.visited ∧
        outcome (enter ctx path) p = (taken ctx files path, p') := by
  rcases outcome_checkCancelled p with ⟨-, hrun⟩ | ⟨budget, -, hcheck⟩
  · exact .inl ⟨_, ⟨_, _, rfl⟩, by rw [Project.enter, outcome_bind_of_error hrun]⟩
  · refine .inr ?_
    obtain ⟨files', reads, hfiles, hreads, hrun⟩ := outcome_enter path hcheck
    rw [h.refreshed.same] at hrun
    have hinsert : p.visited.insert path = path :: p.visited := List.insert_of_not_mem hnew
    have hsublist : reads.Sublist (p.visited.reverse ++ [path]) := by
      rcases hreads with rfl | rfl
      · exact h.reads.trans (List.sublist_append_left _ _)
      · exact h.reads.append (List.Sublist.refl _)
    cases htaken : taken ctx files path with
    | error e =>
      have hdata : dataOf? ctx files path = none := by
        rw [dataOf?, htaken]
        rfl
      rw [htaken] at hrun
      refine ⟨_, ?_, hinsert, hrun⟩
      exact h.cons hnew hfiles hinsert (by rw [hdata]; exact (List.append_nil _).symm) hsublist
    | ok r =>
      have hdata : dataOf? ctx files path = some r.data := by
        rw [dataOf?, htaken]
        rfl
      rw [htaken] at hrun
      refine ⟨_, ?_, hinsert, hrun⟩
      exact h.cons hnew hfiles hinsert (by rw [hdata]; rfl) hsublist

/-! ## Visits -/

/-- What a part of a pass comes to, where a search would find `found`: it finds that, or it is
cancelled or ended by a file on the way.  The failure of a single file can only come from one of
`owners`. -/
structure Explored (ctx : PassContext) (files : Table Path FileResult) (owners : List Path)
    (found : List Path) (result : Except ProjectError Unit × Pass) : Prop where
  tracks : Tracks ctx files result.2
  suffix : result.2.visited <:+ found
  ok : result.1 = .ok () → result.2.visited = found
  error : ∀ e, result.1 = .error e → e.IsCancelled ∨
    ∃ file ∈ result.2.visited, Blocks ctx files file e ∧ (e.isUnreadable → file ∈ owners)

section

variable {owners owners' found : List Path} {p : Pass}

theorem Explored.refl (h : Tracks ctx files p) : Explored ctx files owners p.visited (.ok (), p) :=
  ⟨h, List.suffix_refl _, fun _ => rfl, nofun⟩

theorem Explored.warnAt (h : Tracks ctx files p) (source : Path) (line : Nat) (message : String) :
    Explored ctx files owners p.visited (outcome (warnAt source line message) p) :=
  ⟨h.of_eq rfl rfl rfl rfl, List.suffix_refl _, fun _ => rfl, nofun⟩

theorem Explored.of_cancelled (h : Tracks ctx files p) (hsuffix : p.visited <:+ found)
    {e : ProjectError} (he : e.IsCancelled) : Explored ctx files owners found (.error e, p) :=
  ⟨h, hsuffix, nofun, fun _ h => .inl (Except.error.inj h ▸ he)⟩

theorem Explored.of_blocks (h : Tracks ctx files p) (hsuffix : p.visited <:+ found)
    {e : ProjectError} {path : Path} (hpath : path ∈ p.visited) (he : Blocks ctx files path e)
    (howner : path ∈ owners) : Explored ctx files owners found (.error e, p) :=
  ⟨h, hsuffix, nofun, fun _ h => .inr ⟨path, hpath, Except.error.inj h ▸ he, fun _ => howner⟩⟩

theorem Explored.owned {result : Except ProjectError Unit × Pass}
    (h : Explored ctx files owners found result) (howners : owners ⊆ owners') :
    Explored ctx files owners' found result where
  tracks := h.tracks
  suffix := h.suffix
  ok := h.ok
  error e he := (h.error e he).imp_right fun ⟨file, hfile, hblocks, hsingle⟩ =>
    ⟨file, hfile, hblocks, fun hunreadable => howners (hsingle hunreadable)⟩

/-- What ends a part of a pass ends the whole. -/
theorem Explored.of_error {found' : List Path} {e : ProjectError}
    (h : Explored ctx files owners found (.error e, p)) (hfound : found <:+ found') :
    Explored ctx files owners found' (.error e, p) :=
  ⟨h.tracks, h.suffix.trans hfound, nofun, h.error⟩

/-- Without owners, the failure is not that of a single file. -/
theorem Explored.not_isUnreadable {e : ProjectError}
    (h : Explored ctx files [] found (.error e, p)) : ¬e.isUnreadable := by
  rcases h.error e rfl with hcancelled | ⟨_, -, -, hsingle⟩
  · exact hcancelled.not_isUnreadable
  · exact fun hunreadable => nomatch hsingle hunreadable

/-- Steps for files, one after another, are a search from each of them.  Files that were started on
before stay so. -/
theorem Explored.forM {depth : Nat} {step : Path → PassM Unit} (chain : List Path) {l : List Path}
    (hstep : ∀ file ∈ l, ∀ p, Tracks ctx files p → chain ⊆ p.visited → Explored ctx files owners
      (if file ∈ p.visited then p.visited else explore (next ctx files) depth p.visited file)
      (outcome (step file) p)) (hp : Tracks ctx files p) (hchain : chain ⊆ p.visited) :
    Explored ctx files owners (exploreEach (next ctx files) depth p.visited l)
      (outcome (l.forM step) p) := by
  induction l generalizing p with
  | nil => exact .refl hp
  | cons file rest ih =>
    rw [List.forall_mem_cons] at hstep
    have hfirst := hstep.1 p hp hchain
    rw [exploreEach_cons]
    show Explored ctx files owners _ (outcome (step file >>= fun _ => rest.forM step) p)
    cases hrun : outcome (step file) p with
    | mk result p' =>
      rw [hrun] at hfirst
      cases result with
      | error e =>
        rw [outcome_bind_of_error hrun]
        exact hfirst.of_error (suffix_exploreEach depth _ rest)
      | ok _ =>
        rw [outcome_bind_of_ok hrun, ← hfirst.ok rfl]
        refine ih hstep.2 hfirst.tracks (List.Subset.trans hchain ?_)
        rw [hfirst.ok rfl]
        split
        · exact List.Subset.refl _
        · exact ((List.suffix_cons file _).trans (suffix_explore depth _ file)).subset

end

/-- Whether the search was completed also if the failure is that of a single file. -/
def Completed (found : List Path) (result : Except ProjectError Unit × Pass) : Prop :=
  ∀ e, result.1 = .error e → e.isUnreadable → result.2.visited = found

/-- Whether visits are searches from a file, so many levels deep, once the files of a chain were
started on. -/
def Searches (ctx : PassContext) (files : Table Path FileResult) (chain : List Path) (depth : Nat)
    (visitFile : Path → PassM Unit) : Prop :=
  ∀ path p, Tracks ctx files p → chain ⊆ p.visited → path ∉ p.visited →
    Explored ctx files [path] (explore (next ctx files) depth p.visited path)
      (outcome (visitFile path) p) ∧
    Completed (explore (next ctx files) depth p.visited path) (outcome (visitFile path) p)

section

variable {chain : List Path} {depth : Nat} {visitFile : Path → PassM Unit} {p : Pass}

/-- Following a target is a search from it, unless it was found before.  The failure of a single file
goes no further. -/
theorem Searches.followTarget (hvisit : Searches ctx files chain depth visitFile)
    (path : Path) (line : Nat) (target : Path) (hp : Tracks ctx files p)
    (hchain : chain ⊆ p.visited) :
    Explored ctx files []
      (if target ∈ p.visited then p.visited else explore (next ctx files) depth p.visited target)
      (outcome (followTarget visitFile chain path line target) p) := by
  rw [Project.followTarget]
  by_cases hmem : target ∈ chain
  · rw [if_pos (List.contains_iff_mem.mpr hmem), if_pos (hchain hmem)]
    exact .warnAt hp path line _
  · rw [if_neg (mt List.contains_iff_mem.mp hmem), outcome_bind_of_ok (outcome_get p)]
    by_cases hseen : target ∈ p.visited
    · rw [if_pos (List.contains_iff_mem.mpr hseen), if_pos hseen]
      exact .refl hp
    · rw [if_neg (mt List.contains_iff_mem.mp hseen), if_neg hseen, outcome_tryCatch]
      obtain ⟨hexplored, hcompleted⟩ := hvisit target p hp hchain hseen
      cases hrun : outcome (visitFile target) p with
      | mk result p' =>
        rw [hrun] at hexplored hcompleted
        cases result with
        | ok _ => exact ⟨hexplored.tracks, hexplored.suffix, hexplored.ok, nofun⟩
        | error e =>
          dsimp only
          split
          · rename_i hunreadable
            rw [← hcompleted e rfl hunreadable]
            exact .warnAt hexplored.tracks path line _
          · rename_i hother
            refine ⟨hexplored.tracks, hexplored.suffix, nofun, fun e' he' => ?_⟩
            rw [outcome_throw] at he'
            cases he'
            exact (hexplored.error e rfl).imp_right fun ⟨file, hfile, hblocks, _⟩ =>
              ⟨file, hfile, hblocks, fun h => absurd h hother⟩

/-- Following a directive is a search from the files that it stands for. -/
theorem Searches.followInclude (hvisit : Searches ctx files chain depth visitFile)
    {path : Path} {t : IncludeTarget} {targets : List Path}
    (hresolve : (siteOf ctx path).resolve ctx.view.disk t.pattern = .ok targets)
    (hp : Tracks ctx files p) (hchain : chain ⊆ p.visited) :
    Explored ctx files [] (exploreEach (next ctx files) depth p.visited targets)
      (outcome (Project.followInclude ctx visitFile chain path t) p) := by
  obtain ⟨place, hwatch⟩ := exists_watch_of_resolve hresolve
  have hwatched : Tracks ctx files
      { p with times := p.times.insertNew place (ctx.view.disk.modified place) } :=
    hp.of_eq rfl rfl rfl rfl
  rw [outcome_followInclude visitFile chain p hresolve hwatch]
  by_cases hempty : targets.isEmpty
  · rw [if_pos hempty, List.isEmpty_iff.mp hempty]
    exact .warnAt hwatched path t.line _
  · rw [if_neg hempty]
    exact Explored.forM chain
      (fun target _ q hq hsub => hvisit.followTarget path t.line target hq hsub) hwatched hchain

/-- Following the directives of a file is a search from the files that it leads to. -/
theorem Searches.followIncludes (hvisit : Searches ctx files chain depth visitFile)
    {path : Path} {r : FileResult} (hr : taken ctx files path = .ok r) (hpath : path ∈ chain)
    {l : List IncludeTarget} (hl : l ⊆ r.includes) (hp : Tracks ctx files p)
    (hchain : chain ⊆ p.visited) :
    Explored ctx files [path]
      (exploreEach (next ctx files) depth p.visited (leads ctx path l))
      (outcome (l.forM (Project.followInclude ctx visitFile chain path)) p) ∧
    Completed (exploreEach (next ctx files) depth p.visited (leads ctx path l))
      (outcome (l.forM (Project.followInclude ctx visitFile chain path)) p) := by
  induction l generalizing p with
  | nil => exact ⟨.refl hp, nofun⟩
  | cons t rest ih =>
    rw [List.cons_subset] at hl
    show Explored ctx files [path] _ (outcome (Project.followInclude ctx visitFile chain path t >>=
        fun _ => rest.forM (Project.followInclude ctx visitFile chain path)) p) ∧
      Completed _ (outcome (Project.followInclude ctx visitFile chain path t >>=
        fun _ => rest.forM (Project.followInclude ctx visitFile chain path)) p)
    rw [leads]
    cases hresolve : (siteOf ctx path).resolve ctx.view.disk t.pattern with
    | error e =>
      -- the directive ends the file, and nothing behind it is followed
      rw [outcome_bind_of_error (outcome_followInclude_of_error visitFile chain p hresolve)]
      exact ⟨.of_blocks hp (List.suffix_refl _) (hchain hpath) (.directive hr hl.1 hresolve)
        List.mem_cons_self, fun _ _ _ => rfl⟩
    | ok targets =>
      have hfirst := hvisit.followInclude hresolve hp hchain
      dsimp only
      rw [exploreEach_append]
      cases hrun : outcome (Project.followInclude ctx visitFile chain path t) p with
      | mk result p' =>
        rw [hrun] at hfirst
        cases result with
        | error e =>
          rw [outcome_bind_of_error hrun]
          refine ⟨(hfirst.of_error (suffix_exploreEach depth _ _)).owned (List.nil_subset _), ?_⟩
          rintro _ ⟨⟩ hunreadable
          exact absurd hunreadable hfirst.not_isUnreadable
        | ok _ =>
          have hvisited := hfirst.ok rfl
          rw [outcome_bind_of_ok hrun, ← hvisited]
          refine ih hl.2 hfirst.tracks (List.Subset.trans hchain ?_)
          rw [hvisited]
          exact (suffix_exploreEach depth p.visited targets).subset

end

/-- Starting on a new file and going on from it, where the search is over at once if the file does
not amount to anything. -/
theorem Tracks.enter_bind {p : Pass} (hp : Tracks ctx files p) {path : Path} {found : List Path}
    (hnew : path ∉ p.visited) (hfound : path :: p.visited <:+ found)
    (hnothing : ∀ e, taken ctx files path = .error e → found = path :: p.visited)
    {rest : FileResult → PassM Unit}
    (hrest : ∀ r p', taken ctx files path = .ok r → Tracks ctx files p' →
      p'.visited = path :: p.visited →
        Explored ctx files [path] found (outcome (rest r) p') ∧
          Completed found (outcome (rest r) p')) :
    Explored ctx files [path] found (outcome (Project.enter ctx path >>= rest) p) ∧
      Completed found (outcome (Project.enter ctx path >>= rest) p) := by
  rcases hp.enter hnew with ⟨e, he, hrun⟩ | ⟨p', hp', hvisited, hrun⟩
  · rw [outcome_bind_of_error hrun]
    exact ⟨.of_cancelled hp ((List.suffix_cons path _).trans hfound) he, fun _ h hunreadable =>
      absurd hunreadable (Except.error.inj h ▸ he.not_isUnreadable)⟩
  · cases htaken : taken ctx files path with
    | error e =>
      rw [htaken] at hrun
      rw [outcome_bind_of_error hrun, hnothing e htaken, ← hvisited]
      exact ⟨.of_blocks hp' (List.suffix_refl _) (hvisited ▸ List.mem_cons_self) (.file htaken)
        List.mem_cons_self, fun _ _ _ => rfl⟩
    | ok r =>
      rw [htaken] at hrun
      rw [outcome_bind_of_ok hrun]
      exact hrest r p' htaken hp' hvisited

/-- **Visits are searches.** -/
theorem searches_visit (ctx : PassContext) (files : Table Path FileResult) (depth : Nat)
    (chain : List Path) : Searches ctx files chain depth (visit ctx depth chain) := by
  induction depth generalizing chain with
  | zero =>
    intro path p hp _ hnew
    rw [visit, explore_zero]
    refine hp.enter_bind hnew (List.suffix_refl _) (fun _ _ => rfl) fun r p' _ hp' hvisited => ?_
    rw [← hvisited]
    cases r.includes with
    | nil => exact ⟨.refl hp', nofun⟩
    | cons first rest => exact ⟨.warnAt hp' path first.line _, nofun⟩
  | succ depth ih =>
    intro path p hp hchain hnew
    rw [visit]
    refine hp.enter_bind hnew (suffix_explore _ _ path)
      (fun e he => explore_of_next_eq_nil (next_of_error he) _ _) fun r p' hr hp' hvisited => ?_
    rw [explore_succ, next_of_ok hr, ← hvisited]
    refine (ih (path :: chain)).followIncludes hr List.mem_cons_self (List.Subset.refl _) hp' ?_
    rw [hvisited]
    exact List.cons_subset_cons path hchain

/-- **Visits of several files are a search from each of them.** -/
theorem explored_visitAll (ctx : PassContext) (files : Table Path FileResult) (tops : List Path)
    {p : Pass} (hp : Tracks ctx files p) :
    Explored ctx files tops
      (exploreEach (next ctx files) ctx.settings.maxIncludeDepth p.visited tops)
      (outcome (Cache.visitAll ctx tops) p) := by
  refine Explored.forM [] (fun top htop q hq hchain => ?_) hp (List.nil_subset _)
  rw [outcome_bind_of_ok (outcome_get q)]
  by_cases hseen : top ∈ q.visited
  · rw [List.contains_iff_mem.mpr hseen, if_pos hseen]
    exact .refl hq
  · have hvisit := searches_visit ctx files ctx.settings.maxIncludeDepth [] top q hq hchain hseen
    have hfresh : (!q.visited.contains top) = true := by simpa using hseen
    rw [if_pos hfresh, if_neg hseen]
    exact hvisit.1.owned (List.cons_subset.mpr ⟨htop, List.nil_subset _⟩)

/-- A visit of a file that does not amount to anything fails. -/
theorem Tracks.visit_fails {p : Pass} (hp : Tracks ctx files p) {path : Path} {e : ProjectError}
    (hnew : path ∉ p.visited) (he : taken ctx files path = .error e) (depth : Nat)
    (chain : List Path) : ∃ e', (outcome (visit ctx depth chain path) p).1 = .error e' := by
  have hfails (rest : FileResult → PassM Unit) :
      ∃ e', (outcome (Project.enter ctx path >>= rest) p).1 = .error e' := by
    rcases hp.enter hnew with ⟨e', -, hrun⟩ | ⟨p', -, -, hrun⟩
    · exact ⟨e', by rw [outcome_bind_of_error hrun]⟩
    · rw [he] at hrun
      exact ⟨e, by rw [outcome_bind_of_error hrun]⟩
  cases depth with
  | zero =>
    rw [visit]
    exact hfails _
  | succ depth =>
    rw [visit]
    exact hfails _

/-- **A top-level file that does not amount to anything ends the pass**, unless it was found from
those before it. -/
theorem Tracks.visitAll_fails {p : Pass} (hp : Tracks ctx files p) {before after : List Path}
    {top : Path} {e : ProjectError}
    (hnew : top ∉ exploreEach (next ctx files) ctx.settings.maxIncludeDepth p.visited before)
    (he : taken ctx files top = .error e) :
    ∃ e', (outcome (Cache.visitAll ctx (before ++ top :: after)) p).1 = .error e' := by
  have hbefore := explored_visitAll ctx files before hp
  rw [Cache.visitAll_append]
  cases hrun : outcome (Cache.visitAll ctx before) p with
  | mk result p' =>
    rw [hrun] at hbefore
    cases result with
    | error e' => exact ⟨e', by rw [outcome_bind_of_error hrun]⟩
    | ok _ =>
      rw [outcome_bind_of_ok hrun, outcome_visitAll_cons_of_new ctx (hbefore.ok rfl ▸ hnew)]
      cases hvisit : outcome (visit ctx ctx.settings.maxIncludeDepth [] top) p' with
      | mk result' p'' =>
        obtain ⟨e', he'⟩ := hbefore.tracks.visit_fails (hbefore.ok rfl ▸ hnew) he
          ctx.settings.maxIncludeDepth []
        rw [hvisit] at he'
        cases he'
        exact ⟨e', by rw [outcome_bind_of_error hvisit]⟩

end

/-! ## Requests -/

namespace Opening

/-- The files of a pass, each in front of those that are first found from it. -/
def files (o : Opening) (c : Cache) (view : View) : List Path :=
  (exploreEach (next (c.context view) c.files) c.settings.maxIncludeDepth [] o.tops).reverse

/-- What the files of a pass amount to, one after another.  Files that cannot be read are left
out. -/
def parts (o : Opening) (c : Cache) (view : View) : List Snapshot :=
  (o.files c view).filterMap (dataOf? (c.context view) c.files)

/-- A pass is a search from its top-level files. -/
theorem explored (o : Opening) (c : Cache) (view : View) (budget : Option Nat) :
    Explored (c.context view) c.files o.tops
      (exploreEach (next (c.context view) c.files) c.settings.maxIncludeDepth [] o.tops)
      (outcome (Cache.visitAll (c.context view) o.tops) (o.pass c budget)) :=
  have hstart : Tracks (c.context view) c.files (o.pass c budget) :=
    ⟨.refl c.files, List.nodup_nil, rfl, List.Sublist.refl []⟩
  explored_visitAll (c.context view) c.files o.tops hstart

theorem found_files (o : Opening) (c : Cache) (view : View) :
    Found (next (c.context view) c.files) o.tops (o.files c view).reverse := by
  rw [files, List.reverse_reverse]
  exact found_exploreEach _ _ _

theorem nodup_files (o : Opening) (c : Cache) (view : View) : (o.files c view).Nodup :=
  List.nodup_reverse.mp (o.found_files c view).nodup

end Opening

end Daybook.Project
