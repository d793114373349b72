import Daybook.Proofs.Disk.Expansion
import Daybook.Proofs.Disk.Marks
import Daybook.Proofs.Project.Freshness
import Daybook.Proofs.Project.Include

/-!
# What the watched places show

For every include target one place is watched, and the target is only looked up again when the time of
this place has changed.  A plain target is watched itself.  A pattern is watched through the directory in
front of its first wildcard, which shows what the pattern stands for if the wildcard is in the last name
and stands for one name: the directory then bears the time at which it gained or lost its last file.
Files further down leave no mark on it, and neither does a directory that the pattern enters and leaves
again.  A missing place has a time too, which must not be that of a file that comes there.

* `Event.times`: the times that an event leaves on a disk.
* `Progress`: what changes to a disk keep; `Scene.progress_step`, `Scene.progress_last`.
* `IncludeSite.Watchable`: whether the watched place shows what a target stands for.
* `IncludeSite.Watchable.resolve_eq`: while its time is the same, so are the files.
* `Scene.watch_notices`: when a target comes to stand for other files, the time has changed.
* `Scene.watch_misses_file_below`, `Scene.watch_misses_missingTime`: when it has not.
-/

namespace Daybook.Project

open Disk

/-! ## Changes of a disk -/

/-- The times that an event leaves on a disk. -/
def Event.times : Event → List Int
  | .write time _ _ modified => [time, modified.getD time]
  | .delete time _ => [time]
  | _ => []

/-- What changes to a disk keep, and the marks that they leave. -/
structure Progress (fresh : Int → Prop) (d d' : Disk) : Prop where
  succeeds : d.Succeeds d'
  distinct : d'.nodes.Distinct
  marked : Marked fresh d d'

theorem Progress.trans {fresh : Int → Prop} {d d' d'' : Disk} (h : Progress fresh d d')
    (h' : Progress fresh d' d'') : Progress fresh d d'' :=
  ⟨h.succeeds.trans h'.succeeds, h'.distinct, h.marked.trans h'.marked⟩

namespace Scene

variable {s : Scene} {fresh : Int → Prop}

/-- An event with fresh times. -/
theorem progress_step (hs : s.surroundings.Proper) {w : World} (hdisk : w.disk.WellFormed)
    (hdistinct : w.disk.nodes.Distinct) {e : Event} (hfresh : ∀ time ∈ e.times, fresh time) :
    Progress fresh w.disk (s.step w e).disk := by
  have hsame : Progress fresh w.disk w.disk := ⟨.refl hdisk, hdistinct, .refl fresh w.disk⟩
  cases e with
  | write time path bytes modified =>
    have htime := hfresh time List.mem_cons_self
    have hmodified := hfresh (modified.getD time) (List.mem_cons_of_mem _ List.mem_cons_self)
    exact changed_of (P := Progress fresh w.disk) hs hsame path
      fun place disk' hproper hnull hwrite =>
        ⟨hdisk.write hproper hnull hwrite, distinct_write hdistinct hwrite,
          marked_write hproper htime hmodified hwrite⟩
  | delete time path =>
    have htime := hfresh time List.mem_cons_self
    exact changed_of (P := Progress fresh w.disk) hs hsame path
      fun place disk' hproper _ hdelete =>
        ⟨hdisk.delete hproper hdelete, distinct_delete hdistinct hdelete,
          marked_delete htime hdelete⟩
  | day | get | workspace | updateText | invalidate | invalidateAll => exact hsame

/-- A history with fresh times. -/
theorem progress_last (hs : s.surroundings.Proper) {w : World} (hdisk : w.disk.WellFormed)
    (hdistinct : w.disk.nodes.Distinct) {events : List Event}
    (hfresh : ∀ e ∈ events, ∀ time ∈ e.times, fresh time) :
    Progress fresh w.disk (s.last w events).disk := by
  induction events generalizing w with
  | nil => exact ⟨.refl hdisk, hdistinct, .refl fresh w.disk⟩
  | cons e events ih =>
    have hstep := progress_step hs hdisk hdistinct (hfresh e List.mem_cons_self)
    exact hstep.trans (ih hstep.succeeds.wellFormed hstep.distinct fun e' he' =>
      hfresh e' (List.mem_cons_of_mem e he'))

end Scene

/-! ## Targets -/

namespace IncludeSite

variable {site : IncludeSite} {pattern : String} {disk d d' : Disk}

/-- Whether the place that is watched for a target shows what the target stands for: the target is
plain, or it is a pattern for files of one directory, whose names only go up from directories. -/
def Watchable (site : IncludeSite) (disk : Disk) (pattern : String) : Prop :=
  ∀ target, site.surroundings.expandHome pattern = .ok target →
    (site.fullParts target).any hasWildcard = false ∨
      ∃ front last, WildcardLast (site.fullParts target) front last ∧ disk.LeavesDirectories front

/-- The file that a plain target stands for. -/
theorem eq_of_plainFile (hdisk : disk.WellFormed) {parts : List String} {files : List Path}
    (h : site.plainFile disk parts = .ok files) :
    files = if disk.isFile (Path.root.follow parts) then [Path.root.follow parts] else [] := by
  rw [plainFile, resolve_root] at h
  cases hnull : parts.any hasNull with
  | true =>
    rw [hnull, if_pos rfl] at h
    cases h
  | false =>
    rw [hnull, if_neg Bool.false_ne_true] at h
    dsimp only at h
    split at h
    · cases h
    · rename_i found hfound
      rw [← hdisk.eq_isFile_of_holdsFile (Path.proper_root.follow parts)
        (Path.any_hasNull_root_follow hnull) hfound]
      exact (Except.ok.inj h).symm

/-- While the time of its directory is the same, a pattern for files of one directory stands for the same
files. -/
theorem expand_eq_of_modified_eq {fresh : Int → Prop} (hd : d.WellFormed)
    (hdistinct : d.nodes.Distinct) (hdated : d.Dated) (hprogress : Progress fresh d d')
    (hfresh : ∀ place, ¬fresh (d.modified place))
    {parts front : List String} {last : String} (hlast : WildcardLast parts front last)
    (hup : d.LeavesDirectories front)
    (hmodified : d'.modified (Path.root.follow front) = d.modified (Path.root.follow front)) :
    d'.expand parts = d.expand parts := by
  obtain ⟨hnode, hfiles⟩ := hprogress.marked.eq_of_modified_eq hdated (hfresh _) hmodified
  have hd' := hprogress.succeeds.wellFormed
  refine hd.expand_congr hd' hdistinct hprogress.distinct hlast fun found => ?_
  rw [hd.mem_expand_iff hlast, hd'.mem_expand_iff hlast]
  constructor
  · rintro ⟨name, rfl, haccepts, hfits, hlocate, hfile⟩
    have hdir : d.isDirectory (Path.root.follow front) := by
      rw [isDirectory, ← hnode]
      exact hd'.isDirectory_of_child hfile
    exact ⟨name, rfl, haccepts, hfits, hd.locate_eq_ok hup (fits_of_locate hlocate) hdir,
      hfiles hdir name ▸ hfile⟩
  · rintro ⟨name, rfl, haccepts, hfits, hlocate, hfile⟩
    have hdir := hd.isDirectory_of_child hfile
    exact ⟨name, rfl, haccepts, hfits, hprogress.succeeds.locate_eq_ok hlocate hdir,
      (hfiles hdir name).symm ▸ hfile⟩

/-- **While the time of the watched place is the same**, a target stands for the same files. -/
theorem Watchable.resolve_eq (h : site.Watchable d pattern) {fresh : Int → Prop}
    (hd : d.WellFormed) (hdistinct : d.nodes.Distinct) (hdated : d.Dated)
    (hprogress : Progress fresh d d') (hfresh : ∀ place, ¬fresh (d.modified place))
    {place : Path} (hwatch : site.watch pattern = .ok place)
    (hmodified : d'.modified place = d.modified place) {files files' : List Path}
    (hfiles : site.resolve d pattern = .ok files)
    (hfiles' : site.resolve d' pattern = .ok files') : files' = files := by
  rw [resolve] at hfiles hfiles'
  rw [watch] at hwatch
  cases hhome : site.surroundings.expandHome pattern with
  | error e =>
    rw [hhome] at hfiles
    cases hfiles
  | ok target =>
    rw [hhome] at hfiles hfiles' hwatch
    obtain rfl := Except.ok.inj hwatch
    dsimp only at hfiles hfiles'
    rcases h target hhome with hplain | ⟨front, last, hlast, hup⟩
    · have hall : (site.fullParts target).takeWhile (!hasWildcard ·) = site.fullParts target :=
        List.takeWhile_eq_self_iff.mpr fun part hpart => by
          simpa using List.any_eq_false.mp hplain part hpart
      rw [hall] at hmodified
      rw [hplain, if_neg Bool.false_ne_true] at hfiles hfiles'
      obtain ⟨hnode, -⟩ := hprogress.marked.eq_of_modified_eq hdated (hfresh _) hmodified
      rw [eq_of_plainFile hd hfiles, eq_of_plainFile hprogress.succeeds.wellFormed hfiles', isFile,
        isFile, hnode]
    · have hwildcard : (site.fullParts target).any hasWildcard = true := by
        rw [hlast.eq, List.any_append, List.any_cons, hlast.wildcard]
        simp
      rw [hlast.takeWhile_eq] at hmodified
      rw [hwildcard, if_pos rfl, patternFiles] at hfiles hfiles'
      rw [expand_eq_of_modified_eq hd hdistinct hdated hprogress hfresh hlast hup hmodified]
        at hfiles'
      exact Except.ok.inj (hfiles'.symm.trans hfiles)

end IncludeSite

/-! ## Histories -/

/-- **The watched place shows when a target comes to stand for other files.**  In a history all of whose
times are new, and none of which is that of missing places, let a target be plain, or a pattern for files
of one directory whose names only go up from directories.  When it stands for other files in the end, the
time of its watched place is another one. -/
theorem Scene.watch_notices {s : Scene} (hs : s.surroundings.Proper) {w : World}
    (hdisk : w.disk.WellFormed) (hdistinct : w.disk.nodes.Distinct) (hdated : w.disk.Dated)
    {events : List Event}
    (hnew : ∀ e ∈ events, ∀ time ∈ e.times, ∀ place, w.disk.modified place ≠ time)
    {site : IncludeSite} {pattern : String} (hpattern : site.Watchable w.disk pattern)
    {files files' : List Path} (hfiles : site.resolve w.disk pattern = .ok files)
    (hfiles' : site.resolve (s.last w events).disk pattern = .ok files') (hne : files' ≠ files) :
    ∃ place, site.watch pattern = .ok place ∧
      (s.last w events).disk.modified place ≠ w.disk.modified place := by
  have hprogress := Scene.progress_last hs hdisk hdistinct hnew
  obtain ⟨place, hwatch⟩ := exists_watch_of_resolve hfiles
  exact ⟨place, hwatch, fun hmodified => hne (hpattern.resolve_eq hdisk hdistinct hdated hprogress
    (fun place hfresh => hfresh place rfl) hwatch hmodified hfiles hfiles')⟩

/-- A disk with a directory, a file in it and one beside it. -/
def shelf : Disk :=
  ⟨⟨[(⟨[]⟩, ⟨.directory, 1000⟩), (⟨["books"]⟩, ⟨.directory, 1000⟩),
    (⟨["books", "old"]⟩, ⟨.file .empty, 1000⟩), (⟨["top"]⟩, ⟨.file .empty, 1000⟩)]⟩⟩

theorem modified_shelf {place : Path} {node : DiskNode} (h : shelf.node? place = some node) :
    node.modified = 1000 := by
  have hall := (Table.forall_isSome_get?_iff shelf.nodes fun p => shelf.modified p = 1000).mpr
    (by decide +kernel)
  rw [← modified_of_some h]
  exact hall place (Option.isSome_iff_exists.mpr ⟨node, h⟩)

theorem dated_shelf : shelf.Dated := by
  intro place node hnode
  rw [modified_shelf hnode]
  decide

/-- Two files come and one of them goes. -/
def twoComeOneGoes : List Event :=
  [.write 2000 ⟨.root, ["books", "a.new"]⟩ .empty none,
    .write 3000 ⟨.root, ["books", "b.new"]⟩ .empty none, .delete 4000 ⟨.root, ["books", "a.new"]⟩]

/-- The world in which nothing has happened to that disk. -/
def shelfWorld : World :=
  rootScene.start shelf newYearsEve

/-- The disk after events. -/
def shelfAfter (events : List Event) : Disk :=
  (rootScene.last shelfWorld events).disk

/-- An include directive in a file beside the directory. -/
def shelfSite : IncludeSite :=
  ⟨rootScene.surroundings, ⟨.root, []⟩⟩

/-- Files of a directory that come and go. -/
theorem Scene.watch_notices_new_book :
    shelf.WellFormed ∧ shelf.Dated ∧ shelfSite.Watchable shelf "books/*.new" ∧
      shelfSite.resolve shelf "books/*.new" = .ok [] ∧
      shelfSite.resolve (shelfAfter twoComeOneGoes) "books/*.new" = .ok [⟨["books", "b.new"]⟩] ∧
      ∃ place, shelfSite.watch "books/*.new" = .ok place ∧
        (shelfAfter twoComeOneGoes).modified place ≠ shelf.modified place := by
  have hpattern : shelfSite.Watchable shelf "books/*.new" := by
    rintro _ ⟨⟩
    refine .inr ⟨["books"], "*.new", ⟨rfl, by decide, by decide, by decide⟩, ?_⟩
    rintro front hfront
    exact absurd (hfront.subset (List.mem_append_right front List.mem_cons_self)) (by decide)
  have hbefore : shelfSite.resolve shelf "books/*.new" = .ok [] := by decide +kernel
  have hafter : shelfSite.resolve (shelfAfter twoComeOneGoes) "books/*.new" =
      .ok [⟨["books", "b.new"]⟩] := by decide +kernel
  have htimes : ∀ e ∈ twoComeOneGoes, ∀ time ∈ e.times, time ≠ missingTime ∧ time ≠ 1000 := by
    decide
  have hnew : ∀ e ∈ twoComeOneGoes, ∀ time ∈ e.times, ∀ place, shelf.modified place ≠ time := by
    intro e he time htime place
    obtain ⟨hmissing, hother⟩ := htimes e he time htime
    cases hnode : shelf.node? place with
    | none =>
      rw [modified_of_none hnode]
      exact hmissing.symm
    | some node =>
      rw [modified_of_some hnode, modified_shelf hnode]
      exact hother.symm
  have hdisk : shelf.WellFormed := by decide +kernel
  have hdistinct : shelf.nodes.Distinct := show shelf.nodes.keys.Nodup by decide +kernel
  exact ⟨hdisk, dated_shelf, hpattern, hbefore, hafter, watch_notices (s := rootScene)
    (w := shelfWorld) ⟨by decide, by decide⟩ hdisk hdistinct dated_shelf hnew hpattern hbefore
    hafter (by decide)⟩

/-- **Files below a wildcard leave no mark on the watched place.** -/
theorem Scene.watch_misses_file_below :
    shelfSite.watch "*/new" = .ok .root ∧
      shelfSite.resolve shelf "*/new" = .ok [] ∧
      shelfSite.resolve (shelfAfter [.write 2000 ⟨.root, ["books", "new"]⟩ .empty none]) "*/new" =
        .ok [⟨["books", "new"]⟩] ∧
      (shelfAfter [.write 2000 ⟨.root, ["books", "new"]⟩ .empty none]).modified .root =
        shelf.modified .root := by
  decide +kernel

/-- **A file that is given the time of a missing one leaves no mark either**, although it never had this
time, and its target is plain. -/
theorem Scene.watch_misses_missingTime :
    shelfSite.watch "books/new" = .ok ⟨["books", "new"]⟩ ∧
      shelfSite.resolve shelf "books/new" = .ok [] ∧
      shelfSite.resolve (shelfAfter
        [.write 2000 ⟨.root, ["books", "new"]⟩ .empty (some missingTime)]) "books/new" =
          .ok [⟨["books", "new"]⟩] ∧
      (shelfAfter [.write 2000 ⟨.root, ["books", "new"]⟩ .empty (some missingTime)]).modified
        ⟨["books", "new"]⟩ = shelf.modified ⟨["books", "new"]⟩ := by
  decide +kernel

/-- Neither does a file in a directory that the pattern enters and leaves again. -/
example :
    shelfSite.watch "books/late/../../t*" = .ok .root ∧
      shelfSite.resolve shelf "books/late/../../t*" = .ok [] ∧
      shelfSite.resolve (shelfAfter [.write 2000 ⟨.root, ["books", "late", "a"]⟩ .empty none])
        "books/late/../../t*" = .ok [⟨["top"]⟩] ∧
      (shelfAfter [.write 2000 ⟨.root, ["books", "late", "a"]⟩ .empty none]).modified .root =
        shelf.modified .root := by
  decide +kernel

end Daybook.Project
