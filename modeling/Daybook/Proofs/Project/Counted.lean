import Daybook.Proofs.Builder.Portions
import Daybook.Proofs.Project.Search
import Daybook.Proofs.Snapshot.Apart

/-!
# Every file is counted once

An entry is the merge of what the files of a pass amount to.  A pass starts on no file twice, so the
transactions of an entry are those of its files in the order of the search, and its counts are those
of its files added up.  Cycles, repeated targets and files that cannot be read make no difference to
this.

There is one thing that keeps a pass from its entry although it is not cancelled and its top-level
files can be read: a file whose text is refused, or a directive whose target cannot be looked up at
all, as when a name in it is longer than the disk allows.  The latter ends only the file it stands in
if that file was included, and the whole pass if it stands in a top-level file.

* `KeepsTexts`, `Cache.Reached`: what is kept of files comes from texts, whatever a cache was asked.
* `Request.each_file_counted_once`: the entry of a pass, or what keeps the pass from it.
-/

namespace Daybook.Project

open PassM Journal

/-! ## Kept results come from texts -/

/-- Whether all that is kept of files comes from texts. -/
def KeepsTexts (files : Table Path FileResult) : Prop :=
  ∀ ⦃path r⦄, files.get? path = some r → ∃ options text, Snapshot.ofText options text = .ok r.data

/-- What a file amounts to comes from a text. -/
theorem exists_text_of_parseText {ctx : PassContext} {path : Path} {text : String}
    {data : Snapshot} (h : parseText ctx path text = .ok data) :
    ∃ options text, Snapshot.ofText options text = .ok data := by
  rw [parseText] at h
  by_cases hsize : 1 ≤ (ctx.settings.chunkSize : Int)
  · rw [Snapshot.ofPortions_eq_map_ofText _ hsize] at h
    cases htext : Snapshot.ofText _ text with
    | error e =>
      rw [htext] at h
      cases h
    | ok s =>
      rw [htext] at h
      exact ⟨_, text, htext.trans h⟩
  · rw [Snapshot.ofPortions, if_pos (by omega)] at h
    cases h

theorem exists_text_of_loaded {ctx : PassContext} {path : Path} {r : FileResult}
    (h : loaded ctx path = .ok r) : ∃ options text, Snapshot.ofText options text = .ok r.data := by
  have hparsed (buffered : Bool) (text : String) (h : parsed ctx path buffered text = .ok r) :
      ∃ options text, Snapshot.ofText options text = .ok r.data := by
    rw [parsed] at h
    split at h
    · cases h
    · rename_i hdata
      cases h
      exact exists_text_of_parseText hdata
  rw [loaded] at h
  split at h
  · exact hparsed true _ h
  · split at h
    · cases h
    · exact hparsed false _ h

theorem KeepsTexts.refreshed {ctx : PassContext} {paths : List Path}
    {files files' : Table Path FileResult} (h : KeepsTexts files)
    (hfiles : Refreshed ctx paths files files') : KeepsTexts files' :=
  fun _ _ hget => (hfiles.kept hget).elim (@h _ _) exists_text_of_loaded

theorem KeepsTexts.erase {files : Table Path FileResult} (h : KeepsTexts files) (path : Path) :
    KeepsTexts (files.erase path) := by
  intro other r hget
  rw [Table.get?_erase] at hget
  split at hget
  · cases hget
  · exact h hget

theorem KeepsTexts.exists_text {ctx : PassContext} {files : Table Path FileResult}
    (h : KeepsTexts files) {path : Path} {s : Snapshot} (hs : dataOf? ctx files path = some s) :
    ∃ options text, Snapshot.ofText options text = .ok s := by
  rw [dataOf?] at hs
  obtain ⟨r, hr, rfl⟩ := Option.map_eq_some_iff.mp hs
  rw [taken] at hr
  cases hkept : kept? ctx files path with
  | some r' =>
    rw [hkept] at hr
    cases hr
    exact h (Option.filter_eq_some_iff.mp hkept).1
  | none =>
    rw [hkept] at hr
    cases hloaded : loaded ctx path with
    | error e =>
      rw [hloaded] at hr
      cases hr
    | ok r' =>
      rw [hloaded] at hr
      cases hr
      exact exists_text_of_loaded hloaded

/-- The caches that come about: from a new one, whatever it is asked for or told, with whatever is
to be seen on the disk at the time. -/
inductive Cache.Reached : Cache → Prop
  | start (settings : Settings) : Reached (.start settings)
  | ask {c : Cache} (view : View) (budget : Option Nat) (q : Request) :
    Reached c → Reached (q.ask c view budget).cache
  | updateText {c c' : Cache} {view : View} {path : WrittenPath} {text : String} :
    Reached c → c.updateText view path text = .ok c' → Reached c'
  | invalidate {c c' : Cache} {s : Surroundings} {path : WrittenPath} :
    Reached c → c.invalidate s path = .ok c' → Reached c'
  | invalidateAll {c : Cache} : Reached c → Reached c.invalidateAll
  | dispose {c : Cache} : Reached c → Reached c.dispose

/-- Whatever a cache was asked or told, all that it has kept comes from texts. -/
theorem Cache.Reached.keepsTexts {c : Cache} (h : c.Reached) : KeepsTexts c.files := by
  induction h with
  | start settings => exact fun _ _ hget => nomatch hget
  | @ask c view budget q _ ih =>
    rw [q.ask_eq]
    split
    · exact ih
    · exact ih
    · rename_i o _
      have hrefreshed := (o.explored c view budget).tracks.refreshed
      cases hrun : outcome (visitAll (c.context view) o.tops) (o.pass c budget) with
      | mk result p =>
        rw [hrun] at hrefreshed
        cases result with
        | error e =>
          rw [runPass_of_error c hrun]
          exact ih.refreshed hrefreshed
        | ok _ =>
          rw [runPass_of_ok c hrun]
          exact ih.refreshed hrefreshed
  | @updateText c c' view path text _ h ih =>
    rw [Cache.updateText] at h
    cases hplace : c.placeOf view path with
    | error e =>
      rw [hplace] at h
      cases h
    | ok place =>
      rw [hplace] at h
      cases h
      exact ih.erase place
  | @invalidate c c' s path _ h ih =>
    rw [Cache.invalidate] at h
    cases hplace : s.resolve path with
    | error e =>
      rw [hplace] at h
      cases h
    | ok place =>
      rw [hplace] at h
      cases h
      exact ih.erase place
  | invalidateAll => exact fun _ _ hget => nomatch hget
  | dispose => exact fun _ _ hget => nomatch hget

/-! ## What keeps a pass from its entry -/

/-- What keeps a pass from its entry at a file: its text is refused, or one of its directives cannot
be resolved.  Where the latter is the failure of a single file, it ends only that file if it was
included, so the directive stands in a top-level file. -/
inductive Opening.Ends (o : Opening) (c : Cache) (view : View) : Path → ProjectError → Prop
  | text {file : Path} {cause : BuildError} :
    taken (c.context view) c.files file = .error (.build cause) → Ends o c view file (.build cause)
  | directive {file : Path} {r : FileResult} {t : IncludeTarget} {e : ProjectError} :
    taken (c.context view) c.files file = .ok r → t ∈ r.includes →
      (siteOf (c.context view) file).resolve view.disk t.pattern = .error e →
        (e.isUnreadable → file ∈ o.tops) → Ends o c view file e

/-- A file that amounts to nothing cannot be read, or its text is refused. -/
theorem unreadable_or_build_of_taken {ctx : PassContext} {files : Table Path FileResult}
    {path : Path} {e : ProjectError} (h : taken ctx files path = .error e) :
    (∃ place cause, e = .unreadable place cause) ∨ ∃ cause, e = .build cause := by
  have hparsed (buffered : Bool) (text : String) (h : parsed ctx path buffered text = .error e) :
      ∃ cause, e = .build cause := by
    rw [parsed] at h
    split at h
    · cases h
      exact ⟨_, rfl⟩
    · cases h
  rw [taken] at h
  split at h
  · cases h
  · rw [loaded] at h
    split at h
    · exact .inr (hparsed true _ h)
    · split at h
      · cases h
        exact .inl ⟨_, _, rfl⟩
      · exact .inr (hparsed false _ h)

namespace Request

variable {c : Cache} {view : View} {q : Request} {o : Opening}

/-- **Every file is counted once.**  A pass that is not cancelled and whose top-level files can be
read reads no file twice.  Its files are the top-level ones and those that a file before them leads
to.  Its entry has the transactions of its files, one after another, and their counts added up.  It
has an entry unless one of its files has a text that is refused or a directive that cannot be
resolved. -/
theorem each_file_counted_once (hc : c.Reached) (hopened : q.opened c view = .ok (.inr o))
    (budget : Option Nat)
    (hcancelled : ∀ e, (q.ask c view budget).result = .error e → ¬e.IsCancelled)
    (hreadable : ∀ top ∈ o.tops, ∀ place cause,
      taken (c.context view) c.files top ≠ .error (.unreadable place cause))
    (hapart : (o.parts c view).Pairwise Snapshot.Apart) :
    (o.files c view).Nodup ∧ o.tops ⊆ o.files c view ∧
    (∀ before file after, o.files c view = before ++ file :: after →
      file ∈ o.tops ∨ ∃ source ∈ before, file ∈ next (c.context view) c.files source) ∧
    (q.ask c view budget).reads.Sublist (o.files c view) ∧
    ((∃ entry, (q.ask c view budget).result = .ok (entry, false) ∧
        entry.data.transactions = (o.parts c view).flatMap (·.transactions) ∧
        entry.data.AddsUp (o.parts c view)) ∨
      ∃ file ∈ o.files c view, ∃ e, (q.ask c view budget).result = .error e ∧
        o.Ends c view file e) := by
  have hexplored := o.explored c view budget
  have htops : o.tops ⊆ o.files c view := fun top htop =>
    List.mem_reverse.mpr (mem_exploreEach htop)
  have hled : ∀ before file after, o.files c view = before ++ file :: after →
      file ∈ o.tops ∨ ∃ source ∈ before, file ∈ next (c.context view) c.files source :=
    fun _ _ _ hfile => (o.found_files c view).led ((List.reverse_reverse _).trans hfile)
  refine ⟨o.nodup_files c view, htops, hled, ?_⟩
  rw [ask_of_opened hopened] at hcancelled ⊢
  cases hrun : outcome (Cache.visitAll (c.context view) o.tops) (o.pass c budget) with
  | mk result p =>
    rw [hrun] at hexplored
    have hreads : p.reads.Sublist (o.files c view) :=
      hexplored.tracks.reads.trans (List.reverse_prefix.mpr hexplored.suffix).sublist
    cases result with
    | error e =>
      rw [Cache.runPass_of_error c hrun] at hcancelled ⊢
      refine ⟨hreads, .inr ?_⟩
      obtain ⟨file, hfile, hblocks, hsingle⟩ :=
        (hexplored.error e rfl).resolve_left (hcancelled e rfl)
      refine ⟨file, List.mem_reverse.mpr (hexplored.suffix.subset hfile), e, rfl, ?_⟩
      cases hblocks with
      | directive hr ht hresolve => exact .directive hr ht hresolve hsingle
      | file htaken =>
        rcases unreadable_or_build_of_taken htaken with ⟨place, cause, rfl⟩ | ⟨cause, rfl⟩
        · exact absurd htaken (hreadable file (hsingle rfl) place cause)
        · exact .text htaken
    | ok _ =>
      rw [Cache.runPass_of_ok c hrun]
      have hsnapshots : p.snapshots = o.parts c view := by
        rw [hexplored.tracks.snapshots, hexplored.ok rfl]
        rfl
      have htext : ∀ s ∈ o.parts c view, ∃ options text, Snapshot.ofText options text = .ok s := by
        intro s hs
        obtain ⟨path, -, hpath⟩ := List.mem_filterMap.mp hs
        exact hc.keepsTexts.exists_text hpath
      refine ⟨hreads, .inl ⟨Cache.entryOf p, rfl, ?_⟩⟩
      rw [Cache.entryOf, hsnapshots]
      exact ⟨Snapshot.transactions_mergeAll_of_apart htext hapart,
        Snapshot.addsUp_mergeAll_of_apart htext hapart⟩

/-- Two journals that include each other, the first with one that cannot be decoded. -/
def tangled : View :=
  View.ofFiles 1000 [
    ("r", "2024-01-05\n a\ninclude a\ninclude b\n".toUTF8),
    ("a", "2024-01-06\n a\ninclude r\n".toUTF8),
    ("b", ⟨#[255]⟩)]

/-- The pass over the first of them. -/
def tangledOpening : Opening := .journal ⟨["r"]⟩

/-- Two journals that include each other count once each. -/
theorem each_file_counted_once_in_tangle :
    tangledOpening.files (.start .standard) tangled = [⟨["r"]⟩, ⟨["a"]⟩, ⟨["b"]⟩] ∧
    ∃ entry, ((journal ⟨.root, ["r"]⟩).ask (.start .standard) tangled none).result =
        .ok (entry, false) ∧
      entry.data.AddsUp (tangledOpening.parts (.start .standard) tangled) ∧
      entry.data.accountUsage.count "a" = 2 := by
  -- one evaluation for all that is needed of the disk
  have hfacts : tangledOpening.files (.start .standard) tangled =
        [⟨["r"]⟩, ⟨["a"]⟩, ⟨["b"]⟩] ∧
      (taken ((Cache.start .standard).context tangled) .empty ⟨["r"]⟩).isOk ∧
      (tangledOpening.parts (.start .standard) tangled).Pairwise Snapshot.Apart ∧
      ((journal ⟨.root, ["r"]⟩).ask (.start .standard) tangled none).result.map
        (fun answer => answer.1.data.accountUsage.count "a") = .ok 2 := by
    decide +kernel
  obtain ⟨hfiles, hroot, hapart, hcount⟩ := hfacts
  refine ⟨hfiles, ?_⟩
  cases hresult : ((journal ⟨.root, ["r"]⟩).ask (.start .standard) tangled none).result with
  | error e =>
    rw [hresult] at hcount
    cases hcount
  | ok answer =>
    rw [hresult] at hcount
    obtain ⟨-, -, -, -, ⟨entry, hentry, -, hsums⟩ | ⟨-, -, e, he, -⟩⟩ :=
      @each_file_counted_once (.start .standard) tangled (journal ⟨.root, ["r"]⟩) tangledOpening
        (.start .standard) rfl none (by rw [hresult]; exact nofun)
        (by
          rintro _ (_ | ⟨_, ⟨⟩⟩) place cause htaken
          rw [show (Cache.start .standard).files = .empty from rfl] at htaken
          rw [htaken] at hroot
          cases hroot)
        hapart
    · cases hresult.symm.trans hentry
      exact ⟨entry, rfl, hsums, Except.ok.inj hcount⟩
    · cases hresult.symm.trans he

/-- A journal with a transaction that includes a file which is not there. -/
def missing (name : String) : View :=
  View.ofFiles 1000 [("r", ("2024-01-05\n a\ninclude " ++ name ++ "\n").toUTF8)]

/-- **A missing file whose name cannot be looked up keeps a journal from its entry**, although the
journal can be read and nothing is cancelled.  With any other name, its transaction is counted. -/
theorem no_entry_for_missing_null_character :
    (journal ⟨.root, ["r"]⟩).opened (.start .standard) (missing "\x00") =
      .ok (.inr (.journal ⟨["r"]⟩)) ∧
    (taken ((Cache.start .standard).context (missing "\x00")) .empty ⟨["r"]⟩).isOk ∧
    ((journal ⟨.root, ["r"]⟩).ask (.start .standard) (missing "\x00") none).result.map
      (·.1.data.transactions.length) = .error (.nowhere .nullCharacter) ∧
    ((journal ⟨.root, ["r"]⟩).ask (.start .standard) (missing "x") none).result.map
      (·.1.data.transactions.length) = .ok 1 := by
  refine ⟨rfl, ?_⟩
  decide +kernel

end Request

end Daybook.Project
