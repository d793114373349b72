import Daybook.Proofs.Builder.Lines
import Daybook.Proofs.Project.History

/-!
# Requests are answered from the present

Through an orderly history, every entry of the cache is what a pass would have built in some world of
the past, with buffers that are still the same wherever the entry recorded a time.  When the recorded
times have not changed either, the same pass in the present world goes the same way, so the entry is
also what a new cache would build now.

* `Past`: what is known of the worlds of a history; `Past.sameAt`: where neither the time nor the buffer
  changed, a place is the same.
* `Kept`: whether all that is kept of files is what they amounted to in some world of the past.
* `Builds`: whether a pass from nothing comes to an entry.  `Builds.congr`: it does so in every
  context in which all recorded places are the same.
* `Remembered`: whether an entry was built in the past.
* `Faithful`: what holds of the cache; `Faithful.step`, `Faithful.last`: it does through a history.
* `Scene.get_eq_anew`: what a request for a journal comes to.
* `Scene.get_ne_anew_in_wildcard_directory`, `Scene.get_ne_anew_of_missingTime`,
  `Scene.get_ne_anew_over_new_year`: what it comes to otherwise, one history for each condition.
-/

namespace Daybook.Project

open PassM Cache

/-- What is known of the worlds of a history. -/
structure Past (s : Scene) (P : World → Prop) : Prop where
  wellFormed : ∀ w, P w → w.disk.WellFormed
  timed : ∀ w w', P w → P w' → Timed w.disk w'.disk
  alike : ∀ w w', P w → P w' → s.ReadsAlike w w'
  plain : ∀ w, P w → s.PlainWorld w

variable {s : Scene} {P : World → Prop} {w w₁ w₂ : World}

/-! ## Files -/

/-- What amounts to something is a file, or a buffer stands for it. -/
theorem isFile_or_buffered_of_loaded {ctx : PassContext} {path : Path} (hpath : path.Proper)
    {r : FileResult} (h : loaded ctx path = .ok r) :
    ctx.view.disk.isFile path ∨ (ctx.buffers.get? path).isSome := by
  rw [loaded] at h
  split at h
  · rename_i text hbuffer
    exact .inr (by rw [hbuffer]; rfl)
  · split at h
    · cases h
    · rename_i text htext
      exact .inl (Disk.isFile_of_readText hpath htext)

/-- The include directives of a file are those of its text. -/
theorem includes_of_loaded {path : Path} (hpath : path.Proper) {r : FileResult}
    (h : loaded (s.context w) path = .ok r) :
    ∃ text, r.includes = includeTargets text ∧ w.text? path = some text := by
  have hparsed {buffered : Bool} {text : String}
      (h : parsed (s.context w) path buffered text = .ok r) : r.includes = includeTargets text := by
    rw [parsed] at h
    split at h
    · cases h
    · cases h
      rfl
  rw [loaded] at h
  split at h
  · rename_i text hbuffer
    exact ⟨text, hparsed h, World.text?_of_buffer hbuffer⟩
  · rename_i hbuffer
    split at h
    · cases h
    · rename_i text htext
      exact ⟨text, hparsed h,
        World.text?_of_readText hbuffer (Disk.isFile_of_readText hpath htext) htext⟩

/-- What a file amounts to is a matter of its time, its buffer and its text. -/
theorem Past.loaded_eq (h : Past s P) (h₁ : P w₁) (h₂ : P w₂) {place : Path}
    (hmodified : w₁.disk.modified place = w₂.disk.modified place)
    (hbuffer : w₁.cache.buffers.get? place = w₂.cache.buffers.get? place)
    (hsome : w₁.disk.isFile place ∨ (w₁.cache.buffers.get? place).isSome) :
    loaded (s.context w₁) place = loaded (s.context w₂) place := by
  have hparsed (buffered : Bool) {text : String} (htext₁ : w₁.text? place = some text)
      (htext₂ : w₂.text? place = some text) :
      parsed (s.context w₁) place buffered text = parsed (s.context w₂) place buffered text := by
    have htime : (s.context w₁).view.disk.modified place =
        (s.context w₂).view.disk.modified place := hmodified
    rw [parsed, parsed, htime, h.alike w₁ w₂ h₁ h₂ place text htext₁ htext₂]
  cases hb : w₁.cache.buffers.get? place with
  | some text =>
    have hb₁ : (s.context w₁).buffers.get? place = some text := hb
    have hb₂ : (s.context w₂).buffers.get? place = some text := hbuffer.symm.trans hb
    rw [loaded_of_buffer hb₁, loaded_of_buffer hb₂,
      hparsed true (World.text?_of_buffer hb₁) (World.text?_of_buffer hb₂)]
  | none =>
    have hb₁ : (s.context w₁).buffers.get? place = none := hb
    have hb₂ : (s.context w₂).buffers.get? place = none := hbuffer.symm.trans hb
    have hfile : w₁.disk.isFile place := hsome.resolve_right (by
      rw [hb]
      exact Bool.false_ne_true)
    have hnode := h.timed w₁ w₂ h₁ h₂ place hfile hmodified.symm
    have hfile₂ : w₂.disk.isFile place := by
      rw [Disk.isFile, hnode]
      exact hfile
    have hread : w₂.disk.readText place = w₁.disk.readText place :=
      Disk.readText_congr (h.wellFormed w₁ h₁) (h.wellFormed w₂ h₂) (Disk.isSome_of_isFile hfile)
        hnode
    cases htext : w₁.disk.readText place with
    | error cause =>
      have htext₁ : (s.context w₁).view.disk.readText place = .error cause := htext
      have htext₂ : (s.context w₂).view.disk.readText place = .error cause := hread.trans htext
      rw [loaded_of_error hb₁ htext₁, loaded_of_error hb₂ htext₂]
    | ok text =>
      have htext₁ : (s.context w₁).view.disk.readText place = .ok text := htext
      have htext₂ : (s.context w₂).view.disk.readText place = .ok text := hread.trans htext
      rw [loaded_of_readText hb₁ htext₁, loaded_of_readText hb₂ htext₂,
        hparsed false (World.text?_of_readText hb₁ hfile htext₁)
          (World.text?_of_readText hb₂ hfile₂ htext₂)]

/-- Where neither the time nor the buffer changed, a place is the same. -/
theorem Past.sameAt (h : Past s P) (h₁ : P w₁) (h₂ : P w₂) {place : Path}
    (hmodified : w₁.disk.modified place = w₂.disk.modified place)
    (hbuffer : w₁.cache.buffers.get? place = w₂.cache.buffers.get? place) :
    SameAt (s.context w₁) (s.context w₂) place where
  modified := hmodified
  isFile := by
    show w₁.disk.isFile place = w₂.disk.isFile place
    rw [Bool.eq_iff_iff]
    constructor
    · intro hfile
      rw [Disk.isFile, h.timed w₁ w₂ h₁ h₂ place hfile hmodified.symm]
      exact hfile
    · intro hfile
      rw [Disk.isFile, h.timed w₂ w₁ h₂ h₁ place hfile hmodified]
      exact hfile
  loaded := h.loaded_eq h₁ h₂ hmodified hbuffer

/-- Passes in worlds of an orderly history can be compared. -/
theorem Past.comparable (h : Past s P) (h₁ : P w₁) (h₂ : P w₂) :
    Comparable (s.context w₁) (s.context w₂) where
  settings := rfl
  targets := by
    intro path r hpath hr t ht
    have htarget : (siteOf (s.context w₁) path).Plain t.pattern := by
      obtain ⟨text, hincludes, htext⟩ := includes_of_loaded hpath hr
      rw [hincludes] at ht
      exact h.plain w₁ h₁ path text htext t ht
    rcases htarget.resolve with ⟨e, herror⟩ | ⟨place, hwatch, hresolve⟩
    · have herror₁ := herror w₁.disk (h.wellFormed w₁ h₁)
      have herror₂ := herror w₂.disk (h.wellFormed w₂ h₂)
      exact
        { error := fun e' he' => (herror₂.trans herror₁.symm).trans he'
          ok := fun files _ hfiles => nomatch herror₁.symm.trans hfiles }
    · have hresolve₁ := hresolve w₁.disk (h.wellFormed w₁ h₁)
      have hresolve₂ := hresolve w₂.disk (h.wellFormed w₂ h₂)
      refine
        { error := fun e' he' => nomatch hresolve₁.symm.trans he'
          ok := fun files place' hfiles hplace hsame => ?_ }
      cases hwatch.symm.trans hplace
      have hisFile : w₁.disk.isFile place = w₂.disk.isFile place := hsame.isFile
      rw [← hisFile] at hresolve₂
      refine ⟨(hresolve₂.trans hresolve₁.symm).trans hfiles, hwatch, fun file hfile => ?_⟩
      cases hresolve₁.symm.trans hfiles
      split at hfile
      · rename_i hplaceFile
        cases List.mem_singleton.mp hfile
        exact hsame.loaded (.inl hplaceFile)
      · cases hfile

/-! ## What is kept of files -/

/-- Whether all that is kept of files is what they amounted to in some world of the past, where the same
buffers stood for them. -/
def Kept (P : World → Prop) (s : Scene) (buffers : Table Path String)
    (files : Table Path FileResult) : Prop :=
  ∀ ⦃path r⦄, files.get? path = some r → path.Proper ∧
    ∃ w, P w ∧ w.cache.buffers.get? path = buffers.get? path ∧ loaded (s.context w) path = .ok r

/-- What is kept and still holds is what a file amounts to now. -/
theorem Kept.known (hpast : Past s P) (hw : P w) {files : Table Path FileResult}
    (h : Kept P s w.cache.buffers files) : Known (s.context w) files := by
  intro path r hget hcurrent
  obtain ⟨hpath, w₀, h₀, hbuffer, hr⟩ := h hget
  rw [FileResult.isCurrent, Bool.and_eq_true, beq_iff_eq] at hcurrent
  have hmodified : w₀.disk.modified path = w.disk.modified path :=
    (modified_of_loaded hr).symm.trans hcurrent.1
  rw [← hpast.loaded_eq h₀ hw hmodified hbuffer (isFile_or_buffered_of_loaded hpath hr)]
  exact hr

/-- What a pass keeps is what files amount to in the present world. -/
theorem stable_kept (hw : P w) :
    Stable (s.context w) fun _ files _ => Kept P s w.cache.buffers files where
  keep hpath hr h := by
    intro path' r' hget
    rw [Table.insert, Table.get?_alter] at hget
    split at hget
    · rename_i hpath'
      rw [hpath', ← Option.some.inj hget]
      exact ⟨hpath, w, hw, rfl, hr⟩
    · exact h hget
  start _ h := h
  watch _ h := h

/-! ## Entries -/

/-- Whether a pass from nothing comes to an entry. -/
def Builds (ctx : PassContext) (root : Path) (entry : Entry) : Prop :=
  ∃ p, outcome (visit ctx ctx.settings.maxIncludeDepth [] root)
    ((anew ctx.settings ctx.buffers).startPass root none) = (.ok (), p) ∧ entryOf p = entry

/-- A visit starts on its file, and what follows keeps the recorded times. -/
theorem exists_visit_eq (ctx : PassContext) (n : Nat) (chain : List Path) (path : Path) :
    ∃ rest : FileResult → PassM Unit, visit ctx n chain path = (enter ctx path >>= rest) ∧
      ∀ r, Grows (rest r) := by
  cases n with
  | zero =>
    refine ⟨_, rfl, fun r place => ?_⟩
    cases r.includes with
    | nil => exact fun _ hp => hp
    | cons first rest => exact leaves_warnAt path first.line _
  | succ n =>
    refine ⟨_, rfl, fun r place => Leaves.forM fun t _ => ?_⟩
    exact (stable_contains ctx place).followInclude
      (fun target htarget => grows_visit ctx n (path :: chain) htarget place) _ path t

/-- A visit that comes to its end has started on its file and recorded its time. -/
theorem of_visit {ctx : PassContext} {n : Nat} {chain : List Path} {path : Path} {p p' : Pass}
    (hfiles : Known ctx p.files) (h : outcome (visit ctx n chain path) p = (.ok (), p')) :
    (∃ r, loaded ctx path = .ok r) ∧ p'.times.contains path := by
  obtain ⟨rest, hvisit, hgrows⟩ := exists_visit_eq ctx n chain path
  rw [hvisit] at h
  cases hrun : outcome (enter ctx path) p with
  | mk result p₁ =>
    cases result with
    | error e =>
      rw [outcome_bind_of_error hrun] at h
      cases h
    | ok r =>
      obtain ⟨hr, hcontains⟩ := of_enter hfiles (congrArg Prod.fst hrun)
      have hlast := hgrows r path p₁ (by rw [hrun] at hcontains; exact hcontains)
      rw [outcome_bind_of_ok hrun] at h
      rw [h] at hlast
      exact ⟨⟨r, hr⟩, hlast⟩

namespace Builds

variable {ctx ctx₁ ctx₂ : PassContext} {root : Path} {entry : Entry}

/-- The times of an entry are those on the disk. -/
theorem modified_eq (h : Builds ctx root entry) (hroot : root.Proper) {place : Path} {time : Int}
    (htime : entry.times.get? place = some time) : ctx.view.disk.modified place = time := by
  obtain ⟨p, hrun, rfl⟩ := h
  have htimes := (stable_times ctx).visit ctx.settings.maxIncludeDepth [] hroot
    ((anew ctx.settings ctx.buffers).startPass root none) nofun
  rw [hrun] at htimes
  exact htimes htime

/-- **An entry is built again** wherever all places that it recorded are the same. -/
theorem congr (h : Builds ctx₁ root entry) (hroot : root.Proper) (hctx : Comparable ctx₁ ctx₂)
    (hsame : ∀ place, entry.times.contains place → SameAt ctx₁ ctx₂ place) :
    Builds ctx₂ root entry := by
  obtain ⟨p, hrun, rfl⟩ := h
  obtain ⟨⟨r, hr⟩, hcontains⟩ := of_visit (known_empty ctx₁) hrun
  have hloaded : loaded ctx₁ root = loaded ctx₂ root :=
    (hsame root hcontains).loaded (isFile_or_buffered_of_loaded hroot hr)
  have hstart : Parallel False ctx₁ ctx₂ ((anew ctx₁.settings ctx₁.buffers).startPass root none)
      ((anew ctx₂.settings ctx₂.buffers).startPass root none) :=
    ⟨fun h => h rfl, rfl, known_empty ctx₁, known_empty ctx₂, rfl, rfl, rfl, rfl, rfl⟩
  have hfollows := hctx.follows_visit ctx₁.settings.maxIncludeDepth [] hroot hloaded _ _ hstart
  rw [hrun] at hfollows
  rcases hfollows hsame with ⟨hfalse, -⟩ | ⟨p₂, hrun₂, hp⟩
  · exact hfalse.elim
  · refine ⟨p₂, hctx.settings ▸ hrun₂, ?_⟩
    rw [entryOf, entryOf, hp.root, hp.snapshots, hp.times, hp.warnings]

end Builds

/-- Of two passes in the same context, which differ in what is kept of files, the one with a budget
is cancelled, or both come to the same. -/
theorem visit_of_known {ctx : PassContext} {c : Cache} (hfiles : Known ctx c.files) (c' : Cache)
    (hfiles' : Known ctx c'.files) {n : Nat} {root : Path} (hroot : root.Proper)
    {budget : Option Nat} {result : Except ProjectError Unit} {p : Pass}
    (hrun : outcome (visit ctx n [] root) (c.startPass root budget) = (result, p)) :
    (budget ≠ none ∧ ∃ root' files, result = .error (.cancelled root' files)) ∨
    ∃ p', outcome (visit ctx n [] root) (c'.startPass root none) = (result, p') ∧
      entryOf p' = entryOf p := by
  have hstart : Parallel (budget ≠ none) ctx ctx (c.startPass root budget)
      (c'.startPass root none) :=
    ⟨fun h => h, rfl, hfiles, hfiles', rfl, rfl, rfl, rfl, rfl⟩
  have hfollows := (Comparable.refl ctx).follows_visit n [] hroot rfl _ _ hstart
    fun place _ => SameAt.refl ctx place
  rw [hrun] at hfollows
  refine hfollows.imp_right ?_
  rintro ⟨p', hrun', hp⟩
  refine ⟨p', hrun', ?_⟩
  rw [entryOf, entryOf, hp.root, hp.snapshots, hp.times, hp.warnings]

/-- Whether an entry was built in some world of the past, with buffers that are the same now wherever
the entry recorded a time. -/
def Remembered (P : World → Prop) (s : Scene) (buffers : Table Path String) (root : Path)
    (entry : Entry) : Prop :=
  ∃ w, P w ∧ root.Proper ∧
    (∀ place, entry.times.contains place → w.cache.buffers.get? place = buffers.get? place) ∧
    Builds (s.context w) root entry

/-- **An entry whose times still hold is what is built now.** -/
theorem Remembered.builds (hpast : Past s P) (hw : P w) {root : Path} {entry : Entry}
    (h : Remembered P s w.cache.buffers root entry) (hstale : isStale (s.view w) entry = false) :
    Builds (s.context w) root entry := by
  obtain ⟨w₀, h₀, hroot, hbuffers, hbuilds⟩ := h
  refine hbuilds.congr hroot (hpast.comparable h₀ hw) fun place hplace => ?_
  obtain ⟨time, htime⟩ := Option.isSome_iff_exists.mp hplace
  have hnow : w.disk.modified place = time := by
    have hentry := List.any_eq_false.mp hstale (place, time) (Table.mem_of_find_eq_some htime)
    rw [bne_iff_ne, not_not] at hentry
    exact hentry
  exact hpast.sameAt h₀ hw ((hbuilds.modified_eq hroot htime).trans hnow.symm)
    (hbuffers place hplace)

/-! ## The cache -/

/-- What holds of a cache through an orderly history. -/
structure Faithful (P : World → Prop) (s : Scene) (w : World) : Prop where
  settings : w.cache.settings = s.settings
  inUse : w.cache.disposed = false
  files : Kept P s w.cache.buffers w.cache.files
  /-- An entry of something that is not a directory was built in the past. -/
  entries : ∀ e ∈ w.cache.entries.entries,
    w.disk.isDirectory e.1 ∨ Remembered P s w.cache.buffers e.1 e.2

theorem faithful_start (P : World → Prop) (s : Scene) (disk : Disk) (today : Calendar.Date) :
    Faithful P s (s.start disk today) :=
  ⟨rfl, rfl, nofun, nofun⟩

namespace Faithful

theorem context_eq (h : Faithful P s w) : w.cache.context (s.view w) = s.context w := by
  rw [Cache.context, h.settings]
  rfl

/-- A change of the disk that leaves all directories. -/
theorem changeDisk (h : Faithful P s w) {disk : Disk} (hdisk : w.disk.Succeeds disk) :
    Faithful P s { w with disk } where
  settings := h.settings
  inUse := h.inUse
  files := h.files
  entries e he := (h.entries e he).imp_left (hdisk.directories e.1)

/-- A pass that keeps what files amount to, and whose entry is that of a directory or one that a
pass from nothing comes to. -/
theorem runPass (h : Faithful P s w) {pass : Pass} {steps : PassM Unit}
    (hfiles : Kept P s w.cache.buffers (outcome steps pass).2.files)
    (hentry : ∀ p, outcome steps pass = (.ok (), p) →
      w.disk.isDirectory p.root ∨ Remembered P s w.cache.buffers p.root (entryOf p)) :
    Faithful P s { w with cache := (w.cache.runPass pass steps).cache } := by
  cases hrun : outcome steps pass with
  | mk result p =>
    rw [hrun] at hfiles
    cases result with
    | error e =>
      rw [runPass_of_error w.cache hrun]
      exact ⟨h.settings, h.inUse, hfiles, h.entries⟩
    | ok _ =>
      rw [runPass_of_ok w.cache hrun]
      refine ⟨h.settings, h.inUse, hfiles, fun e he => ?_⟩
      rcases Table.mem_entries_of_mem_insert he with he | rfl
      · exact h.entries e he
      · exact hentry p hrun

/-- A request for the entry of a journal. -/
theorem getAt (h : Faithful P s w) (hpast : Past s P) (hw : P w) {root : Path}
    (hroot : root.Proper) (budget : Option Nat) :
    Faithful P s { w with cache := (w.cache.getAt (s.view w) budget root).cache } := by
  cases hcurrent : w.cache.current? (s.view w) root with
  | some entry =>
    rw [Cache.getAt, hcurrent]
    exact h
  | none =>
    rw [getAt_of_stale hcurrent, h.context_eq, h.settings]
    refine h.runPass ((stable_kept hw).visit _ _ hroot _ h.files) fun p hrun => .inr ?_
    have hplace : p.root = root := ((stable_root _ root).visit _ _ hroot).of_outcome hrun rfl
    rcases visit_of_known (h.files.known hpast hw) (anew s.settings w.cache.buffers)
      (known_empty _) hroot hrun with ⟨-, _, _, hcancelled⟩ | ⟨p', hrun', hentry⟩
    · cases hcancelled
    · rw [hplace]
      exact ⟨w, hw, hroot, fun _ _ => rfl, p', hrun', hentry⟩

/-- A request for the entry of a directory. -/
theorem workspaceAt (h : Faithful P s w) (hpast : Past s P) (hw : P w) {base : Path}
    (hbase : w.disk.isDirectory base) (budget : Option Nat) :
    Faithful P s { w with cache := (w.cache.workspaceAt (s.view w) budget base).cache } := by
  cases hcurrent : w.cache.current? (s.view w) base with
  | some entry =>
    rw [Cache.workspaceAt, hcurrent]
    exact h
  | none =>
    rw [Cache.workspaceAt, hcurrent]
    dsimp only
    have hjournals : ∀ path ∈ w.cache.scanAt w.disk base, path.Proper := by
      intro path hpath
      obtain ⟨directory, -, hpath⟩ := List.mem_flatMap.mp hpath
      obtain ⟨name, hname, rfl⟩ := List.mem_map.mp hpath
      obtain ⟨e, he, hname⟩ := List.mem_filterMap.mp (List.mem_mergeSort.mp hname)
      split at hname
      · cases hname
        exact (hpast.wellFormed w hw).proper_child he
      · cases hname
    rw [h.context_eq]
    refine h.runPass ((stable_kept hw).visitAll hjournals _ h.files) fun p hrun => .inl ?_
    have hplace : p.root = base :=
      ((stable_root _ base).visitAll hjournals).of_outcome hrun rfl
    rw [hplace]
    exact hbase

/-- Buffers that change at one place only, where what was kept is forgotten, as well as all entries
that depend on it. -/
theorem rebuffer (h : Faithful P s w) {place : Path} {c : Cache}
    (hsettings : c.settings = w.cache.settings) (hinUse : c.disposed = w.cache.disposed)
    (hbuffers : ∀ path, path ≠ place → c.buffers.get? path = w.cache.buffers.get? path)
    (hfiles : c.files = w.cache.files.erase place)
    (hentries : ∀ e ∈ c.entries.entries,
      e ∈ w.cache.entries.entries ∧ e.2.times.contains place = false) :
    Faithful P s { w with cache := c } where
  settings := hsettings.trans h.settings
  inUse := hinUse.trans h.inUse
  files := by
    intro path r hget
    rw [hfiles, Table.get?_erase] at hget
    split at hget
    · cases hget
    · rename_i hpath
      obtain ⟨hproper, w₀, h₀, hbuffer, hr⟩ := h.files hget
      exact ⟨hproper, w₀, h₀, hbuffer.trans (hbuffers path hpath).symm, hr⟩
  entries e he := by
    obtain ⟨hmem, hnot⟩ := hentries e he
    refine (h.entries e hmem).imp_right ?_
    rintro ⟨w₀, h₀, hroot, hsame, hbuilds⟩
    refine ⟨w₀, h₀, hroot, fun path hpath => ?_, hbuilds⟩
    have hne : path ≠ place := by
      rintro rfl
      rw [hnot] at hpath
      cases hpath
    exact (hsame path hpath).trans (hbuffers path hne).symm

theorem updateTextAt (h : Faithful P s w) (place : Path) (text : String) :
    Faithful P s { w with cache := w.cache.updateTextAt place text } := by
  refine h.rebuffer rfl rfl (fun path hpath => ?_) rfl fun e he => ?_
  · exact Table.get?_alter_of_ne _ (Ne.symm hpath) _
  · obtain ⟨hmem, hkeep⟩ := List.mem_filter.mp he
    simp only [Bool.not_eq_true', Bool.or_eq_false_iff] at hkeep
    exact ⟨hmem, hkeep.1⟩

theorem invalidateAt (h : Faithful P s w) (place : Path) :
    Faithful P s { w with cache := w.cache.invalidateAt place } := by
  refine h.rebuffer rfl rfl (fun path hpath => ?_) rfl fun e he => ?_
  · exact (Table.get?_erase _ place path).trans (if_neg hpath)
  · obtain ⟨hmem, hkeep⟩ := List.mem_filter.mp he
    simp only [Bool.not_eq_true', Bool.or_eq_false_iff] at hkeep
    exact ⟨(List.mem_filter.mp hmem).1, hkeep.1⟩

/-- **An event** keeps the cache faithful. -/
theorem step (h : Faithful P s w) (hs : s.surroundings.Proper) (hpast : Past s P)
    (hw : P w) (e : Event) : Faithful P s (s.step w e) := by
  cases e with
  | write time path bytes modified =>
    exact h.changeDisk (Scene.succeeds_step hs (hpast.wellFormed w hw)
      (.write time path bytes modified))
  | delete time path =>
    exact h.changeDisk (Scene.succeeds_step hs (hpast.wellFormed w hw) (.delete time path))
  | day today => exact ⟨h.settings, h.inUse, h.files, h.entries⟩
  | get budget path =>
    rw [Scene.step, Cache.get]
    cases hplace : s.surroundings.resolve path with
    | error e =>
      rw [placeOf_of_error h.inUse (s.view w) hplace]
      exact h
    | ok root =>
      rw [placeOf_of_ok h.inUse (s.view w) hplace]
      exact h.getAt hpast hw (hs.of_resolve hplace).1 budget
  | workspace budget path =>
    rw [Scene.step, Cache.workspace]
    cases hplace : s.surroundings.resolve path with
    | error e =>
      rw [placeOf_of_error h.inUse (s.view w) hplace]
      exact h
    | ok base =>
      rw [placeOf_of_ok h.inUse (s.view w) hplace]
      dsimp only
      split
      · exact h
      · exact h
      · rename_i hholds
        exact h.workspaceAt hpast hw
          (Disk.isDirectory_of_holdsDirectory (hs.of_resolve hplace).1 hholds) budget
  | updateText path text =>
    rw [Scene.step, Cache.updateText]
    cases hplace : s.surroundings.resolve path with
    | error e =>
      rw [placeOf_of_error h.inUse (s.view w) hplace]
      exact h
    | ok place =>
      rw [placeOf_of_ok h.inUse (s.view w) hplace]
      exact h.updateTextAt place text
  | invalidate path =>
    rw [Scene.step, Cache.invalidate]
    cases hplace : s.surroundings.resolve path with
    | error e => exact h
    | ok place => exact h.invalidateAt place
  | invalidateAll => exact ⟨h.settings, h.inUse, nofun, nofun⟩

/-- **A history** keeps the cache faithful. -/
theorem last (hs : s.surroundings.Proper) (hpast : Past s P) {events : List Event}
    (h : Faithful P s w) (hworlds : ∀ w' ∈ s.worlds w events, P w') :
    Faithful P s (s.last w events) := by
  induction events generalizing w with
  | nil => exact h
  | cons e rest ih =>
    exact ih (h.step hs hpast (hworlds w List.mem_cons_self) e) fun w' hw' =>
      hworlds w' (List.mem_cons_of_mem w hw')

/-- A request for the entry of a journal that is not a directory. -/
theorem getAt_eq_anew (h : Faithful P s w) (hpast : Past s P) (hw : P w) {root : Path}
    (hroot : root.Proper) (hfile : w.disk.isDirectory root = false) :
    (w.cache.getAt (s.view w) none root).result.map (·.1) =
      ((anew s.settings w.cache.buffers).getAt (s.view w) none root).result.map (·.1) := by
  have hanew : (anew s.settings w.cache.buffers).getAt (s.view w) none root =
      (anew s.settings w.cache.buffers).runPass
        ((anew s.settings w.cache.buffers).startPass root none)
        (visit (s.context w) s.settings.maxIncludeDepth [] root) :=
    getAt_of_stale rfl none
  cases hcurrent : w.cache.current? (s.view w) root with
  | some entry =>
    obtain ⟨hget, hstale⟩ := Option.filter_eq_some_iff.mp hcurrent
    rw [Bool.not_eq_true'] at hstale
    have hremembered := (h.entries _ (Table.mem_of_find_eq_some hget)).resolve_left (by
      rw [hfile]
      exact Bool.false_ne_true)
    obtain ⟨p, hrun, hentry⟩ : Builds (s.context w) root entry :=
      hremembered.builds hpast hw hstale
    have hresult : ((anew s.settings w.cache.buffers).getAt (s.view w) none root).result =
        .ok (entry, false) := by
      rw [← hentry]
      exact congrArg Answer.result (hanew.trans (runPass_of_ok _ hrun))
    rw [hresult, Cache.getAt, hcurrent]
    rfl
  | none =>
    rw [hanew, getAt_of_stale hcurrent, h.context_eq, h.settings]
    cases hrun : outcome (visit (s.context w) s.settings.maxIncludeDepth []
        root) (w.cache.startPass root none) with
    | mk result p =>
      rcases visit_of_known (h.files.known hpast hw) (anew s.settings w.cache.buffers)
        (known_empty _) hroot hrun with ⟨hnone, -⟩ | ⟨p', hrun', hentry⟩
      · exact absurd rfl hnone
      · cases result with
        | error e =>
          rw [runPass_of_error _ hrun, runPass_of_error _ hrun']
        | ok _ =>
          rw [runPass_of_ok _ hrun, runPass_of_ok _ hrun', hentry]

end Faithful

/-- **Requests are answered from the present**: after an orderly history, a request for a journal
that is not a directory comes to what it comes to with a new cache that has the same settings and
buffers, be it an entry or an error. -/
theorem Scene.get_eq_anew {s : Scene} {disk : Disk} {today : Calendar.Date} {events : List Event}
    (h : s.Orderly disk today events) {w : World} (hw : s.last (s.start disk today) events = w)
    (path : WrittenPath)
    (hpath : ∀ root, s.surroundings.resolve path = .ok root → w.disk.isDirectory root = false) :
    (w.cache.get (s.view w) none path).result.map (·.1) =
      ((anew s.settings w.cache.buffers).get (s.view w) none path).result.map (·.1) := by
  have hmem : w ∈ s.worlds (s.start disk today) events := hw ▸ s.last_mem_worlds _ _
  have hpast : Past s (· ∈ s.worlds (s.start disk today) events) :=
    { wellFormed := fun w hw => wellFormed_of_mem_worlds h.surroundings h.wellFormed hw
      timed := fun w w' hw hw' => h.timed w hw w' hw'
      alike := fun w w' hw hw' => h.alike w hw w' hw'
      plain := h.plain }
  have hfaithful := Faithful.last h.surroundings hpast (faithful_start _ s disk today)
    fun w' hw' => hw'
  rw [hw] at hfaithful
  rw [Cache.get, Cache.get, placeOf_eq hfaithful.inUse, placeOf_eq rfl]
  cases hplace : s.surroundings.resolve path with
  | error e => simp only [view, hplace]
  | ok root =>
    simp only [view, hplace]
    exact hfaithful.getAt_eq_anew hpast hmem (h.surroundings.of_resolve hplace).1
      (hpath root hplace)

/-! ## Histories at the root of a disk -/

/-- A scene at the root of a disk. -/
def rootScene : Scene where
  settings := .standard
  surroundings := ⟨.root, "/", .empty⟩

/-- The last day of the year 2024. -/
def newYearsEve : Calendar.Date :=
  ⟨2024, 12, 31, by decide⟩

/-- A disk with a journal in a directory, which includes another one that is missing. -/
def missingInclude (directory : String) : Disk :=
  ⟨⟨[(⟨[]⟩, ⟨.directory, 1000⟩), (⟨[directory]⟩, ⟨.directory, 1000⟩),
    (⟨[directory, "main"]⟩, ⟨.file "include extra\n".toUTF8, 1000⟩)]⟩⟩

/-- The journal is asked for, the last day of the year comes, and then the missing journal is written and
given a time. -/
def createdLate (directory : String) (time : Int) : List Event :=
  [.get none ⟨.root, [directory, "main"]⟩, .day newYearsEve,
    .write 1001 ⟨.root, [directory, "extra"]⟩ "payee P\n".toUTF8 (some time)]

/-- The worlds of a history at the root, which starts on the first day of that year. -/
def rootWorlds (disk : Disk) (events : List Event) : List World :=
  rootScene.worlds (rootScene.start disk newYearsEve.yearStart) events

/-- The last of these worlds. -/
def rootLast (disk : Disk) (events : List Event) : World :=
  rootScene.last (rootScene.start disk newYearsEve.yearStart) events

/-- What a request for a journal comes to at the root of a world. -/
def askedOf (w : World) (path : List String) : Except ProjectError Entry :=
  (w.cache.get (rootScene.view w) none ⟨.root, path⟩).result.map (·.1)

/-- What it comes to with a new cache. -/
def askedAnew (w : World) (path : List String) : Except ProjectError Entry :=
  ((anew rootScene.settings w.cache.buffers).get (rootScene.view w) none ⟨.root, path⟩).result.map
    (·.1)

/-- Worlds read alike in which the year is the same. -/
theorem readsAlike_rootWorlds {disk : Disk} {events : List Event}
    (h : ∀ w ∈ rootWorlds disk events, w.today.year = 2024) :
    ∀ w ∈ rootWorlds disk events, ∀ w' ∈ rootWorlds disk events, rootScene.ReadsAlike w w' :=
  fun w hw w' hw' => rootScene.readsAlike_of_year ((h w hw).trans (h w' hw').symm)

/-- An included file that is written late is picked up. -/
theorem Scene.get_eq_anew_of_created_include :
    rootScene.Orderly (missingInclude "books") newYearsEve.yearStart (createdLate "books" 1001) ∧
      askedOf (rootLast (missingInclude "books") (createdLate "books" 1001)) ["books", "main"] =
        askedAnew (rootLast (missingInclude "books") (createdLate "books" 1001))
          ["books", "main"] ∧
      (askedOf (rootLast (missingInclude "books") (createdLate "books" 1001))
        ["books", "main"]).map (·.data.payees) = .ok ["P"] := by
  have horderly : rootScene.Orderly (missingInclude "books") newYearsEve.yearStart
      (createdLate "books" 1001) :=
    { surroundings := ⟨by decide, by decide⟩
      wellFormed := by decide +kernel
      timed := by decide +kernel
      alike := readsAlike_rootWorlds (by decide +kernel)
      plain := by decide +kernel }
  have hfile : ∀ root, rootScene.surroundings.resolve ⟨.root, ["books", "main"]⟩ = .ok root →
      (rootLast (missingInclude "books") (createdLate "books" 1001)).disk.isDirectory root =
        false := by
    rintro _ ⟨⟩
    decide +kernel
  exact ⟨horderly, get_eq_anew horderly rfl _ hfile, by decide +kernel⟩

/-- **A wildcard in the name of a directory hides what happens in it.**  The target is plain and times
tell files apart, but the directory in front of the wildcard is watched instead of the target, so the
entry from before the file was written is given out again. -/
theorem Scene.get_ne_anew_in_wildcard_directory :
    (missingInclude "a*").WellFormed ∧
      (∀ w ∈ rootWorlds (missingInclude "a*") (createdLate "a*" 1001),
        ∀ w' ∈ rootWorlds (missingInclude "a*") (createdLate "a*" 1001),
          Timed w.disk w'.disk ∧ rootScene.ReadsAlike w w') ∧
      hasWildcard "extra" = false ∧
      (askedOf (rootLast (missingInclude "a*") (createdLate "a*" 1001)) ["a*", "main"]).map
        (·.data.payees) = .ok [] ∧
      (askedAnew (rootLast (missingInclude "a*") (createdLate "a*" 1001)) ["a*", "main"]).map
        (·.data.payees) = .ok ["P"] := by
  have htimed : ∀ w ∈ rootWorlds (missingInclude "a*") (createdLate "a*" 1001),
      ∀ w' ∈ rootWorlds (missingInclude "a*") (createdLate "a*" 1001), Timed w.disk w'.disk := by
    decide +kernel
  have hyear : ∀ w ∈ rootWorlds (missingInclude "a*") (createdLate "a*" 1001),
      w.today.year = 2024 := by
    decide +kernel
  refine ⟨by decide +kernel, fun w hw w' hw' =>
    ⟨htimed w hw w' hw', readsAlike_rootWorlds hyear w hw w' hw'⟩, ?_⟩
  refine ⟨by decide, ?_, ?_⟩
  · decide +kernel
  · decide +kernel

/-- **A file with the time of a missing one is not noticed.**  All else is in order: the target is plain,
and the file has a time that it never had before. -/
theorem Scene.get_ne_anew_of_missingTime :
    (missingInclude "books").WellFormed ∧
      (∀ w ∈ rootWorlds (missingInclude "books") (createdLate "books" Disk.missingTime),
        rootScene.PlainWorld w) ∧
      (∀ w ∈ rootWorlds (missingInclude "books") (createdLate "books" Disk.missingTime),
        ∀ w' ∈ rootWorlds (missingInclude "books") (createdLate "books" Disk.missingTime),
          rootScene.ReadsAlike w w') ∧
      (askedOf (rootLast (missingInclude "books") (createdLate "books" Disk.missingTime))
        ["books", "main"]).map (·.data.payees) = .ok [] ∧
      (askedAnew (rootLast (missingInclude "books") (createdLate "books" Disk.missingTime))
        ["books", "main"]).map (·.data.payees) = .ok ["P"] := by
  refine ⟨?_, ?_, readsAlike_rootWorlds ?_, ?_, ?_⟩
  · decide +kernel
  · decide +kernel
  · decide +kernel
  · decide +kernel
  · decide +kernel

/-- A disk with a journal that leaves the year to the day on which it is read. -/
def yearless : Disk :=
  ⟨⟨[(⟨[]⟩, ⟨.directory, 1000⟩), (⟨["main"]⟩, ⟨.file "12-31 x\n a\n".toUTF8, 1000⟩)]⟩⟩

/-- The journal is asked for, and then a year begins. -/
def overNewYear : List Event :=
  [.get none ⟨.root, ["main"]⟩, .day ⟨2025, 1, 1, by decide⟩]

/-- **A date without a year keeps the year in which it was read.**  All else is in order: nothing is
written, and there are no include targets. -/
theorem Scene.get_ne_anew_over_new_year :
    yearless.WellFormed ∧
      (∀ w ∈ rootWorlds yearless overNewYear, rootScene.PlainWorld w) ∧
      (∀ w ∈ rootWorlds yearless overNewYear, ∀ w' ∈ rootWorlds yearless overNewYear,
        Timed w.disk w'.disk) ∧
      (askedOf (rootLast yearless overNewYear) ["main"]).map (·.data.lastDate) =
        .ok (some ⟨2024, 12, 31, by decide⟩) ∧
      (askedAnew (rootLast yearless overNewYear) ["main"]).map (·.data.lastDate) =
        .ok (some ⟨2025, 12, 31, by decide⟩) := by
  refine ⟨?_, ?_, ?_, ?_, ?_⟩
  · decide +kernel
  · decide +kernel
  · decide +kernel
  · decide +kernel
  · decide +kernel

end Daybook.Project
