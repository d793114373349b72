import Daybook.Proofs.Project.Parallel

/-!
# Histories of a disk and a cache

A history is a list of events: files are written and deleted, days come, and the cache of one project is
asked for entries, given unsaved buffers and made to forget.  The disk changes behind the back of the
cache, so all that it has to go by are the times of the places that it recorded.

* `Scene`: what stays the same; `World`: a disk, a day and a cache; `Event`, `Scene.step`.
* `Scene.worlds`: the worlds that a history comes by.
* `World.text?`: the text at a place, that of a buffer or that on the disk.
* `Timed`: whether a time tells the file that was at a place from what is there on another disk.
* `Scene.ReadsAlike`: whether texts that stayed amount to the same in two worlds, as they do in a year
  (`Scene.readsAlike_of_year`).
* `PlainText`, `Scene.PlainWorld`: whether all include targets are plain.
* `Scene.Orderly`: a history in which times tell files apart, texts that stayed amount to the same, and
  all include targets are plain.
* `Scene.wellFormed_of_mem_worlds`: the disk stays well-formed.
-/

namespace Daybook.Project

open Calendar

/-- What stays the same while a disk and a cache change. -/
structure Scene where
  settings : Settings
  surroundings : Surroundings

/-- A disk, the present day and the cache of a project on the disk. -/
structure World where
  disk : Disk
  today : Date
  cache : Cache

/-- What happens to a disk or a cache, or in the outside world. -/
inductive Event where
  /-- A file is written, whose time of change can be given. -/
  | write (time : Int) (path : WrittenPath) (bytes : ByteArray) (modified : Option Int)
  | delete (time : Int) (path : WrittenPath)
  /-- Another day comes. -/
  | day (today : Date)
  /-- The entry of a journal is asked for.  The request may be cancelled after some files. -/
  | get (budget : Option Nat) (path : WrittenPath)
  /-- The entry of a directory is asked for. -/
  | workspace (budget : Option Nat) (path : WrittenPath)
  | updateText (path : WrittenPath) (text : String)
  | invalidate (path : WrittenPath)
  | invalidateAll

namespace Scene

/-- The world in which a cache is new. -/
def start (s : Scene) (disk : Disk) (today : Date) : World :=
  ⟨disk, today, .start s.settings⟩

/-- What is seen of a world. -/
def view (s : Scene) (w : World) : View :=
  ⟨w.disk, s.surroundings, w.today⟩

/-- What governs a pass in a world. -/
def context (s : Scene) (w : World) : PassContext :=
  ⟨s.view w, s.settings, w.cache.buffers⟩

/-- The disk after a change, which stays as it is if the change fails. -/
def changed (s : Scene) (disk : Disk) (path : WrittenPath)
    (change : Path → Except DiskError Disk) : Disk :=
  match s.surroundings.resolve path with
  | .error _ => disk
  | .ok place => (change place).toOption.getD disk

/-- The world after an event. -/
def step (s : Scene) (w : World) : Event → World
  | .write time path bytes modified =>
    { w with disk := s.changed w.disk path fun p => w.disk.write time p bytes modified }
  | .delete time path => { w with disk := s.changed w.disk path (w.disk.delete time) }
  | .day today => { w with today }
  | .get budget path => { w with cache := (w.cache.get (s.view w) budget path).cache }
  | .workspace budget path => { w with cache := (w.cache.workspace (s.view w) budget path).cache }
  | .updateText path text =>
    { w with cache := (w.cache.updateText (s.view w) path text).toOption.getD w.cache }
  | .invalidate path =>
    { w with cache := (w.cache.invalidate s.surroundings path).toOption.getD w.cache }
  | .invalidateAll => { w with cache := w.cache.invalidateAll }

/-- The worlds that a history comes by, from the first on. -/
def worlds (s : Scene) (w : World) : List Event → List World
  | [] => [w]
  | e :: rest => w :: s.worlds (s.step w e) rest

/-- The last world of a history. -/
def last (s : Scene) (w : World) (events : List Event) : World :=
  events.foldl s.step w

theorem last_mem_worlds (s : Scene) (w : World) (events : List Event) :
    s.last w events ∈ s.worlds w events := by
  induction events generalizing w with
  | nil => exact List.mem_singleton_self w
  | cons e rest ih => exact List.mem_cons_of_mem w (ih (s.step w e))

end Scene

/-! ## What a history has to be like -/

/-- Whether a time tells the file that is at a place of a disk from all else that is there on
another disk. -/
def Timed (d d' : Disk) : Prop :=
  ∀ place, d.isFile place → d'.modified place = d.modified place → d'.node? place = d.node? place

/-- The bytes of a file; a directory has none. -/
def bytesOf? (kind : NodeKind) : Option (List UInt8) :=
  match kind with
  | .file bytes => some bytes.data.toList
  | .directory => none

instance : DecidableEq DiskNode := fun a b =>
  decidable_of_iff (bytesOf? a.kind = bytesOf? b.kind ∧ a.modified = b.modified) (by
    obtain ⟨kind, modified⟩ := a
    obtain ⟨kind', modified'⟩ := b
    cases kind <;> cases kind' <;> simp [bytesOf?, ByteArray.ext_iff])

instance (d d' : Disk) : Decidable (Timed d d') :=
  decidable_of_iff (∀ e ∈ d.nodes.entries, d.isFile e.1 → d'.modified e.1 = d.modified e.1 →
      d'.node? e.1 = d.node? e.1) (by
    rw [← Table.forall_isSome_get?_iff d.nodes fun p =>
      d.isFile p → d'.modified p = d.modified p → d'.node? p = d.node? p]
    exact ⟨fun h p hp => h p (Disk.isSome_of_isFile hp) hp, fun h p _ => h p⟩)

/-- Whether all include directives of a text, which is at a place, have plain targets. -/
def PlainText (s : Surroundings) (place : Path) (text : String) : Prop :=
  ∀ t ∈ includeTargets text, IncludeSite.Plain ⟨s, place.parent.written⟩ t.pattern

instance (s : Surroundings) (place : Path) (text : String) : Decidable (PlainText s place text) :=
  inferInstanceAs (Decidable (∀ t ∈ includeTargets text, _))

/-- The text at a place: that of the buffer that stands for it, or that of the file. -/
def World.text? (w : World) (place : Path) : Option String :=
  (w.cache.buffers.get? place).or
    (if w.disk.isFile place then (w.disk.readText place).toOption else none)

theorem World.text?_of_buffer {w : World} {place : Path} {text : String}
    (h : w.cache.buffers.get? place = some text) : w.text? place = some text := by
  rw [World.text?, h, Option.some_or]

theorem World.text?_of_readText {w : World} {place : Path} {text : String}
    (hbuffer : w.cache.buffers.get? place = none) (hfile : w.disk.isFile place)
    (h : w.disk.readText place = .ok text) : w.text? place = some text := by
  rw [World.text?, hbuffer, if_pos hfile, h]
  rfl

/-- What holds of the texts of a world is a matter of its buffers and its files. -/
theorem World.forall_text?_iff (w : World) (p : Path → String → Prop) :
    (∀ place text, w.text? place = some text → p place text) ↔
      (∀ e ∈ w.cache.buffers.entries, ∀ text ∈ w.text? e.1, p e.1 text) ∧
        ∀ e ∈ w.disk.nodes.entries, ∀ text ∈ w.text? e.1, p e.1 text := by
  rw [← Table.forall_isSome_get?_iff w.cache.buffers fun place =>
      ∀ text ∈ w.text? place, p place text,
    ← Table.forall_isSome_get?_iff w.disk.nodes fun place => ∀ text ∈ w.text? place, p place text]
  refine ⟨fun h => ⟨fun place _ => h place, fun place _ => h place⟩, ?_⟩
  rintro ⟨hbuffers, hfiles⟩ place text htext
  cases hbuffer : w.cache.buffers.get? place with
  | some buffered => exact hbuffers place (by rw [hbuffer]; rfl) text htext
  | none =>
    have hfile : w.disk.isFile place := by
      rw [World.text?, hbuffer, Option.none_or] at htext
      split at htext
      · assumption
      · cases htext
    exact hfiles place (Disk.isSome_of_isFile hfile) text htext

namespace Scene

/-- Whether texts that are at the same places in two worlds amount to the same in both. -/
def ReadsAlike (s : Scene) (w w' : World) : Prop :=
  ∀ place text, w.text? place = some text → w'.text? place = some text →
    parseText (s.context w) place text = parseText (s.context w') place text

/-- In one year all texts amount to the same. -/
theorem readsAlike_of_year (s : Scene) {w w' : World} (h : w.today.year = w'.today.year) :
    s.ReadsAlike w w' := by
  intro place text _ _
  have hsettings : (s.context w).settings = (s.context w').settings := rfl
  exact parseText_congr_year hsettings h place text

/-- Whether all texts of a world have plain targets. -/
def PlainWorld (s : Scene) (w : World) : Prop :=
  ∀ place text, w.text? place = some text → PlainText s.surroundings place text

instance (s : Scene) (w : World) : Decidable (s.PlainWorld w) :=
  decidable_of_iff' _ (w.forall_text?_iff (PlainText s.surroundings))

/-- Whether a history starts with a new cache on a disk that is well-formed, times tell files apart,
texts that stayed amount to the same, and all include targets are plain. -/
structure Orderly (s : Scene) (disk : Disk) (today : Date) (events : List Event) : Prop where
  surroundings : s.surroundings.Proper
  wellFormed : disk.WellFormed
  timed : ∀ w ∈ s.worlds (s.start disk today) events,
    ∀ w' ∈ s.worlds (s.start disk today) events, Timed w.disk w'.disk
  alike : ∀ w ∈ s.worlds (s.start disk today) events,
    ∀ w' ∈ s.worlds (s.start disk today) events, s.ReadsAlike w w'
  plain : ∀ w ∈ s.worlds (s.start disk today) events, s.PlainWorld w

/-- What holds of a disk and of all that a change can make of it holds after the change. -/
theorem changed_of {s : Scene} (hs : s.surroundings.Proper) {P : Disk → Prop} {disk : Disk}
    (hdisk : P disk) (path : WrittenPath) {change : Path → Except DiskError Disk}
    (hchange : ∀ place disk', place.Proper → place.parts.any hasNull = false →
      change place = .ok disk' → P disk') : P (s.changed disk path change) := by
  rw [changed]
  split
  · exact hdisk
  · rename_i place hplace
    obtain ⟨hproper, hnull⟩ := hs.of_resolve hplace
    cases hresult : change place with
    | error e => exact hdisk
    | ok disk' => exact hchange place disk' hproper hnull hresult

/-- An event keeps the disk well-formed, and its directories stay. -/
theorem succeeds_step {s : Scene} (hs : s.surroundings.Proper) {w : World}
    (hdisk : w.disk.WellFormed) (e : Event) : w.disk.Succeeds (s.step w e).disk := by
  cases e with
  | write time path bytes modified =>
    exact changed_of (P := w.disk.Succeeds) hs (.refl hdisk) path
      fun place disk' hproper hnull hwrite => hdisk.write hproper hnull hwrite
  | delete time path =>
    exact changed_of (P := w.disk.Succeeds) hs (.refl hdisk) path
      fun place disk' hproper _ hdelete => hdisk.delete hproper hdelete
  | day | get | workspace | updateText | invalidate | invalidateAll => exact .refl hdisk

/-- The disk stays well-formed through a history. -/
theorem wellFormed_of_mem_worlds {s : Scene} (hs : s.surroundings.Proper) {w w' : World}
    (hdisk : w.disk.WellFormed) {events : List Event} (h : w' ∈ s.worlds w events) :
    w'.disk.WellFormed := by
  induction events generalizing w with
  | nil =>
    rw [List.mem_singleton.mp h]
    exact hdisk
  | cons e rest ih =>
    rcases List.mem_cons.mp h with rfl | h
    · exact hdisk
    · exact ih (succeeds_step hs hdisk e).wellFormed h

end Scene

end Daybook.Project
