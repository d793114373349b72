import Daybook.Proofs.Disk.Basic

/-!
# The marks of changes

A file that is written bears the time of the change, and so does the directory that gains or loses it.
When all these times are new, a place whose time is still the same is what it was, and a directory
whose time is still the same has the same files.  A file that is written over changes its own time and
leaves its directory alone.  A file that goes leaves the time of a missing one behind, which must not
have been its own.

* `Disk.Dated`: whether nothing bears the time of a missing place.
* `Disk.Marked`: whether all changes from one disk to another bear fresh times.
* `Disk.Marked.trans`: changes one after another.
* `Disk.marked_touch_parent`: one place changes, and its directory is touched.
* `Disk.marked_write`, `Disk.marked_delete`: writing and deleting files.
* `Disk.distinct_write`, `Disk.distinct_delete`: no place is listed twice.
* `Disk.Marked.eq_of_modified_eq`: what a time that is still the same tells.
-/

namespace Daybook.Disk

variable {fresh : Int → Prop} {d d' d'' : Disk}

/-- Whether nothing on a disk bears the time that stands for a missing place. -/
def Dated (d : Disk) : Prop :=
  ∀ place node, d.node? place = some node → node.modified ≠ missingTime

/-- Whether all changes from one disk to another show: each place is empty, or it bears a fresh time, or
it is what it was, and then a directory has the files that it had. -/
def Marked (fresh : Int → Prop) (d d' : Disk) : Prop :=
  ∀ place, d'.node? place = none ∨ fresh (d'.modified place) ∨
    d'.node? place = d.node? place ∧
      ∀ name, d'.isFile (place.child name) = d.isFile (place.child name)

theorem Marked.refl (fresh : Int → Prop) (d : Disk) : Marked fresh d d :=
  fun _ => .inr (.inr ⟨rfl, fun _ => rfl⟩)

/-- Changes one after another. -/
theorem Marked.trans (h : Marked fresh d d') (h' : Marked fresh d' d'') : Marked fresh d d'' := by
  intro place
  rcases h' place with hnone | hfresh | ⟨hnode', hfiles'⟩
  · exact .inl hnone
  · exact .inr (.inl hfresh)
  · rcases h place with hnone | hfresh | ⟨hnode, hfiles⟩
    · exact .inl (hnode'.trans hnone)
    · exact .inr (.inl (by rw [modified_congr hnode']; exact hfresh))
    · exact .inr (.inr ⟨hnode'.trans hnode, fun name => (hfiles' name).trans (hfiles name)⟩)

/-! ## Single changes -/

theorem node?_touch (d : Disk) (time : Int) (p q : Path) :
    (d.touch time p).node? q =
      if q = p then (d.node? p).map ({ · with modified := time }) else d.node? q := by
  rw [touch]
  cases hp : d.node? p with
  | none =>
    show d.node? q = _
    by_cases hq : q = p
    · rw [if_pos hq, hq, hp]
      rfl
    · rw [if_neg hq]
  | some node => exact node?_insert d p _ q

/-- One place changes, and the directory that it is in is touched. -/
theorem marked_touch_parent {p : Path} {time : Int} (htime : fresh time)
    (hothers : ∀ q, q ≠ p → d'.node? q = d.node? q)
    (hplace : ∀ node, d'.node? p = some node → fresh node.modified) :
    Marked fresh d (d'.touch time p.parent) := by
  intro place
  by_cases hparent : place = p.parent
  · -- the directory itself is empty or bears the time of the change
    rw [modified, node?_touch, if_pos hparent]
    cases d'.node? p.parent with
    | none => exact .inl rfl
    | some node => exact .inr (.inl htime)
  rw [modified, node?_touch, if_neg hparent]
  by_cases hself : place = p
  · rw [hself]
    cases hnode : d'.node? p with
    | none => exact .inl rfl
    | some node => exact .inr (.inl (hplace node hnode))
  · refine .inr (.inr ⟨hothers place hself, fun name => ?_⟩)
    have hchild : place.child name ≠ p := fun heq => hparent (by
      rw [← heq, Path.parent, Path.child, List.dropLast_concat])
    rw [isFile_touch, isFile, isFile, hothers _ hchild]

theorem marked_addNode {p : Path} {node : DiskNode} {time : Int} (htime : fresh time)
    (hnode : fresh node.modified) : Marked fresh d (d.addNode time p node) := by
  refine marked_touch_parent htime (fun q hq => ?_) fun node' hnode' => ?_
  · rw [node?_insert, if_neg hq]
  · rw [node?_insert, if_pos rfl] at hnode'
    rwa [← Option.some.inj hnode']

theorem marked_makeDirectory {time : Int} (htime : fresh time) (p : Path) :
    Marked fresh d (d.makeDirectory time p) := by
  rw [makeDirectory]
  split
  · exact .refl fresh d
  · exact marked_addNode htime htime

theorem marked_makeDirectories {time : Int} (htime : fresh time) {p : Path}
    (h : d.makeDirectories time p = .ok d') : Marked fresh d d' := by
  rw [makeDirectories] at h
  split at h
  · split at h
    · cases h
    · rw [← Except.ok.inj h]
      exact .refl fresh d
  · rw [← Except.ok.inj h]
    exact List.foldlRecOn (motive := Marked fresh d) _ _ (.refl fresh d) fun d' hd' p _ =>
      hd'.trans (marked_makeDirectory htime p)
  · cases h

/-- A file that takes the place of a file. -/
theorem marked_insert_file {p : Path} (hp : d.isFile p) {node : DiskNode} (hfile : node.isFile)
    (hnode : fresh node.modified) : Marked fresh d ⟨d.nodes.insert p node⟩ := by
  intro place
  rw [modified, node?_insert]
  split
  · exact .inr (.inl hnode)
  · refine .inr (.inr ⟨rfl, fun name => ?_⟩)
    rw [isFile, node?_insert]
    split
    · rename_i heq
      rw [heq, hp]
      exact hfile
    · rfl

/-- Writing a file. -/
theorem marked_write {p : Path} (hp : p.Proper) {time : Int} {bytes : ByteArray}
    {modified : Option Int} (htime : fresh time) (hmodified : fresh (modified.getD time))
    (h : d.write time p bytes modified = .ok d') : Marked fresh d d' := by
  rw [write] at h
  split at h
  · cases h
  · rename_i made hmake
    refine (marked_makeDirectories htime hmake).trans ?_
    dsimp only at h
    split at h
    · rename_i old hfind
      split at h
      · rename_i hold
        rw [← Except.ok.inj h]
        refine marked_insert_file ?_ rfl hmodified
        rw [isFile, node?_of_find hp hfind]
        exact hold
      · cases h
    · rw [← Except.ok.inj h]
      exact marked_addNode htime hmodified
    · cases h

/-- Deleting a file. -/
theorem marked_delete {p : Path} {time : Int} (htime : fresh time)
    (h : d.delete time p = .ok d') : Marked fresh d d' := by
  rw [delete] at h
  split at h
  · cases h
  · split at h
    · rw [← Except.ok.inj h]
      refine marked_touch_parent htime (fun q hq => ?_) fun node hnode => ?_
      · rw [node?_erase, if_neg hq]
      · rw [node?_erase, if_pos rfl] at hnode
        cases hnode
    · cases h

/-! ## Entries of the table -/

theorem distinct_touch (h : d.nodes.Distinct) (time : Int) (p : Path) :
    (d.touch time p).nodes.Distinct := by
  rw [touch]
  split
  · exact h
  · exact h.alter _ _

theorem distinct_makeDirectories (h : d.nodes.Distinct) {time : Int} {p : Path}
    (hmake : d.makeDirectories time p = .ok d') : d'.nodes.Distinct := by
  rw [makeDirectories] at hmake
  split at hmake
  · split at hmake
    · cases hmake
    · rw [← Except.ok.inj hmake]
      exact h
  · rw [← Except.ok.inj hmake]
    refine List.foldlRecOn (motive := fun d : Disk => d.nodes.Distinct) _ _ h fun d hd p _ => ?_
    rw [makeDirectory]
    split
    · exact hd
    · exact distinct_touch (hd.alter _ _) time _
  · cases hmake

theorem distinct_write (h : d.nodes.Distinct) {p : Path} {time : Int} {bytes : ByteArray}
    {modified : Option Int} (hwrite : d.write time p bytes modified = .ok d') :
    d'.nodes.Distinct := by
  rw [write] at hwrite
  split at hwrite
  · cases hwrite
  · rename_i made hmake
    have hmade := distinct_makeDirectories h hmake
    dsimp only at hwrite
    split at hwrite
    · split at hwrite
      · rw [← Except.ok.inj hwrite]
        exact hmade.alter _ _
      · cases hwrite
    · rw [← Except.ok.inj hwrite]
      exact distinct_touch (hmade.alter _ _) time _
    · cases hwrite

theorem distinct_delete (h : d.nodes.Distinct) {p : Path} {time : Int}
    (hdelete : d.delete time p = .ok d') : d'.nodes.Distinct := by
  rw [delete] at hdelete
  split at hdelete
  · cases hdelete
  · split at hdelete
    · rw [← Except.ok.inj hdelete]
      exact distinct_touch (h.erase _) time _
    · cases hdelete

/-! ## What a time tells -/

/-- **A place whose time is still the same** is what it was, and a directory has the files that it had. -/
theorem Marked.eq_of_modified_eq (h : Marked fresh d d') (hdated : d.Dated) {place : Path}
    (hfresh : ¬fresh (d.modified place)) (heq : d'.modified place = d.modified place) :
    d'.node? place = d.node? place ∧
      (d.isDirectory place → ∀ name, d'.isFile (place.child name) = d.isFile (place.child name)) := by
  rcases h place with hnone | hmarked | ⟨hnode, hfiles⟩
  · rw [modified_of_none hnone] at heq
    have hbefore : d.node? place = none := by
      cases hnode : d.node? place with
      | none => rfl
      | some node =>
        rw [modified_of_some hnode] at heq
        exact absurd heq.symm (hdated place node hnode)
    refine ⟨hnone.trans hbefore.symm, fun hdir => ?_⟩
    rw [isDirectory, hbefore] at hdir
    cases hdir
  · exact absurd (heq ▸ hmarked) hfresh
  · exact ⟨hnode, fun _ => hfiles⟩

end Daybook.Disk
