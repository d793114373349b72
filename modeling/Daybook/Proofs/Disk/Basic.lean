import Daybook.Proofs.Table
import Daybook.Disk.Basic
import Mathlib.Data.List.Induction

/-!
# Disks whose places are proper

On a disk that grew from its root by writing and deleting files, everything stands in a directory
and no name is a dot or two.  What a path leads to is then a matter of its own place alone, as long
as its names are not too long: the way there need not be looked at.

* `Path.Proper`: whether no name goes nowhere or up; the place that a written path names is proper.
* `Path.Fits`: whether no name is too long for a disk.
* `Disk.WellFormed`: whether all places are proper and in directories.
* `Disk.find_of_node?`: what is found at a place where something is.
* `Disk.holdsFile_eq`: whether a path leads to a file, where its names fit.
* `Disk.readText_congr`: the text of a file is a matter of what is at its place.
* `Disk.mem_descendants_iff`: what is below a directory.
* `Disk.WellFormed.write`, `Disk.WellFormed.delete`: changes keep a disk well-formed, and
  directories stay.
-/

namespace Daybook

/-! ## Proper places -/

namespace Path

/-- Whether no name of a place is a dot or two dots. -/
def Proper (p : Path) : Prop :=
  ∀ name ∈ p.parts, name ≠ "." ∧ name ≠ ".."

/-- Whether no name of a place is longer than any on a disk. -/
def Fits (p : Path) : Prop :=
  ∀ name ∈ p.parts, name.utf8ByteSize ≤ Disk.maxNameBytes

instance (p : Path) : Decidable p.Proper :=
  inferInstanceAs (Decidable (∀ name ∈ p.parts, name ≠ "." ∧ name ≠ ".."))

instance (p : Path) : Decidable p.Fits :=
  inferInstanceAs (Decidable (∀ name ∈ p.parts, name.utf8ByteSize ≤ Disk.maxNameBytes))

theorem proper_root : root.Proper :=
  nofun

theorem Proper.parent {p : Path} (h : p.Proper) : p.parent.Proper :=
  fun name hname => h name (List.dropLast_subset _ hname)

theorem Proper.child {p : Path} (h : p.Proper) {name : String} (hdot : name ≠ ".")
    (hdots : name ≠ "..") : (p.child name).Proper := by
  intro name' hname'
  rcases List.mem_append.mp hname' with hname' | hname'
  · exact h name' hname'
  · rw [List.mem_singleton.mp hname']
    exact ⟨hdot, hdots⟩

theorem Proper.step {p : Path} (h : p.Proper) (part : String) : (p.step part).Proper := by
  rw [Path.step]
  split
  · exact h
  · split
    · exact h.parent
    · rename_i hdot hdots
      exact h.child hdot hdots

/-- Names lead from a proper place to a proper one. -/
theorem Proper.follow {p : Path} (h : p.Proper) (parts : List String) :
    (p.follow parts).Proper := by
  induction parts generalizing p with
  | nil => exact h
  | cons part parts ih => exact ih (h.step part)

/-- Names that are neither a dot nor two lead further down. -/
theorem follow_eq_append {parts : List String}
    (h : ∀ name ∈ parts, name ≠ "." ∧ name ≠ "..") (p : Path) :
    p.follow parts = ⟨p.parts ++ parts⟩ := by
  induction parts generalizing p with
  | nil =>
    rw [List.append_nil]
    rfl
  | cons part parts ih =>
    obtain ⟨hdot, hdots⟩ := h part List.mem_cons_self
    have hstep : p.step part = p.child part := by rw [Path.step, if_neg hdot, if_neg hdots]
    calc p.follow (part :: parts) = (p.child part).follow parts := by rw [← hstep]; rfl
      _ = ⟨(p.child part).parts ++ parts⟩ := ih (fun n hn => h n (List.mem_cons_of_mem _ hn)) _
      _ = ⟨p.parts ++ part :: parts⟩ := by rw [child, List.append_assoc]; rfl

/-- The names of a proper place lead to it from the root. -/
theorem Proper.root_follow {p : Path} (h : p.Proper) : root.follow p.parts = p :=
  follow_eq_append h root

/-- Every name of a place is one that led there. -/
theorem mem_of_mem_follow {p : Path} {parts : List String} {name : String}
    (h : name ∈ (p.follow parts).parts) : name ∈ p.parts ∨ name ∈ parts := by
  induction parts generalizing p with
  | nil => exact .inl h
  | cons part parts ih =>
    rcases ih h with h | h
    · rw [Path.step] at h
      split at h
      · exact .inl h
      · split at h
        · exact .inl (List.dropLast_subset _ h)
        · rcases List.mem_append.mp h with h | h
          · exact .inl h
          · exact .inr (List.mem_cons.mpr (.inl (List.mem_singleton.mp h)))
    · exact .inr (List.mem_cons_of_mem part h)

/-- Names without null characters lead from the root to a place without them. -/
theorem any_hasNull_root_follow {parts : List String} (h : parts.any hasNull = false) :
    (root.follow parts).parts.any hasNull = false :=
  List.any_eq_false.mpr fun name hname =>
    (mem_of_mem_follow hname).elim (fun hroot => absurd hroot List.not_mem_nil)
      (List.any_eq_false.mp h name)

/-- Which names lead from a directory to a place below it. -/
theorem below?_eq_some_iff {base p : Path} {names : List String} :
    base.below? p = some names ↔ p = ⟨base.parts ++ names⟩ ∧ names ≠ [] := by
  rw [below?]
  constructor
  · intro h
    split at h
    · rename_i hprefix
      rw [Bool.and_eq_true, List.isPrefixOf_iff_prefix, decide_eq_true_iff] at hprefix
      obtain ⟨⟨rest, hrest⟩, hlength⟩ := hprefix
      rw [← hrest, List.drop_left] at h
      obtain rfl := Option.some.inj h
      refine ⟨congrArg Path.mk hrest.symm, ?_⟩
      rintro rfl
      rw [← hrest, List.append_nil] at hlength
      exact Nat.lt_irrefl _ hlength
    · cases h
  · rintro ⟨rfl, hne⟩
    have hlength : base.parts.length < (base.parts ++ names).length := by
      rw [List.length_append]
      exact Nat.lt_add_of_pos_right (List.length_pos_iff.mpr hne)
    rw [if_pos (by rw [Bool.and_eq_true, List.isPrefixOf_iff_prefix, decide_eq_true_iff]
                   exact ⟨List.prefix_append _ _, hlength⟩), List.drop_left]

end Path

/-- Whether the working directory is one that a disk can have. -/
structure Surroundings.Proper (s : Surroundings) : Prop where
  proper : s.workingDirectory.Proper
  noNull : s.workingDirectory.parts.any hasNull = false

/-- The place that a written path names is proper, and no null character is in its names. -/
theorem Surroundings.Proper.of_resolve {s : Surroundings} (hs : s.Proper) {w : WrittenPath}
    {p : Path} (h : s.resolve w = .ok p) : p.Proper ∧ p.parts.any hasNull = false := by
  rw [resolve] at h
  split at h
  · cases h
  · rename_i w' _
    split at h
    · cases h
    · rename_i hnull
      have hstart : (s.startOf w').Proper ∧ (s.startOf w').parts.any hasNull = false := by
        rw [startOf]
        split
        · exact ⟨Path.proper_root, rfl⟩
        · exact ⟨hs.proper, hs.noNull⟩
      rw [← Except.ok.inj h]
      refine ⟨hstart.1.follow _, List.any_eq_false.mpr fun name hname => ?_⟩
      rcases Path.mem_of_mem_follow hname with hname | hname
      · exact List.any_eq_false.mp hstart.2 name hname
      · exact List.any_eq_false.mp (Bool.not_eq_true _ ▸ hnull) name hname

namespace Disk

/-! ## Well-formed disks -/

/-- Whether all places are proper and in directories. -/
structure WellFormed (d : Disk) : Prop where
  proper : ∀ p, (d.node? p).isSome → p.Proper
  parent : ∀ p, (d.node? p).isSome → d.isDirectory p.parent

instance (d : Disk) : Decidable d.WellFormed :=
  decidable_of_iff ((∀ e ∈ d.nodes.entries, e.1.Proper) ∧
      ∀ e ∈ d.nodes.entries, d.isDirectory e.1.parent) (by
    rw [← Table.forall_isSome_get?_iff d.nodes Path.Proper,
      ← Table.forall_isSome_get?_iff d.nodes fun p => d.isDirectory p.parent]
    exact ⟨fun h => ⟨h.1, h.2⟩, fun h => ⟨h.proper, h.parent⟩⟩)

theorem isSome_of_isDirectory {d : Disk} {p : Path} (h : d.isDirectory p) :
    (d.node? p).isSome := by
  rw [isDirectory] at h
  cases hp : d.node? p with
  | none =>
    rw [hp] at h
    cases h
  | some node => rfl

theorem isSome_of_isFile {d : Disk} {p : Path} (h : d.isFile p) : (d.node? p).isSome := by
  rw [isFile] at h
  cases hp : d.node? p with
  | none =>
    rw [hp] at h
    cases h
  | some node => rfl

theorem modified_of_none {d : Disk} {p : Path} (h : d.node? p = none) :
    d.modified p = missingTime := by
  rw [modified, h]

theorem modified_of_some {d : Disk} {p : Path} {node : DiskNode} (h : d.node? p = some node) :
    d.modified p = node.modified := by
  rw [modified, h]

theorem modified_congr {d d' : Disk} {p : Path} (h : d'.node? p = d.node? p) :
    d'.modified p = d.modified p := by
  rw [modified, h, modified]

/-- All places on the way to something are directories. -/
theorem WellFormed.isDirectory_of_append {d : Disk} (h : d.WellFormed) {front rest : List String}
    (hrest : rest ≠ []) (hnode : (d.node? ⟨front ++ rest⟩).isSome) : d.isDirectory ⟨front⟩ := by
  induction rest using List.reverseRecOn with
  | nil => exact absurd rfl hrest
  | append_singleton rest last ih =>
    have hparent := h.parent _ hnode
    rw [Path.parent] at hparent
    simp only [← List.append_assoc, List.dropLast_concat] at hparent
    by_cases hempty : rest = []
    · rw [hempty, List.append_nil] at hparent
      exact hparent
    · exact ih hempty (isSome_of_isDirectory hparent)

/-! ## The way to a place -/

/-- Names that lead to something lead there by the names alone. -/
theorem of_locate {d : Disk} {p q : Path} {parts : List String}
    (h : d.locate p parts = .ok q) : q = p.follow parts ∧ (d.node? q).isSome := by
  induction parts generalizing p with
  | nil =>
    rw [locate] at h
    split at h
    · rename_i hsome
      rw [← Except.ok.inj h]
      exact ⟨rfl, hsome⟩
    · cases h
  | cons part parts ih =>
    rw [locate] at h
    split at h
    · cases h
    · split at h
      · cases h
      · split at h
        · cases h
        · exact ih h

/-- Where no name is too long, that is not why names lead nowhere. -/
theorem locate_ne_nameTooLong {d : Disk} {p : Path} {parts : List String}
    (h : ∀ name ∈ parts, name.utf8ByteSize ≤ maxNameBytes) :
    d.locate p parts ≠ .error .nameTooLong := by
  induction parts generalizing p with
  | nil =>
    rw [locate]
    split <;> nofun
  | cons part parts ih =>
    rw [locate]
    split
    · nofun
    · split
      · nofun
      · rw [if_neg (Nat.not_lt.mpr (h part List.mem_cons_self))]
        exact ih fun name hname => h name (List.mem_cons_of_mem part hname)

/-- On the way to something, names lead on until one is too long. -/
theorem WellFormed.locate_append {d : Disk} (h : d.WellFormed) (front middle : List String)
    (hnode : (d.node? ⟨front ++ middle⟩).isSome) (rest : List String) :
    d.locate ⟨front⟩ (middle ++ rest) =
      if ∀ name ∈ middle, name.utf8ByteSize ≤ maxNameBytes then
        d.locate ⟨front ++ middle⟩ rest
      else .error .nameTooLong := by
  induction middle generalizing front with
  | nil =>
    rw [if_pos nofun, List.append_nil]
    rfl
  | cons part middle ih =>
    have hdir : d.isDirectory ⟨front⟩ :=
      h.isDirectory_of_append (List.cons_ne_nil part middle) hnode
    have hproper := h.proper _ hnode part (List.mem_append_right front List.mem_cons_self)
    have hstep : (Path.mk front).step part = ⟨front ++ [part]⟩ := by
      rw [Path.step, if_neg hproper.1, if_neg hproper.2]
      rfl
    have happend : front ++ part :: middle = (front ++ [part]) ++ middle := by
      rw [List.append_assoc]
      rfl
    obtain ⟨node, hget⟩ := Option.isSome_iff_exists.mp (isSome_of_isDirectory hdir)
    have hfile : node.isFile = false := by
      rw [isDirectory, hget] at hdir
      simpa using hdir
    rw [List.cons_append, locate, hget]
    simp only [hfile, Bool.false_eq_true, if_false, hstep, List.forall_mem_cons]
    by_cases hlong : maxNameBytes < part.utf8ByteSize
    · rw [if_pos hlong, if_neg fun hall => absurd hall.1 (Nat.not_le.mpr hlong)]
    · rw [if_neg hlong, ih _ (happend ▸ hnode), happend]
      simp only [Nat.not_lt.mp hlong, true_and]

/-- **What is found at a place where something is**: that, unless the path is not one that a disk can
have. -/
theorem WellFormed.find_of_node? {d : Disk} (h : d.WellFormed) {p : Path} {node : DiskNode}
    (hnode : d.node? p = some node) :
    d.find .root p.written =
      if p.parts.any hasNull then .error .notFound
      else if maxPathBytes < p.written.text.utf8ByteSize then .error .nameTooLong
      else if p.Fits then .ok node
      else .error .nameTooLong := by
  have hlocate : d.locate .root p.written.parts =
      if p.Fits then d.locate p [] else .error .nameTooLong := by
    have happend := h.locate_append [] p.parts
      (by rw [List.nil_append, hnode]; rfl) []
    rw [List.append_nil, List.nil_append] at happend
    exact happend
  have hhere : d.locate p [] = .ok p := by
    rw [locate, hnode]
    rfl
  rw [find, hlocate, hhere]
  by_cases hfits : p.Fits
  · rw [if_pos hfits, if_pos hfits]
    simp only [hnode]
    rfl
  · rw [if_neg hfits, if_neg hfits]
    rfl

/-- What is found at the end of the names of a proper place is at that place. -/
theorem node?_of_find {d : Disk} {p : Path} (hp : p.Proper) {node : DiskNode}
    (h : d.find .root p.written = .ok node) : d.node? p = some node := by
  rw [find] at h
  split at h
  · cases h
  · split at h
    · cases h
    · split at h
      · cases h
      · rename_i q hlocate
        rw [(of_locate hlocate).1] at h
        rw [show Path.root.follow p.written.parts = p from hp.root_follow] at h
        split at h
        · cases h
        · rename_i node' hnode
          rw [hnode, Except.ok.inj h]

/-- **Whether a path leads to a file**, where its names fit: a matter of its place. -/
theorem WellFormed.holdsFile_eq {d : Disk} (h : d.WellFormed) {p : Path} (hp : p.Proper)
    (hfits : p.Fits) (hnull : p.parts.any hasNull = false) :
    d.holdsFile .root p.written =
      if maxPathBytes < p.written.text.utf8ByteSize then .error .nameTooLong
      else .ok (d.isFile p) := by
  rw [holdsFile, holds, isFile]
  cases hnode : d.node? p with
  | some node =>
    rw [h.find_of_node? hnode, hnull, if_neg Bool.false_ne_true, if_pos hfits]
    by_cases hlong : maxPathBytes < p.written.text.utf8ByteSize
    · rw [if_pos hlong, if_pos hlong]
    · rw [if_neg hlong, if_neg hlong]
      rfl
  | none =>
    by_cases hlong : maxPathBytes < p.written.text.utf8ByteSize
    · have hfind : d.find .root p.written = .error .nameTooLong := by
        rw [find, if_neg (by rw [show p.written.parts = p.parts from rfl, hnull]; nofun),
          if_pos hlong]
      rw [hfind, if_pos hlong]
    · rw [if_neg hlong]
      cases hfind : d.find .root p.written with
      | ok node =>
        rw [node?_of_find hp hfind] at hnode
        cases hnode
      | error e =>
        have hne : e ≠ .nameTooLong := by
          rintro rfl
          rw [find, if_neg (by rw [show p.written.parts = p.parts from rfl, hnull]; nofun),
            if_neg hlong] at hfind
          split at hfind
          · rename_i e hlocate
            rw [Except.error.inj hfind] at hlocate
            exact locate_ne_nameTooLong hfits hlocate
          · split at hfind <;> cases hfind
        cases e with
        | nameTooLong => exact absurd rfl hne
        | _ => rfl

/-- An answer to whether a path leads to a file is right, however long its names are. -/
theorem WellFormed.eq_isFile_of_holdsFile {d : Disk} (h : d.WellFormed) {p : Path} (hp : p.Proper)
    (hnull : p.parts.any hasNull = false) {found : Bool}
    (hholds : d.holdsFile .root p.written = .ok found) : found = d.isFile p := by
  rw [holdsFile, holds] at hholds
  cases hnode : d.node? p with
  | some node =>
    rw [h.find_of_node? hnode, hnull, if_neg Bool.false_ne_true] at hholds
    rw [isFile, hnode, Option.any_some]
    split at hholds
    · rename_i found' hfind
      split at hfind
      · cases hfind
      · split at hfind
        · rw [Except.ok.inj hfind]
          exact (Except.ok.inj hholds).symm
        · cases hfind
    · cases hholds
    · rename_i e hne hfind
      split at hfind
      · exact absurd (Except.error.inj hfind).symm hne
      · split at hfind
        · cases hfind
        · exact absurd (Except.error.inj hfind).symm hne
  | none =>
    rw [isFile, hnode, Option.any_none]
    split at hholds
    · rename_i node hfind
      rw [node?_of_find hp hfind] at hnode
      cases hnode
    · cases hholds
    · exact (Except.ok.inj hholds).symm

/-- The text of a file is a matter of what is at its place. -/
theorem readText_congr {d d' : Disk} (hd : d.WellFormed) (hd' : d'.WellFormed) {p : Path}
    (hsome : (d.node? p).isSome) (hnode : d'.node? p = d.node? p) :
    d'.readText p = d.readText p := by
  obtain ⟨node, hget⟩ := Option.isSome_iff_exists.mp hsome
  rw [readText, readText, readBytes, readBytes, hd.find_of_node? hget,
    hd'.find_of_node? (hnode.trans hget)]

/-- A text is that of a file. -/
theorem isFile_of_readText {d : Disk} {p : Path} (hp : p.Proper) {text : String}
    (h : d.readText p = .ok text) : d.isFile p := by
  rw [readText, readBytes] at h
  cases hfind : d.find .root p.written with
  | error e =>
    rw [hfind] at h
    cases h
  | ok node =>
    rw [hfind] at h
    rw [isFile, node?_of_find hp hfind, Option.any_some, DiskNode.isFile]
    cases hkind : node.kind with
    | directory =>
      simp only [hkind] at h
      cases h
    | file bytes => rfl

/-- What a path leads to as a directory is one. -/
theorem isDirectory_of_holdsDirectory {d : Disk} {p : Path} (hp : p.Proper)
    (h : d.holdsDirectory .root p.written = .ok true) : d.isDirectory p := by
  rw [holdsDirectory, holds] at h
  cases hfind : d.find .root p.written with
  | ok node =>
    rw [hfind] at h
    rw [isDirectory, node?_of_find hp hfind]
    exact Except.ok.inj h
  | error e =>
    rw [hfind] at h
    cases e <;> cases h

/-! ## What is below a directory -/

theorem isSome_of_mem_entries {d : Disk} {p : Path} {node : DiskNode}
    (h : (p, node) ∈ d.nodes.entries) : (d.node? p).isSome :=
  Table.contains_iff_mem_keys.mpr (List.mem_map.mpr ⟨_, h, rfl⟩)

theorem mem_descendants_iff {d : Disk} {base : Path} {names : List String} {node : DiskNode} :
    (names, node) ∈ d.descendants base ↔
      names ≠ [] ∧ (Path.mk (base.parts ++ names), node) ∈ d.nodes.entries := by
  rw [descendants, List.mem_filterMap]
  constructor
  · rintro ⟨⟨place, node'⟩, hentry, hbelow⟩
    obtain ⟨names', hnames, heq⟩ := Option.map_eq_some_iff.mp hbelow
    obtain ⟨rfl, rfl⟩ := Prod.mk.inj heq
    obtain ⟨hplace, hne⟩ := Path.below?_eq_some_iff.mp hnames
    exact ⟨hne, hplace ▸ hentry⟩
  · rintro ⟨hne, hentry⟩
    exact ⟨_, hentry, Option.map_eq_some_iff.mpr
      ⟨names, Path.below?_eq_some_iff.mpr ⟨rfl, hne⟩, rfl⟩⟩

/-- What is in a directory is at a proper place. -/
theorem WellFormed.proper_child {d : Disk} (h : d.WellFormed) {base : Path}
    {e : String × DiskNode} (he : e ∈ d.children base) : (base.child e.1).Proper := by
  obtain ⟨⟨names, node⟩, hbelow, hname⟩ := List.mem_filterMap.mp he
  dsimp only at hname
  split at hname
  · obtain rfl := Option.some.inj hname
    exact h.proper _ (isSome_of_mem_entries (mem_descendants_iff.mp hbelow).2)
  · cases hname

/-! ## Changes -/

theorem node?_insert (d : Disk) (p : Path) (node : DiskNode) (q : Path) :
    (Disk.mk (d.nodes.insert p node)).node? q = if q = p then some node else d.node? q :=
  Table.get?_alter d.nodes p q fun _ => node

theorem node?_erase (d : Disk) (p q : Path) :
    (Disk.mk (d.nodes.erase p)).node? q = if q = p then none else d.node? q :=
  Table.get?_erase d.nodes p q

/-- Touching changes times only. -/
theorem map_kind_touch (d : Disk) (time : Int) (p q : Path) :
    ((d.touch time p).node? q).map (·.kind) = (d.node? q).map (·.kind) := by
  rw [touch]
  cases hp : d.node? p with
  | none => rfl
  | some node =>
    show ((Disk.mk (d.nodes.insert p _)).node? q).map _ = _
    rw [node?_insert]
    split
    · rename_i hq
      rw [hq, hp]
      rfl
    · rfl

theorem isSome_touch (d : Disk) (time : Int) (p q : Path) :
    ((d.touch time p).node? q).isSome = (d.node? q).isSome := by
  rw [← Option.isSome_map (f := DiskNode.kind), map_kind_touch, Option.isSome_map]

theorem isDirectory_eq_any_kind (d : Disk) (p : Path) :
    d.isDirectory p = ((d.node? p).map (·.kind)).any fun
      | .file _ => false
      | .directory => true := by
  rw [isDirectory]
  cases d.node? p with
  | none => rfl
  | some node =>
    rw [Option.any_some, Option.map_some, Option.any_some, DiskNode.isFile]
    cases node.kind <;> rfl

theorem isFile_eq_any_kind (d : Disk) (p : Path) :
    d.isFile p = ((d.node? p).map (·.kind)).any fun
      | .file _ => true
      | .directory => false := by
  rw [isFile]
  cases d.node? p <;> rfl

theorem isDirectory_touch (d : Disk) (time : Int) (p q : Path) :
    (d.touch time p).isDirectory q = d.isDirectory q := by
  rw [isDirectory_eq_any_kind, map_kind_touch, isDirectory_eq_any_kind]

theorem isFile_touch (d : Disk) (time : Int) (p q : Path) :
    (d.touch time p).isFile q = d.isFile q := by
  rw [isFile_eq_any_kind, map_kind_touch, isFile_eq_any_kind]

/-- Whether a disk is well-formed and has all directories of another. -/
structure Succeeds (d d' : Disk) : Prop where
  wellFormed : d'.WellFormed
  directories : ∀ q, d.isDirectory q → d'.isDirectory q

theorem Succeeds.refl {d : Disk} (h : d.WellFormed) : d.Succeeds d :=
  ⟨h, fun _ hq => hq⟩

theorem Succeeds.trans {d d' d'' : Disk} (h : d.Succeeds d') (h' : d'.Succeeds d'') :
    d.Succeeds d'' :=
  ⟨h'.wellFormed, fun q hq => h'.directories q (h.directories q hq)⟩

theorem Succeeds.touch {d d' : Disk} (h : d.Succeeds d') (time : Int) (p : Path) :
    d.Succeeds (d'.touch time p) where
  wellFormed :=
    { proper := fun q hq => h.wellFormed.proper q (isSome_touch d' time p q ▸ hq)
      parent := fun q hq => by
        rw [isDirectory_touch]
        exact h.wellFormed.parent q (isSome_touch d' time p q ▸ hq) }
  directories q hq := by
    rw [isDirectory_touch]
    exact h.directories q hq

/-- Something new in a directory, which does not take the place of a directory unless it is one. -/
theorem WellFormed.insert {d : Disk} (h : d.WellFormed) {p : Path} (hp : p.Proper)
    {node : DiskNode} (hkeep : d.isDirectory p → node.isFile = false)
    (hparent : p = .root ∧ node.isFile = false ∨ d.isDirectory p.parent) :
    d.Succeeds ⟨d.nodes.insert p node⟩ := by
  have hstay : ∀ q, d.isDirectory q → (Disk.mk (d.nodes.insert p node)).isDirectory q := by
    intro q hq
    rw [isDirectory, node?_insert]
    split
    · rename_i heq
      rw [Option.any_some, hkeep (heq ▸ hq)]
      rfl
    · exact hq
  refine ⟨⟨fun q hq => ?_, fun q hq => ?_⟩, hstay⟩
  · rw [node?_insert] at hq
    split at hq
    · rename_i heq
      exact heq ▸ hp
    · exact h.proper q hq
  · rw [node?_insert] at hq
    split at hq
    · rename_i heq
      rcases hparent with ⟨hroot, hdir⟩ | hdir
      · have hself : q.parent = p := by
          rw [heq, hroot]
          rfl
        rw [hself, isDirectory, node?_insert, if_pos rfl, Option.any_some, hdir]
        rfl
      · exact heq ▸ hstay p.parent hdir
    · exact hstay _ (h.parent q hq)

/-- Making a directory in one that is there. -/
theorem WellFormed.makeDirectory {d : Disk} (h : d.WellFormed) {p : Path} (hp : p.Proper)
    (hparent : p = .root ∨ d.isDirectory p.parent) (time : Int) :
    d.Succeeds (d.makeDirectory time p) := by
  rw [Disk.makeDirectory]
  split
  · exact .refl h
  · exact (h.insert hp (fun _ => rfl) (hparent.imp_left fun hroot => ⟨hroot, rfl⟩)).touch time _

theorem isFile_makeDirectory (d : Disk) (time : Int) (p q : Path) :
    (d.makeDirectory time p).isFile q = d.isFile q := by
  rw [Disk.makeDirectory]
  split
  · rfl
  · rename_i hnone
    rw [addNode, isFile_touch, isFile, node?_insert]
    split
    · rename_i heq
      rw [heq, isFile, Option.not_isSome_iff_eq_none.mp hnone]
      rfl
    · rfl

theorem isDirectory_makeDirectory {d : Disk} {p : Path} (hfile : d.isFile p = false)
    (time : Int) : (d.makeDirectory time p).isDirectory p := by
  rw [Disk.makeDirectory]
  split
  · rename_i hsome
    obtain ⟨node, hnode⟩ := Option.isSome_iff_exists.mp hsome
    rw [isFile, hnode, Option.any_some] at hfile
    rw [isDirectory, hnode, Option.any_some, hfile]
    rfl
  · rw [addNode, isDirectory_touch, isDirectory, node?_insert, if_pos rfl]
    rfl

/-- Making a directory and those that it is in, where none of them is a file. -/
theorem WellFormed.foldl_makeDirectory {d : Disk} (h : d.WellFormed) {parts : List String}
    (hparts : Path.Proper ⟨parts⟩) (time : Int) (n : Nat) (hn : n ≤ parts.length)
    (hfile : ∀ m ≤ n, d.isFile ⟨parts.take m⟩ = false) :
    let d' := ((List.range (n + 1)).map fun m => Path.mk (parts.take m)).foldl
      (fun d p => d.makeDirectory time p) d
    d.Succeeds d' ∧ d'.isDirectory ⟨parts.take n⟩ ∧ ∀ q, d'.isFile q = d.isFile q := by
  have hproper (m : Nat) : Path.Proper ⟨parts.take m⟩ := fun name hname =>
    hparts name (List.mem_of_mem_take hname)
  induction n with
  | zero =>
    have hroot : d.isFile ⟨parts.take 0⟩ = false := hfile 0 (Nat.le_refl 0)
    exact ⟨h.makeDirectory (hproper 0) (.inl rfl) time, isDirectory_makeDirectory hroot time,
      isFile_makeDirectory d time _⟩
  | succ n ih =>
    obtain ⟨hsucceeds, hdir, hfiles⟩ :=
      ih (Nat.le_of_succ_le hn) fun m hm => hfile m (Nat.le_succ_of_le hm)
    rw [List.range_succ, List.map_append, List.foldl_append]
    have hparent : (Path.mk (parts.take (n + 1))).parent = ⟨parts.take n⟩ := by
      rw [Path.parent, List.dropLast_eq_take, List.length_take, Nat.min_eq_left hn, List.take_take,
        Nat.add_sub_cancel, Nat.min_eq_left (Nat.le_succ n)]
    have hnext := hsucceeds.wellFormed.makeDirectory (hproper (n + 1)) (.inr (hparent ▸ hdir)) time
    refine ⟨hsucceeds.trans hnext, isDirectory_makeDirectory ?_ time, fun q => ?_⟩
    · rw [hfiles]
      exact hfile (n + 1) (Nat.le_refl _)
    · exact (isFile_makeDirectory _ time _ q).trans (hfiles q)

theorem locate_of_find {d : Disk} {p : Path} (hnull : p.parts.any hasNull = false)
    (h : d.find .root p.written = .error .notFound) :
    d.locate .root p.parts = .error .notFound := by
  rw [find, show p.written.parts = p.parts from rfl, hnull, if_neg Bool.false_ne_true] at h
  split at h
  · cases h
  · split at h
    · rename_i hlocate
      rw [hlocate, Except.error.inj h]
    · rename_i q hlocate
      obtain ⟨node, hnode⟩ := Option.isSome_iff_exists.mp (of_locate hlocate).2
      simp only [hnode] at h
      cases h

/-- Where a path leads nowhere because something is missing, no file is in its way. -/
theorem WellFormed.isFile_take_of_find {d : Disk} (h : d.WellFormed) {p : Path}
    (hnull : p.parts.any hasNull = false) (hfind : d.find .root p.written = .error .notFound)
    (n : Nat) : d.isFile ⟨p.parts.take n⟩ = false := by
  by_contra hfile
  rw [Bool.not_eq_false] at hfile
  obtain ⟨node, hnode⟩ := Option.isSome_iff_exists.mp (isSome_of_isFile hfile)
  have hlocate := h.locate_append [] (p.parts.take n)
    (isSome_of_isFile hfile) (p.parts.drop n)
  rw [List.take_append_drop, List.nil_append] at hlocate
  have hnotFound : d.locate ⟨[]⟩ p.parts = .error .notFound := locate_of_find hnull hfind
  rw [hlocate] at hnotFound
  split at hnotFound
  · rw [isFile, hnode, Option.any_some] at hfile
    cases hrest : p.parts.drop n with
    | nil =>
      rw [hrest, locate, hnode] at hnotFound
      cases hnotFound
    | cons part rest =>
      simp only [hrest, locate, hnode, hfile, if_true] at hnotFound
      cases hnotFound
  · cases hnotFound

/-- The directories of a path are made. -/
theorem WellFormed.makeDirectories {d d' : Disk} (h : d.WellFormed) {p : Path} (hp : p.Proper)
    (hnull : p.parts.any hasNull = false) {time : Int} (hmake : d.makeDirectories time p = .ok d') :
    d.Succeeds d' ∧ d'.isDirectory p := by
  rw [Disk.makeDirectories] at hmake
  split at hmake
  · rename_i node hfind
    split at hmake
    · cases hmake
    · rename_i hfile
      rw [← Except.ok.inj hmake]
      refine ⟨.refl h, ?_⟩
      rw [isDirectory, node?_of_find hp hfind, Option.any_some, Bool.eq_false_iff.mpr hfile]
      rfl
  · rename_i hfind
    obtain ⟨hsucceeds, hdir, -⟩ := h.foldl_makeDirectory hp time p.parts.length (Nat.le_refl _)
      fun m _ => h.isFile_take_of_find hnull hfind m
    have hplaces : p.ancestors ++ [p] =
        (List.range (p.parts.length + 1)).map fun m => Path.mk (p.parts.take m) := by
      rw [List.range_succ, List.map_append, List.map_singleton, List.take_length]
      rfl
    rw [List.take_length] at hdir
    rw [← Except.ok.inj hmake, hplaces]
    exact ⟨hsucceeds, hdir⟩
  · cases hmake

/-- **Writing a file** keeps a disk well-formed, and its directories stay. -/
theorem WellFormed.write {d d' : Disk} (h : d.WellFormed) {p : Path} (hp : p.Proper)
    (hnull : p.parts.any hasNull = false) {time : Int} {bytes : ByteArray} {modified : Option Int}
    (hwrite : d.write time p bytes modified = .ok d') : d.Succeeds d' := by
  have hparentNull : p.parent.parts.any hasNull = false := List.any_eq_false.mpr fun name hname =>
    List.any_eq_false.mp hnull name (List.dropLast_subset _ hname)
  rw [Disk.write] at hwrite
  split at hwrite
  · cases hwrite
  · rename_i made hmake
    obtain ⟨hmade, hdir⟩ := h.makeDirectories hp.parent hparentNull hmake
    refine hmade.trans ?_
    dsimp only at hwrite
    split at hwrite
    · rename_i old hfind
      split at hwrite
      · rename_i hfile
        rw [← Except.ok.inj hwrite]
        refine hmade.wellFormed.insert hp (fun hdirectory => ?_) (.inr hdir)
        rw [isDirectory, node?_of_find hp hfind, Option.any_some, hfile] at hdirectory
        cases hdirectory
      · cases hwrite
    · rename_i hfind
      rw [← Except.ok.inj hwrite, addNode]
      refine (hmade.wellFormed.insert hp (fun hdirectory => ?_) (.inr hdir)).touch time _
      -- nothing was found there, but a directory would have been
      obtain ⟨node, hnode⟩ := Option.isSome_iff_exists.mp (isSome_of_isDirectory hdirectory)
      rw [hmade.wellFormed.find_of_node? hnode, hnull, if_neg Bool.false_ne_true] at hfind
      split at hfind
      · cases hfind
      · split at hfind <;> cases hfind
    · cases hwrite

/-- **Deleting a file** keeps a disk well-formed, and its directories stay. -/
theorem WellFormed.delete {d d' : Disk} (h : d.WellFormed) {p : Path} (hp : p.Proper)
    {time : Int} (hdelete : d.delete time p = .ok d') : d.Succeeds d' := by
  rw [Disk.delete] at hdelete
  split at hdelete
  · cases hdelete
  · rename_i node hfind
    split at hdelete
    · rename_i hfile
      rw [← Except.ok.inj hdelete]
      have hne : ∀ q, d.isDirectory q → q ≠ p := by
        rintro q hq rfl
        rw [isDirectory, node?_of_find hp hfind, Option.any_some, hfile] at hq
        cases hq
      have hstay : ∀ q, d.isDirectory q → (Disk.mk (d.nodes.erase p)).isDirectory q := by
        intro q hq
        rw [isDirectory, node?_erase, if_neg (hne q hq)]
        exact hq
      have hsome : ∀ q, ((Disk.mk (d.nodes.erase p)).node? q).isSome → (d.node? q).isSome := by
        intro q hq
        rw [node?_erase] at hq
        split at hq
        · cases hq
        · exact hq
      have herase : d.Succeeds ⟨d.nodes.erase p⟩ :=
        ⟨⟨fun q hq => h.proper q (hsome q hq), fun q hq => hstay _ (h.parent q (hsome q hq))⟩, hstay⟩
      exact herase.touch time _
    · cases hdelete

end Disk

end Daybook
