import Daybook.Disk.Expansion
import Daybook.Proofs.Disk.Basic
import Mathlib.Data.String.Basic

/-!
# Patterns with a wildcard in the last name

Such a pattern stands for files of one directory.  The names in front of the wildcard are followed one
by one, and where they go up, they have to go up from a directory that is there.

* `Disk.locate_concat_eq_ok_iff`: where names and one more name lead.
* `Disk.LeavesDirectories`: whether names only go up from directories.
* `Disk.WellFormed.locate_eq_ok`: names that do so lead to any directory that they name.
* `Disk.Succeeds.locate_eq_ok`: names that led to a directory lead there still.
* `WildcardLast`: whether the only wildcard of a pattern is in its last name.
* `Disk.WellFormed.mem_expand_iff`: the files that such a pattern stands for.
* `Disk.WellFormed.expand_congr`: on what they depend.
-/

namespace Daybook

/-! ## Texts of places -/

theorem intercalate_concat_injective (separator : List Char) (front : List (List Char)) :
    Function.Injective fun last => separator.intercalate (front ++ [last]) := by
  induction front with
  | nil =>
    intro last last' h
    simpa only [List.nil_append, List.intercalate_singleton] using h
  | cons text front ih =>
    intro last last' h
    refine ih ?_
    cases front with
    | nil =>
      simpa only [List.cons_append, List.nil_append, List.intercalate_cons_cons,
        List.append_cancel_left_eq] using h
    | cons next front =>
      simpa only [List.cons_append, List.intercalate_cons_cons, List.append_cancel_left_eq] using h

/-- Names in one directory are told apart by the texts of their places. -/
theorem Path.text_concat_injective (front : List String) :
    Function.Injective fun name => (Path.mk (front ++ [name])).text := by
  intro name name' h
  have htext (n : String) : (Path.mk (front ++ [n])).text.toList =
      '/' :: ['/'].intercalate (front.map String.toList ++ [n.toList]) := by
    rw [Path.text, String.toList_append, String.toList_intercalate, List.map_append]
    rfl
  have hlist := congrArg String.toList h
  simp only [htext, List.cons.injEq, true_and] at hlist
  exact String.toList_inj.mp (intercalate_concat_injective _ _ hlist)

theorem Path.step_eq_child {p : Path} {name : String} (h : (p.child name).Proper) :
    p.step name = p.child name := by
  obtain ⟨hdot, hdots⟩ := h name (List.mem_append_right _ List.mem_cons_self)
  rw [step, if_neg hdot, if_neg hdots]

namespace Disk

variable {d d' : Disk}

/-! ## Where names lead -/

theorem any_locate?_iff {p : Path} {parts : List String} {test : Path → Bool} :
    (d.locate? p parts).any test = true ↔ ∃ q, d.locate p parts = .ok q ∧ test q = true := by
  rw [locate?]
  cases d.locate p parts with
  | error e => exact iff_of_false Bool.false_ne_true nofun
  | ok q => exact ⟨fun h => ⟨q, rfl, h⟩, fun ⟨_, hq, h⟩ => Except.ok.inj hq ▸ h⟩

theorem WellFormed.isDirectory_of_child (h : d.WellFormed) {p : Path} {name : String}
    (hfile : d.isFile (p.child name)) : d.isDirectory p := by
  have hparent := h.parent _ (isSome_of_isFile hfile)
  rwa [Path.parent, Path.child, List.dropLast_concat] at hparent

theorem locate_nil_eq_ok_iff {p q : Path} :
    d.locate p [] = .ok q ↔ p = q ∧ (d.node? q).isSome := by
  rw [locate]
  split
  · rename_i hsome
    rw [Except.ok.injEq]
    exact ⟨fun h => ⟨h, h ▸ hsome⟩, And.left⟩
  · rename_i hnone
    constructor
    · intro h
      cases h
    · rintro ⟨rfl, hsome⟩
      exact absurd hsome hnone

theorem locate_cons_eq_ok_iff {p q : Path} {part : String} {parts : List String} :
    d.locate p (part :: parts) = .ok q ↔
      d.isDirectory p ∧ part.utf8ByteSize ≤ maxNameBytes ∧ d.locate (p.step part) parts = .ok q := by
  rw [locate, isDirectory]
  cases d.node? p with
  | none =>
    constructor
    · intro h
      cases h
    · rintro ⟨hdir, -⟩
      cases hdir
  | some node =>
    dsimp only
    rw [Option.any_some, Bool.not_eq_true', ← Nat.not_lt]
    cases node.isFile with
    | true =>
      constructor
      · intro h
        cases h
      · rintro ⟨hdir, -⟩
        cases hdir
    | false =>
      rw [if_neg Bool.false_ne_true]
      split
      · rename_i hlong
        constructor
        · intro h
          cases h
        · rintro ⟨-, hfits, -⟩
          exact absurd hlong hfits
      · rename_i hfits
        exact ⟨fun h => ⟨rfl, hfits, h⟩, fun h => h.2.2⟩

/-- Where names and one more name lead. -/
theorem locate_concat_eq_ok_iff {p q : Path} {parts : List String} {part : String} :
    d.locate p (parts ++ [part]) = .ok q ↔
      ∃ dir, d.locate p parts = .ok dir ∧ d.isDirectory dir ∧
        part.utf8ByteSize ≤ maxNameBytes ∧ dir.step part = q ∧ (d.node? q).isSome := by
  induction parts generalizing p with
  | nil =>
    rw [List.nil_append, locate_cons_eq_ok_iff, locate_nil_eq_ok_iff]
    constructor
    · rintro ⟨hdir, hfits, hstep, hsome⟩
      exact ⟨p, locate_nil_eq_ok_iff.mpr ⟨rfl, isSome_of_isDirectory hdir⟩, hdir, hfits, hstep, hsome⟩
    · rintro ⟨dir, hlocate, hrest⟩
      rw [(locate_nil_eq_ok_iff.mp hlocate).1]
      exact hrest
  | cons first parts ih =>
    rw [List.cons_append, locate_cons_eq_ok_iff, ih]
    constructor
    · rintro ⟨hdir, hfits, dir, hlocate, hrest⟩
      exact ⟨dir, locate_cons_eq_ok_iff.mpr ⟨hdir, hfits, hlocate⟩, hrest⟩
    · rintro ⟨dir, hlocate, hrest⟩
      obtain ⟨hdir, hfits, hlocate⟩ := locate_cons_eq_ok_iff.mp hlocate
      exact ⟨hdir, hfits, dir, hlocate, hrest⟩

/-- Whether names that are followed from the root only go up from places that are directories. -/
def LeavesDirectories (d : Disk) (parts : List String) : Prop :=
  ∀ front, front ++ [".."] <+: parts → d.isDirectory (Path.root.follow front)

/-- Names that only go up from directories lead to any directory that they name. -/
theorem WellFormed.locate_eq_ok (h : d.WellFormed) {parts : List String}
    (hup : d.LeavesDirectories parts) (hfits : ∀ part ∈ parts, part.utf8ByteSize ≤ maxNameBytes)
    (hdir : d.isDirectory (Path.root.follow parts)) :
    d.locate .root parts = .ok (Path.root.follow parts) := by
  induction parts using List.reverseRecOn with
  | nil => exact locate_nil_eq_ok_iff.mpr ⟨rfl, isSome_of_isDirectory hdir⟩
  | append_singleton front part ih =>
    have hfollow : Path.root.follow (front ++ [part]) = (Path.root.follow front).step part :=
      List.foldl_concat _ _ _ _
    have hfront : d.isDirectory (Path.root.follow front) := by
      rw [hfollow, Path.step] at hdir
      split at hdir
      · exact hdir
      · split at hdir
        · -- the place that is left need not be on the way to the place that is reached
          rename_i hdots
          exact hup front (hdots ▸ List.prefix_rfl)
        · have hparent := h.parent _ (isSome_of_isDirectory hdir)
          rw [Path.parent, Path.child, List.dropLast_concat] at hparent
          exact hparent
    have hlocate := ih (fun front' hfront' => hup front' (hfront'.trans (List.prefix_append _ _)))
      (fun part' hpart' => hfits part' (List.mem_append_left _ hpart')) hfront
    exact locate_concat_eq_ok_iff.mpr ⟨_, hlocate, hfront,
      hfits part (List.mem_append_right _ List.mem_cons_self), hfollow.symm,
      isSome_of_isDirectory hdir⟩

/-- Names that led to a directory lead there still. -/
theorem Succeeds.locate_eq_ok (h : d.Succeeds d') {p q : Path} {parts : List String}
    (hlocate : d.locate p parts = .ok q) (hq : d.isDirectory q) : d'.locate p parts = .ok q := by
  induction parts using List.reverseRecOn generalizing q with
  | nil =>
    exact locate_nil_eq_ok_iff.mpr ⟨(locate_nil_eq_ok_iff.mp hlocate).1,
      isSome_of_isDirectory (h.directories q hq)⟩
  | append_singleton front part ih =>
    obtain ⟨dir, hfront, hdir, hfits, hstep, -⟩ := locate_concat_eq_ok_iff.mp hlocate
    exact locate_concat_eq_ok_iff.mpr ⟨dir, ih hfront hdir, h.directories dir hdir, hfits, hstep,
      isSome_of_isDirectory (h.directories q hq)⟩

/-- Names that lead somewhere are not too long. -/
theorem fits_of_locate {p q : Path} {parts : List String} (h : d.locate p parts = .ok q) :
    ∀ part ∈ parts, part.utf8ByteSize ≤ maxNameBytes := by
  induction parts generalizing p with
  | nil => exact List.forall_mem_nil _
  | cons part parts ih =>
    obtain ⟨-, hfits, hrest⟩ := locate_cons_eq_ok_iff.mp h
    exact List.forall_mem_cons.mpr ⟨hfits, ih hrest⟩

/-! ## Files of one directory -/

theorem mem_below_iff {dir names : List String} {node : DiskNode} :
    (names, node) ∈ d.below dir ↔
      d.locate .root dir = .ok (Path.root.follow dir) ∧ d.isDirectory (Path.root.follow dir) ∧
        names ≠ [] ∧ (Path.mk ((Path.root.follow dir).parts ++ names), node) ∈ d.nodes.entries := by
  rw [below, locate?]
  cases hlocate : d.locate .root dir with
  | error e => exact iff_of_false List.not_mem_nil nofun
  | ok p =>
    obtain rfl := (of_locate hlocate).1
    simp only [Except.toOption, true_and]
    split
    · rename_i hdir
      rw [mem_descendants_iff]
      exact ⟨fun h => ⟨hdir, h⟩, And.right⟩
    · rename_i hdir
      exact iff_of_false List.not_mem_nil fun h => hdir h.1

end Disk

/-- Whether the only wildcard of a pattern is in its last name, which stands for one name. -/
structure WildcardLast (pattern front : List String) (last : String) : Prop where
  eq : pattern = front ++ [last]
  plain : ∀ part ∈ front, hasWildcard part = false
  wildcard : hasWildcard last = true
  oneName : last ≠ anyDepth

variable {d d' : Disk} {pattern front : List String} {last : String}

theorem WildcardLast.not_hasWildcard (h : WildcardLast pattern front last) {part : String}
    (hpart : part ∈ front) : (!hasWildcard part) = true := by
  rw [h.plain part hpart]
  rfl

/-- The directory of such a pattern is in front of its first wildcard. -/
theorem WildcardLast.takeWhile_eq (h : WildcardLast pattern front last) :
    pattern.takeWhile (!hasWildcard ·) = front := by
  rw [h.eq, List.takeWhile_append_of_pos fun _ => h.not_hasWildcard,
    List.takeWhile_cons_of_neg (by simp [h.wildcard]), List.append_nil]

/-- Such a pattern is looked up in one directory. -/
theorem WildcardLast.expand_eq (h : WildcardLast pattern front last) (d : Disk) :
    d.expand pattern =
      ((d.expandPart true last front).filter fun parts =>
        (d.locate? .root parts).any d.isFile).mergeSort fun a b =>
          decide ((Path.mk a).text ≤ (Path.mk b).text) := by
  have hdrop : pattern.dropWhile (!hasWildcard ·) = [last] := by
    rw [h.eq, List.dropWhile_append_of_pos fun _ => h.not_hasWildcard,
      List.dropWhile_cons_of_neg (by simp [h.wildcard])]
  rw [Disk.expand, h.takeWhile_eq, hdrop]
  simp only [Disk.expandParts, List.isEmpty_nil, List.flatMap_singleton]

namespace Disk

/-- The places that a wildcard leads to from a directory. -/
theorem mem_expandPart_iff (h : WildcardLast pattern front last) {parts : List String} :
    parts ∈ d.expandPart true last front ↔
      ∃ name node, parts = front ++ [name] ∧ acceptsName last name = true ∧
        ([name], node) ∈ d.below front := by
  rw [expandPart, if_neg h.oneName, if_pos h.wildcard, List.mem_filterMap]
  constructor
  · rintro ⟨⟨names, node⟩, hbelow, hparts⟩
    split at hparts
    · rename_i name hnames
      split at hparts
      · rename_i haccepts
        rw [Bool.and_eq_true] at haccepts
        dsimp only at hnames
        exact ⟨name, node, (Option.some.inj hparts).symm, haccepts.1, hnames ▸ hbelow⟩
      · cases hparts
    · cases hparts
  · rintro ⟨name, node, rfl, haccepts, hbelow⟩
    refine ⟨_, hbelow, ?_⟩
    dsimp only
    rw [haccepts]
    rfl

/-- **The files that a pattern with a wildcard in its last name stands for**: the files of the directory
that the names in front lead to, as far as their names fit. -/
theorem WellFormed.mem_expand_iff (hd : d.WellFormed) (h : WildcardLast pattern front last)
    {parts : List String} :
    parts ∈ d.expand pattern ↔
      ∃ name, parts = front ++ [name] ∧ acceptsName last name = true ∧
        name.utf8ByteSize ≤ maxNameBytes ∧ d.locate .root front = .ok (Path.root.follow front) ∧
        d.isFile ((Path.root.follow front).child name) := by
  rw [h.expand_eq, List.mem_mergeSort, List.mem_filter, mem_expandPart_iff h]
  have hlocated {name : String} (hname : ((Path.root.follow front).child name).Proper) :
      (d.locate? .root (front ++ [name])).any d.isFile = true ↔
        name.utf8ByteSize ≤ maxNameBytes ∧ d.locate .root front = .ok (Path.root.follow front) ∧
          d.isFile ((Path.root.follow front).child name) := by
    rw [any_locate?_iff]
    constructor
    · rintro ⟨place, hlocate, hfile⟩
      obtain ⟨dir, hfront, -, hfits, hstep, -⟩ := locate_concat_eq_ok_iff.mp hlocate
      obtain rfl := (of_locate hfront).1
      rw [Path.step_eq_child hname] at hstep
      exact ⟨hfits, hfront, hstep ▸ hfile⟩
    · rintro ⟨hfits, hfront, hfile⟩
      exact ⟨_, locate_concat_eq_ok_iff.mpr ⟨_, hfront, hd.isDirectory_of_child hfile, hfits,
        Path.step_eq_child hname, isSome_of_isFile hfile⟩, hfile⟩
  constructor
  · rintro ⟨⟨name, node, rfl, haccepts, hbelow⟩, hfile⟩
    have hsome : (d.node? ((Path.root.follow front).child name)).isSome :=
      isSome_of_mem_entries (mem_below_iff.mp hbelow).2.2.2
    exact ⟨name, rfl, haccepts, (hlocated (hd.proper _ hsome)).mp hfile⟩
  · rintro ⟨name, rfl, haccepts, hrest⟩
    obtain ⟨node, hnode⟩ := Option.isSome_iff_exists.mp (isSome_of_isFile hrest.2.2)
    have hproper := hd.proper _ (isSome_of_isFile hrest.2.2)
    refine ⟨⟨name, node, rfl, haccepts, ?_⟩, (hlocated hproper).mpr hrest⟩
    rw [mem_below_iff]
    exact ⟨hrest.2.1, hd.isDirectory_of_child hrest.2.2, List.cons_ne_nil _ _,
      Table.mem_of_find_eq_some hnode⟩

theorem pairwise_below (hd : d.nodes.Distinct) (dir : List String) :
    (d.below dir).Pairwise fun e e' => e.1 ≠ e'.1 := by
  rw [below]
  split
  · exact .nil
  · split
    · refine List.Pairwise.filterMap _ ?_ (List.pairwise_map.mp hd)
      rintro e e' hne b hb b' hb' heq
      obtain ⟨names, hnames, rfl⟩ := Option.map_eq_some_iff.mp hb
      obtain ⟨names', hnames', rfl⟩ := Option.map_eq_some_iff.mp hb'
      obtain rfl : names = names' := heq
      exact hne ((Path.below?_eq_some_iff.mp hnames).1.trans
        (Path.below?_eq_some_iff.mp hnames').1.symm)
    · exact .nil

/-- The files that such a pattern stands for are all different. -/
theorem nodup_expand (hd : d.nodes.Distinct) (h : WildcardLast pattern front last) :
    (d.expand pattern).Nodup := by
  rw [h.expand_eq, (List.mergeSort_perm _ _).nodup_iff]
  refine List.Nodup.filter _ ?_
  rw [expandPart, if_neg h.oneName, if_pos h.wildcard]
  refine List.Pairwise.filterMap _ ?_ (pairwise_below hd front)
  rintro ⟨names, node⟩ ⟨names', node'⟩ hne parts hparts parts' hparts' rfl
  dsimp only at hparts hparts'
  split at hparts
  · split at hparts
    · split at hparts'
      · split at hparts'
        · exact hne (List.append_cancel_left
            ((Option.some.inj hparts).trans (Option.some.inj hparts').symm))
        · cases hparts'
      · cases hparts'
    · cases hparts
  · cases hparts

theorem pairwise_expand (d : Disk) (pattern : List String) :
    (d.expand pattern).Pairwise fun a b => (Path.mk a).text ≤ (Path.mk b).text := by
  refine (List.pairwise_mergeSort (fun a b c hab hbc => ?_) (fun a b => ?_) _).imp
    of_decide_eq_true
  · exact decide_eq_true ((of_decide_eq_true hab).trans (of_decide_eq_true hbc))
  · simpa using le_total (Path.mk a).text (Path.mk b).text

/-- **Which disks a pattern cannot tell apart**: those on which the same files fit, whatever the order
in which the disks list them. -/
theorem WellFormed.expand_congr (hd : d.WellFormed) (hd' : d'.WellFormed)
    (hdistinct : d.nodes.Distinct) (hdistinct' : d'.nodes.Distinct)
    (h : WildcardLast pattern front last)
    (hfiles : ∀ parts, parts ∈ d'.expand pattern ↔ parts ∈ d.expand pattern) :
    d'.expand pattern = d.expand pattern := by
  have hperm := (List.perm_ext_iff_of_nodup (nodup_expand hdistinct' h)
    (nodup_expand hdistinct h)).mpr hfiles
  refine hperm.eq_of_pairwise (fun parts parts' hparts hparts' hle hle' => ?_)
    (pairwise_expand d' pattern) (pairwise_expand d pattern)
  obtain ⟨name, rfl, -⟩ := (hd'.mem_expand_iff h).mp hparts
  obtain ⟨name', rfl, -⟩ := (hd.mem_expand_iff h).mp hparts'
  rw [Path.text_concat_injective front (le_antisymm hle hle')]

end Disk

end Daybook
