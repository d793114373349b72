import Daybook.Proofs.Disk.Basic
import Daybook.Project.Include
import Mathlib.Data.List.TakeWhile

/-!
# Plain include targets

A plain target stands for the file at its place or for none, and its place is what is watched for
it, so that it comes to stand for something else exactly when the watched place changes.  This needs
that there is no wildcard in the directory of the file either, since the whole path is taken for a
pattern, and that no name is too long, since a long name is an error only once its directory is
there.

* `IncludeSite.Plain`: whether a target is plain where it stands.
* `IncludeSite.proper_of_resolve`: the files that a target stands for are at proper places.
* `IncludeSite.Plain.resolve`: what a plain target stands for on any disk.
-/

namespace Daybook.Project

/-- The place that names lead to from the root. -/
theorem resolve_root (s : Surroundings) (parts : List String) :
    s.resolve ⟨.root, parts⟩ =
      if parts.any hasNull then .error .nullCharacter else .ok (Path.root.follow parts) := rfl

namespace IncludeSite

variable {site : IncludeSite} {pattern : String}

/-- Whether a target, with the directory of its file in front, is a path without wildcards whose
names are not too long for a disk. -/
def Plain (site : IncludeSite) (pattern : String) : Prop :=
  match site.surroundings.expandHome pattern with
  | .error _ => True
  | .ok target =>
    (site.fullParts target).any hasWildcard = false ∧
      (Path.root.follow (site.fullParts target)).Fits

instance (site : IncludeSite) (pattern : String) : Decidable (site.Plain pattern) :=
  match h : site.surroundings.expandHome pattern with
  | .error _ => .isTrue (by simp only [Plain, h])
  | .ok target =>
    decidable_of_iff ((site.fullParts target).any hasWildcard = false ∧
      (Path.root.follow (site.fullParts target)).Fits) (by simp only [Plain, h])

/-- The files that a target stands for are at proper places. -/
theorem proper_of_resolve {disk : Disk} {files : List Path}
    (h : site.resolve disk pattern = .ok files) {path : Path} (hpath : path ∈ files) :
    path.Proper := by
  rw [resolve] at h
  split at h
  · cases h
  · rename_i target _
    dsimp only at h
    split at h
    · rw [patternFiles] at h
      split at h
      · cases h
      · split at h
        · cases h
          cases hpath
        · cases h
          obtain ⟨parts, -, rfl⟩ := List.mem_map.mp hpath
          exact Path.proper_root.follow parts
    · rw [plainFile, resolve_root] at h
      split at h
      · cases h
      · rename_i place hplace
        split at hplace
        · cases hplace
        · cases hplace
          split at h
          · cases h
          · split at h
            · cases h
              cases List.mem_singleton.mp hpath
              exact Path.proper_root.follow _
            · cases h
              cases hpath

/-- **What a plain target stands for**: it is an error on every disk, or it stands for the file at
the place that is watched for it. -/
theorem Plain.resolve (h : site.Plain pattern) :
    (∃ e, ∀ disk : Disk, disk.WellFormed → site.resolve disk pattern = .error e) ∨
    ∃ place, site.watch pattern = .ok place ∧ ∀ disk : Disk, disk.WellFormed →
      site.resolve disk pattern = .ok (if disk.isFile place then [place] else []) := by
  rw [Plain] at h
  unfold IncludeSite.resolve watch
  cases hhome : site.surroundings.expandHome pattern with
  | error e => exact .inl ⟨.nowhere e, fun _ _ => rfl⟩
  | ok target =>
    rw [hhome] at h
    obtain ⟨hwild, hfits⟩ := h
    dsimp only
    have hall : (site.fullParts target).takeWhile (!hasWildcard ·) = site.fullParts target :=
      List.takeWhile_eq_self_iff.mpr fun part hpart => by
        simpa using List.any_eq_false.mp hwild part hpart
    simp only [hwild, Bool.false_eq_true, if_false, hall, plainFile, resolve_root]
    cases hnull : (site.fullParts target).any hasNull with
    | true => exact .inl ⟨.nowhere .nullCharacter, fun _ _ => rfl⟩
    | false =>
      simp only [Bool.false_eq_true, if_false]
      have hplaceNull := Path.any_hasNull_root_follow hnull
      have hholds (disk : Disk) (hdisk : disk.WellFormed) :=
        hdisk.holdsFile_eq (Path.proper_root.follow (site.fullParts target)) hfits hplaceNull
      by_cases hlong : Disk.maxPathBytes <
          (Path.root.follow (site.fullParts target)).written.text.utf8ByteSize
      · refine .inl ⟨.unreadable (.follow .root (site.fullParts target)) .nameTooLong, fun disk hdisk => ?_⟩
        rw [hholds disk hdisk, if_pos hlong]
      · refine .inr ⟨_, rfl, fun disk hdisk => ?_⟩
        rw [hholds disk hdisk, if_neg hlong]

end IncludeSite

end Daybook.Project
