import Daybook.Disk.Basic
import Daybook.Disk.NamePattern

/-!
# Patterns for paths

Each name of a path can be a pattern, and two stars stand for any number of directories.

* `Disk.expandPart`: the places that one part of a pattern leads to.
* `Disk.expand`: the files that fit a pattern, in the order of their texts.
-/

namespace Daybook

/-- The part of a pattern that stands for any number of directories. -/
def anyDepth : String := "**"

namespace Disk

/-- What is in or below the directory that names lead to; nothing if they lead to no directory. -/
def below (d : Disk) (dir : List String) : List (List String × DiskNode) :=
  match d.locate? .root dir with
  | none => []
  | some p => if d.isDirectory p then d.descendants p else []

/-- The places that one part of a pattern leads to from a directory.  Only the last part leads to
files. -/
def expandPart (d : Disk) (last : Bool) (part : String) (dir : List String) :
    List (List String) :=
  if part = anyDepth then
    let found := (d.below dir).filter fun e =>
      e.1.all (!isHidden ·) && (last || !e.2.isFile)
    (if last then [] else [dir]) ++ found.map fun e => dir ++ e.1
  else if hasWildcard part then
    (d.below dir).filterMap fun e =>
      match e.1 with
      | [name] =>
        if acceptsName part name && (last || !e.2.isFile) then some (dir ++ [name]) else none
      | _ => none
  else if (d.locate? .root (dir ++ [part])).isSome then [dir ++ [part]]
  else []

/-- The places that the parts of a pattern lead to from directories. -/
def expandParts (d : Disk) (dirs : List (List String)) : List String → List (List String)
  | [] => dirs
  | part :: rest => d.expandParts (dirs.flatMap (d.expandPart rest.isEmpty part)) rest

/-- The files that fit a pattern, in the order of their texts.  The names in front of the first
wildcard are taken as they are. -/
def expand (d : Disk) (pattern : List String) : List (List String) :=
  let fixed := pattern.takeWhile (!hasWildcard ·)
  let found := d.expandParts [fixed] (pattern.dropWhile (!hasWildcard ·))
  let files := found.filter fun parts => (d.locate? .root parts).any d.isFile
  files.mergeSort fun a b => decide ((Path.mk a).text ≤ (Path.mk b).text)

end Disk

end Daybook
