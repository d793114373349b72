import Daybook.Disk.Path
import Daybook.Text.Encoding

/-!
# Disks

A disk maps places to files and directories, each with the time of its last change.  The directory
that holds a file or a directory is on the disk too.

* `Disk.node?`, `Disk.isFile`, `Disk.isDirectory`: what is at a place.
* `Disk.modified`: the time of the last change at a place; `missingTime` stands for an empty one.
* `Disk.locate`: where names lead through directories that exist; `Disk.find`: what is there.
* `Disk.holdsFile`, `Disk.holdsDirectory`: what a path leads to, if it is one that a disk can have.
* `Disk.children`, `Disk.descendants`: what is in a directory and below it.
* `Disk.readText`: the text of a file, or why there is none.
* `Disk.write`, `Disk.delete`: changes; they leave their mark on directories that gain or lose an
  entry.
-/

namespace Daybook

open Text

/-- A file or a directory. -/
inductive NodeKind where
  | file (bytes : ByteArray)
  | directory

/-- What is at a place. -/
structure DiskNode where
  kind : NodeKind
  /-- The time of the last change, in nanoseconds since 1970. -/
  modified : Int

/-- Whether something is a file. -/
def DiskNode.isFile (n : DiskNode) : Bool :=
  match n.kind with
  | .file _ => true
  | .directory => false

/-- A disk. -/
structure Disk where
  nodes : Table Path DiskNode

/-- Why something on a disk cannot be reached or used. -/
inductive DiskError where
  | notFound
  | isDirectory
  /-- There is a file where a directory is to be. -/
  | fileExists
  /-- A directory on the way is a file. -/
  | throughFile
  /-- A name, or the whole path, is longer than any on a disk. -/
  | nameTooLong
  /-- The bytes are not a text. -/
  | notText (fault : DecodeFault)
deriving DecidableEq, Repr

/-- The wording of an error about what is at a path. -/
def DiskError.message (path : String) : DiskError → String
  | notFound => "[Errno 2] No such file or directory: " ++ quoted path
  | isDirectory => "[Errno 21] Is a directory: " ++ quoted path
  | fileExists => "[Errno 17] File exists: " ++ quoted path
  | throughFile => "[Errno 20] Not a directory: " ++ quoted path
  | nameTooLong => "[Errno 36] File name too long: " ++ quoted path
  | notText fault => fault.message

namespace Disk

/-- A disk with nothing but its root. -/
def blank (time : Int) : Disk :=
  ⟨⟨[(Path.root, ⟨.directory, time⟩)]⟩⟩

/-- What is at a place. -/
def node? (d : Disk) (p : Path) : Option DiskNode :=
  d.nodes.get? p

/-- Whether there is a file at a place. -/
def isFile (d : Disk) (p : Path) : Bool :=
  (d.node? p).any (·.isFile)

/-- Whether there is a directory at a place. -/
def isDirectory (d : Disk) (p : Path) : Bool :=
  (d.node? p).any (!·.isFile)

/-- The time that stands for a place where nothing is.  Something that was last changed a nanosecond
before 1970 bears the same time. -/
def missingTime : Int := -1

/-- The time of the last change at a place. -/
def modified (d : Disk) (p : Path) : Int :=
  match d.node? p with
  | none => missingTime
  | some node => node.modified

/-- The greatest number of bytes in a name. -/
def maxNameBytes : Nat := 255

/-- The greatest number of bytes in the text of a path. -/
def maxPathBytes : Nat := 4095

/-- Where names lead from a place.  Every place on the way has to be a directory, and there has to be
something at the end. -/
def locate (d : Disk) (p : Path) : List String → Except DiskError Path
  | [] => if (d.node? p).isSome then .ok p else .error .notFound
  | part :: rest =>
    match d.node? p with
    | none => .error .notFound
    | some node =>
      if node.isFile then .error .throughFile
      else if maxNameBytes < part.utf8ByteSize then .error .nameTooLong
      else locate d (p.step part) rest

/-- Where names lead from a place, if they lead anywhere. -/
def locate? (d : Disk) (p : Path) (parts : List String) : Option Path :=
  (d.locate p parts).toOption

/-- What is at the end of a path that starts at a place.  A name with a null character leads
nowhere. -/
def find (d : Disk) (start : Path) (w : WrittenPath) : Except DiskError DiskNode :=
  if w.parts.any hasNull then .error .notFound
  else if maxPathBytes < w.text.utf8ByteSize then .error .nameTooLong
  else
    match d.locate start w.parts with
    | .error e => .error e
    | .ok p =>
      match d.node? p with
      | none => .error .notFound
      | some node => .ok node

/-- Whether a path leads to something that satisfies `test`.  One that leads nowhere does not, but
one that is too long for a disk is an error. -/
def holds (d : Disk) (start : Path) (w : WrittenPath) (test : DiskNode → Bool) :
    Except DiskError Bool :=
  match d.find start w with
  | .ok node => .ok (test node)
  | .error .nameTooLong => .error .nameTooLong
  | .error _ => .ok false

/-- Whether a path leads to a file. -/
def holdsFile (d : Disk) (start : Path) (w : WrittenPath) : Except DiskError Bool :=
  d.holds start w (·.isFile)

/-- Whether a path leads to a directory. -/
def holdsDirectory (d : Disk) (start : Path) (w : WrittenPath) : Except DiskError Bool :=
  d.holds start w (!·.isFile)

/-- What is below a directory, by the names that lead there from it. -/
def descendants (d : Disk) (base : Path) : List (List String × DiskNode) :=
  d.nodes.entries.filterMap fun e => (base.below? e.1).map fun parts => (parts, e.2)

/-- What is in a directory. -/
def children (d : Disk) (base : Path) : List (String × DiskNode) :=
  (d.descendants base).filterMap fun e =>
    match e.1 with
    | [name] => some (name, e.2)
    | _ => none

/-- The bytes of a file. -/
def readBytes (d : Disk) (p : Path) : Except DiskError ByteArray :=
  match d.find .root p.written with
  | .error e => .error e
  | .ok node =>
    match node.kind with
    | .directory => .error .isDirectory
    | .file bytes => .ok bytes

/-- The text of a file. -/
def readText (d : Disk) (p : Path) : Except DiskError String :=
  match d.readBytes p with
  | .error e => .error e
  | .ok bytes =>
    match decodeText bytes with
    | .error fault => .error (.notText fault)
    | .ok text => .ok text

/-! ## Changes -/

/-- Sets the time of the last change of what is at a place. -/
def touch (d : Disk) (time : Int) (p : Path) : Disk :=
  match d.node? p with
  | none => d
  | some node => ⟨d.nodes.insert p { node with modified := time }⟩

/-- Puts something new at a place and touches the directory that gains it. -/
def addNode (d : Disk) (time : Int) (p : Path) (node : DiskNode) : Disk :=
  (Disk.mk (d.nodes.insert p node)).touch time p.parent

/-- Makes a directory, unless something is there. -/
def makeDirectory (d : Disk) (time : Int) (p : Path) : Disk :=
  if (d.node? p).isSome then d else d.addNode time p ⟨.directory, time⟩

/-- Makes a directory and those that it is in, as far as they are missing. -/
def makeDirectories (d : Disk) (time : Int) (p : Path) : Except DiskError Disk :=
  match d.find .root p.written with
  | .ok node => if node.isFile then .error .fileExists else .ok d
  | .error .notFound =>
    .ok ((p.ancestors ++ [p]).foldl (fun d p => d.makeDirectory time p) d)
  | .error e => .error e

/-- Writes a file, whose time of change can be given, and makes the directories that are missing. -/
def write (d : Disk) (time : Int) (p : Path) (bytes : ByteArray) (modified : Option Int) :
    Except DiskError Disk :=
  match d.makeDirectories time p.parent with
  | .error e => .error e
  | .ok d =>
    let node : DiskNode := ⟨.file bytes, modified.getD time⟩
    match d.find .root p.written with
    | .ok old => if old.isFile then .ok ⟨d.nodes.insert p node⟩ else .error .isDirectory
    | .error .notFound => .ok (d.addNode time p node)
    | .error e => .error e

/-- Deletes a file. -/
def delete (d : Disk) (time : Int) (p : Path) : Except DiskError Disk :=
  match d.find .root p.written with
  | .error e => .error e
  | .ok node =>
    if node.isFile then .ok ((Disk.mk (d.nodes.erase p)).touch time p.parent)
    else .error .isDirectory

end Disk

end Daybook
