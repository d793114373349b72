import Daybook.Table
import Daybook.Text.Trim

/-!
# Paths

A `Path` is a place on a disk.  A `WrittenPath` is what somebody wrote to name one: it can be
relative, can go up, and can start at a home directory.

* `Path.step`, `Path.follow`: the place that names lead to.
* `WrittenPath.read`, `WrittenPath.text`: paths as texts.
* `Surroundings`: what written paths are relative to; `Surroundings.expandHome`,
  `Surroundings.resolve`.
-/

namespace Daybook

open Text

/-- A place on a disk: the names that lead to it from the root. -/
structure Path where
  parts : List String
deriving DecidableEq, Repr, Inhabited

namespace Path

/-- The root of the disk. -/
def root : Path := ⟨[]⟩

/-- The text of a place: every name behind a slash. -/
def text (p : Path) : String :=
  "/" ++ "/".intercalate p.parts

/-- The place of a name in a directory. -/
def child (p : Path) (name : String) : Path :=
  ⟨p.parts ++ [name]⟩

/-- The directory that a place is in; the root is in itself. -/
def parent (p : Path) : Path :=
  ⟨p.parts.dropLast⟩

/-- Where a name leads: a single dot stays, two dots go up. -/
def step (p : Path) (part : String) : Path :=
  if part = "." then p else if part = ".." then p.parent else p.child part

/-- Where names lead one after another. -/
def follow (p : Path) (parts : List String) : Path :=
  parts.foldl step p

/-- The directories that a place is in, the root first. -/
def ancestors (p : Path) : List Path :=
  (List.range p.parts.length).map fun n => ⟨p.parts.take n⟩

/-- The names that lead from a directory to a place in it or below it. -/
def below? (base p : Path) : Option (List String) :=
  if base.parts.isPrefixOf p.parts && base.parts.length < p.parts.length then
    some (p.parts.drop base.parts.length)
  else none

/-- Whether a place comes before another or is the same: by their names, one after another. -/
def le (a b : Path) : Bool :=
  !decide (b.parts < a.parts)

end Path

/-! ## Written paths -/

/-- The names of a text between slashes. -/
def partsOf (cs : List Char) : List String :=
  ((splitAt '/' cs).filter (!·.isEmpty)).map String.ofList

/-- What a written path starts with. -/
inductive Anchor where
  /-- A name: the path is relative. -/
  | here
  /-- A slash: the path starts at the root. -/
  | root
  /-- Two slashes, which stand for the root too, but stay two when the path is shown. -/
  | doubledRoot
deriving DecidableEq, Repr

/-- What a text starts with.  Three slashes or more are as good as one. -/
def Anchor.ofChars : List Char → Anchor
  | '/' :: '/' :: '/' :: _ => root
  | '/' :: '/' :: _ => doubledRoot
  | '/' :: _ => root
  | _ => here

/-- The text of an anchor. -/
def Anchor.text : Anchor → String
  | here => ""
  | root => "/"
  | doubledRoot => "//"

/-- A path as somebody wrote it. -/
structure WrittenPath where
  anchor : Anchor
  /-- The names, without single dots. -/
  parts : List String
deriving DecidableEq, Repr

namespace WrittenPath

/-- The path that a text writes. -/
def read (text : String) : WrittenPath :=
  ⟨.ofChars text.toList, (partsOf text.toList).filter (· != ".")⟩

/-- Whether a path starts at the root. -/
def absolute (w : WrittenPath) : Bool :=
  w.anchor != .here

/-- The text of a path; one that stays where it is is a single dot. -/
def text (w : WrittenPath) : String :=
  if w.absolute || !w.parts.isEmpty then w.anchor.text ++ "/".intercalate w.parts else "."

end WrittenPath

/-- The path that names a place from the root. -/
def Path.written (p : Path) : WrittenPath :=
  ⟨.root, p.parts⟩

/-- What written paths are relative to. -/
structure Surroundings where
  workingDirectory : Path
  /-- The home directory as it is written. -/
  home : String
  /-- The home directories of other users. -/
  userHomes : Table String String

/-- Why a written path leads nowhere. -/
inductive PathError where
  /-- The path starts at the home directory of an unknown user. -/
  | unknownHome
  /-- A name holds a null character, which no name on a disk can. -/
  | nullCharacter
deriving DecidableEq, Repr

/-- The wording of an error. -/
def PathError.message : PathError → String
  | unknownHome => "Could not determine home directory."
  | nullCharacter => "embedded null byte"

/-- Whether a text holds a null character. -/
def hasNull (text : String) : Bool :=
  text.toList.contains '\x00'

namespace Surroundings

/-- The home directory of a user; without a name it is one's own. -/
def homeOf? (s : Surroundings) (user : String) : Option String :=
  if user.isEmpty then some s.home else s.userHomes.get? user

/-- A text with a tilde in front replaced by a home directory; that of an unknown user stays. -/
def expandHome (s : Surroundings) (text : String) : Except PathError String :=
  match text.toList with
  | '~' :: rest =>
    let user := String.ofList (rest.takeWhile (· != '/'))
    if hasNull user then .error .nullCharacter
    else
      match s.homeOf? user with
      | none => .ok text
      | some home =>
        let expanded := dropEndWhile (· == '/') home.toList ++ rest.dropWhile (· != '/')
        .ok (if expanded.isEmpty then "/" else String.ofList expanded)
  | _ => .ok text

/-- A path with a tilde in front replaced by a home directory. -/
def expandPath (s : Surroundings) (w : WrittenPath) : Except PathError WrittenPath :=
  match w.anchor, w.parts with
  | .here, first :: rest =>
    if first.toList.head? == some '~' then
      match s.expandHome first with
      | .error e => .error e
      | .ok home =>
        if home.toList.head? == some '~' then .error .unknownHome
        else
          let base := WrittenPath.read home
          .ok { base with parts := base.parts ++ rest }
    else .ok w
  | _, _ => .ok w

/-- Where a path starts. -/
def startOf (s : Surroundings) (w : WrittenPath) : Path :=
  if w.absolute then .root else s.workingDirectory

/-- The place that a written path names.  Going up is a matter of the names alone. -/
def resolve (s : Surroundings) (w : WrittenPath) : Except PathError Path :=
  match s.expandPath w with
  | .error e => .error e
  | .ok w =>
    if w.parts.any hasNull then .error .nullCharacter else .ok ((s.startOf w).follow w.parts)

end Surroundings

end Daybook
