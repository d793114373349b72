import Daybook.Disk.Expansion
import Daybook.Journal.LineTokens
import Daybook.Project.Error

/-!
# Includes

A journal can include others, by paths that are relative to its own directory or by patterns.

* `includeTargets`: what the include directives of a text name.
* `IncludeSite.resolve`: the files that a target stands for.
* `IncludeSite.watch`: the place whose change can make it stand for other files.
-/

namespace Daybook.Project

open Text Journal

/-- What an include directive names, and the line it stands on. -/
structure IncludeTarget where
  pattern : String
  line : Nat
deriving DecidableEq, Repr

/-- What an include directive on a line names. -/
def includeOfLine? (cs : List Char) : Option String :=
  if "include".toList.isPrefixOf cs then
    match readLine? cs with
    | none => none
    | some r =>
      let target := trimChars (r.found.textD .text)
      if r.rule.kind = .directive && r.found.textD .directive == "include".toList &&
          !target.isEmpty then
        some (String.ofList target)
      else none
  else none

/-- What the include directives of a text name, in order. -/
def includeTargets (text : String) : List IncludeTarget :=
  (textLines text).zipIdx.filterMap fun l => (includeOfLine? l.1).map fun t => ⟨t, l.2⟩

/-- Where an include directive stands: what paths are relative to, and the absolute path of the
directory of the file. -/
structure IncludeSite where
  surroundings : Surroundings
  directory : WrittenPath

namespace IncludeSite

/-- The names that lead from the root to a target, whose home directory is filled in.  Only an
absolute target keeps single dots. -/
def fullParts (site : IncludeSite) (target : String) : List String :=
  let written := WrittenPath.read target
  if written.absolute then partsOf target.toList else site.directory.parts ++ written.parts

/-- Whether a target can only be a directory: an absolute one that ends with a slash. -/
def namesDirectory (target : String) : Bool :=
  let cs := target.toList
  cs.head? == some '/' && cs.getLast? == some '/'

/-- The file at the place that names lead to, if there is one. -/
def plainFile (site : IncludeSite) (disk : Disk) (parts : List String) :
    Except ProjectError (List Path) :=
  match site.surroundings.resolve ⟨.root, parts⟩ with
  | .error e => .error (.nowhere e)
  | .ok place =>
    match disk.holdsFile .root place.written with
    | .error e => .error (.unreadable place e)
    | .ok found => .ok (if found then [place] else [])

/-- The files that a pattern stands for.  The directory in front of the first wildcard is listed, so
its names have to be ones that a disk can have. -/
def patternFiles (disk : Disk) (target : String) (parts : List String) :
    Except ProjectError (List Path) :=
  if (parts.takeWhile (!hasWildcard ·)).any hasNull then .error (.nowhere .nullCharacter)
  else if namesDirectory target then .ok []
  else .ok ((disk.expand parts).map Path.root.follow)

/-- The files that a target stands for.  A plain target stands for the file at its place, a pattern
for all files that fit it. -/
def resolve (site : IncludeSite) (disk : Disk) (pattern : String) :
    Except ProjectError (List Path) :=
  match site.surroundings.expandHome pattern with
  | .error e => .error (.nowhere e)
  | .ok target =>
    let parts := site.fullParts target
    if parts.any hasWildcard then patternFiles disk target parts
    else site.plainFile disk parts

/-- The place to watch for a target: a plain target itself, and for a pattern the directory in front
of the first wildcard. -/
def watch (site : IncludeSite) (pattern : String) : Except ProjectError Path :=
  match site.surroundings.expandHome pattern with
  | .error e => .error (.nowhere e)
  | .ok target =>
    .ok (Path.root.follow ((site.fullParts target).takeWhile (!hasWildcard ·)))

end IncludeSite

end Daybook.Project
