import SealedBuild.Text.Split

/-!
# Paths on the host

Paths are texts in which slashes separate names. Names that are empty or a single dot say
nothing and are passed over, except a dot at the very start; a double dot is kept, since
what it means depends on the files.
-/

namespace SealedBuild.HostPath

/-- Whether a path starts at the root. -/
def isAbsolute (path : String) : Bool :=
  path.startsWith "/"

/-- The names on the way along a path, without those that say nothing. -/
def names (path : String) : List String :=
  ((Text.splitAt '/' path.toList).map String.ofList).filter fun name =>
    name != "" && name != "."

/-- A path continued by another; an absolute continuation replaces it. -/
def join (base next : String) : String :=
  if isAbsolute next then next
  else if base.isEmpty || base.endsWith "/" then base ++ next
  else base ++ "/" ++ next

/-- The last name of a path, unless the path has no name or ends in a double dot. -/
def fileName? (path : String) : Option String :=
  match (names path).getLast? with
  | some ".." => none
  | last => last

/-- The parts between slashes without those at the end that say nothing. -/
def dropIdle (parts : List String) : List String :=
  (parts.reverse.dropWhile fun part => part == "" || part == ".").reverse

/-- The path without its last name; nothing when it has no name. -/
def parent? (path : String) : Option String :=
  let parts := (Text.splitAt '/' path.toList).map String.ofList
  let relativeDot := parts.head? == some "."
  let body := if relativeDot then parts.drop 1 else parts
  match dropIdle body with
  | [] => if relativeDot then some "" else none
  | kept =>
    let front := dropIdle kept.dropLast
    let front := if relativeDot then "." :: front else front
    some <|
      if isAbsolute path && front.isEmpty then "/" else String.intercalate "/" front

/-- The directory that holds the file at a path: its parent, or the working directory when
the path is a bare name. -/
def directoryOf (path : String) : String :=
  match parent? path with
  | none => "."
  | some parent => if parent.isEmpty then "." else parent

/-- The absolute form of a path seen from a working directory. Double dots stay, a slash at
the end stays, and two slashes at the start, but not three, stay. The empty path has no
absolute form. -/
def absolute? (workingDir path : String) : Option String :=
  if path.isEmpty then none
  else
    let start :=
      if path.startsWith "//" && !path.startsWith "///" then "//"
      else if isAbsolute path then "/"
      else workingDir
    let walked := (names path).foldl join start
    some (if path.endsWith "/" then join walked "" else walked)

end SealedBuild.HostPath
