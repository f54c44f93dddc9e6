import SealedBuild.Failure
import SealedBuild.HostPath

/-!
# File trees

The part of a host's files that a run can see, as a value. A tree maps locations, lists of
names from the root, to directories and regular files. It has no links, no owners and nothing
that may not be read or written: a file's mode is kept, but decides nothing. Paths are resolved
from a working directory, name by name, and every name but the last has to lead through a
directory. An operation either gives the changed tree or the fault; only the making of several
directories may do a part of its work and then fail.
-/

namespace SealedBuild

/-- What is at a location of a file tree. -/
inductive FileNode where
  | directory
  | file (mode : Nat) (content : List UInt8)
  deriving DecidableEq, Inhabited

/-- A file tree and the directory that relative paths start from. -/
structure FileTree where
  nodes : List (List String × FileNode)
  workingDir : List String
  deriving Inhabited

namespace FileTree

/-- The permissions of a new file. -/
def newFileMode : Nat := 0o644

/-- The longest name that a directory can hold, in bytes. -/
def longestName : Nat := 255

/-- The longest path, in bytes. -/
def longestPath : Nat := 4095

/-- What is at a location; the root is always a directory. -/
def get? (t : FileTree) (location : List String) : Option FileNode :=
  if location = [] then some .directory else t.nodes.lookup location

/-- The tree with a node at a location, in place of any other. -/
def put (t : FileTree) (location : List String) (node : FileNode) : FileTree :=
  { t with nodes := (location, node) :: t.nodes.filter fun entry => entry.1 != location }

/-- The tree without a location and all below it. -/
def prune (t : FileTree) (location : List String) : FileTree :=
  { t with nodes := t.nodes.filter fun entry => !location.isPrefixOf entry.1 }

/-- The working directory as a path. -/
def workingPath (t : FileTree) : String :=
  "/" ++ String.intercalate "/" t.workingDir

/-- One step along a path: the present location has to be a directory. -/
def enter (t : FileTree) (here : List String) (name : String) : Except FileFault (List String) :=
  match t.get? here with
  | none => .error .notFound
  | some (.file _ _) => .error .notDirectory
  | some .directory =>
    if longestName < name.utf8ByteSize then .error .nameTooLong
    else if name = ".." then .ok here.dropLast
    else if name = "" ∨ name = "." then .ok here
    else .ok (here ++ [name])

/-- The parts of a path between slashes, unless it is none that can be followed. -/
def partsOf (path : String) : Except FileFault (List String) :=
  if path.isEmpty then .error .notFound
  else if path.toList.any fun c => c.toNat == 0 then .error .interiorNul
  else if longestPath < path.utf8ByteSize then .error .nameTooLong
  else .ok ((Text.splitAt '/' path.toList).map String.ofList)

/-- Where a path starts. -/
def startOf (t : FileTree) (path : String) : List String :=
  if HostPath.isAbsolute path then [] else t.workingDir

/-- The location that a path names. All but the last name have been found; a path that ends
in a slash or a dot names a directory. -/
def locate (t : FileTree) (path : String) : Except FileFault (List String) := do
  (← partsOf path).foldlM t.enter (t.startOf path)

/-- What is at a path. -/
def find (t : FileTree) (path : String) : Except FileFault FileNode := do
  let location ← t.locate path
  match t.get? location with
  | some node => .ok node
  | none => .error .notFound

/-- The content of the file at a path. -/
def read (t : FileTree) (path : String) : Except FileFault (List UInt8) := do
  match ← t.find path with
  | .file _ content => .ok content
  | .directory => .error .isDirectory

/-- Whether a directory is at a path. -/
def isDirectory (t : FileTree) (path : String) : Bool :=
  match t.find path with
  | .ok .directory => true
  | _ => false

/-- The parts before the last name of a path that has slashes behind that name. -/
def beforeSlashes? (parts : List String) : Option (List String) :=
  match parts.reverse with
  | "" :: behind =>
    match behind.dropWhile (· == "") with
    | name :: front => if name = "." ∨ name = ".." then none else some front.reverse
    | [] => none
  | _ => none

/-- Writes a whole file. A file that is there keeps its permissions; one that is not is made
in a directory that is. A name with slashes behind it is that of a directory. -/
def write (t : FileTree) (path : String) (content : List UInt8) : Except FileFault FileTree := do
  let parts ← partsOf path
  let slashed := beforeSlashes? parts
  let location ← (slashed.getD parts).foldlM t.enter (t.startOf path)
  match t.get? location, slashed.isSome with
  | some .directory, _ => .error .isDirectory
  | some (.file mode _), false => .ok (t.put location (.file mode content))
  | some (.file _ _), true => .error .notDirectory
  | none, true => .error .notFound
  | none, false =>
    match t.get? location.dropLast with
    | some .directory => .ok (t.put location (.file newFileMode content))
    | some (.file _ _) => .error .notDirectory
    | none => .error .notFound

/-- Gives the file at a path other permissions. -/
def setMode (t : FileTree) (path : String) (mode : Nat) : Except FileFault FileTree := do
  let location ← t.locate path
  match t.get? location with
  | some (.file _ content) => .ok (t.put location (.file mode content))
  | some .directory => .ok t
  | none => .error .notFound

/-- Makes one directory, whose parent has to be there. Slashes behind its name say nothing. -/
def createDir (t : FileTree) (path : String) : Except FileFault FileTree := do
  let named := ((← partsOf path).reverse.dropWhile (· == "")).reverse
  let location ← named.foldlM t.enter (t.startOf path)
  match t.get? location with
  | some _ => .error .occupied
  | none =>
    match t.get? location.dropLast with
    | some .directory => .ok (t.put location .directory)
    | some (.file _ _) => .error .notDirectory
    | none => .error .notFound

/-- Makes the missing directories on the way along some names. `made` tells that one has been
made: a file in the way is then met as the place of a directory that is to be made, as it is
at the end of the way, and before that as no directory. -/
def createAlong (made : Bool) (t : FileTree) (here : List String) :
    List String → FileTree × Except FileFault Unit
  | [] => (t, .ok ())
  | name :: rest =>
    match t.enter here name with
    | .error fault => (t, .error fault)
    | .ok next =>
      match t.get? next with
      | some .directory => createAlong made t next rest
      | some (.file _ _) =>
        (t, .error (if made || rest.isEmpty then .occupied else .notDirectory))
      | none => createAlong true (t.put next .directory) next rest

/-- Makes a directory and every missing one on the way to it. What was made stays also when
the way ends before it. -/
def createDirAll (t : FileTree) (path : String) : FileTree × Except FileFault Unit :=
  if path.isEmpty then (t, .ok ())
  else
    match partsOf path with
    | .error fault => (t, .error fault)
    | .ok _ => createAlong false t (t.startOf path) (HostPath.names path)

/-- Removes a directory and all that it holds. -/
def removeDirAll (t : FileTree) (path : String) : Except FileFault FileTree := do
  let location ← t.locate path
  match t.get? location with
  | none => .error .notFound
  | some (.file _ _) => .error .notDirectory
  | some .directory => .ok (t.prune location)

/-- Removes whatever is at a path. -/
def remove (t : FileTree) (path : String) : FileTree :=
  match t.locate path with
  | .ok location => t.prune location
  | .error _ => t

/-- All nodes below a location, with their locations from there on. -/
def below (t : FileTree) (location : List String) : List (List String × FileNode) :=
  t.nodes.filterMap fun (path, node) =>
    if location.isPrefixOf path && location.length < path.length then
      some (path.drop location.length, node)
    else none

end FileTree

end SealedBuild
