import SealedBuild.Archive.Reader
import SealedBuild.Archive.Writer
import SealedBuild.RuntimeImage

/-!
# Build contexts and extraction

The archive from which an image is built holds two entries, the containerfile and the
artifact, so that nothing else can reach the image. The archive in which an engine gives a
path out of a container has to hold one regular file.
-/

namespace SealedBuild

namespace Archive.Fault

/-- An archive fault as the failure of a run. -/
def toFailure (fault : Fault) : Failure :=
  .io (.reported fault.message)

end Archive.Fault

namespace BuildContext

/-- The permissions of the containerfile. -/
def containerfileMode : Nat := 0o644

/-- The permissions of the artifact, in a context and on the host. -/
def artifactMode : Nat := 0o755

/-- The two files of a build context. -/
def newFiles (containerfile : String) (artifact : List UInt8) : List Archive.NewFile :=
  [⟨AssemblyRequest.containerfileName, containerfileMode, Utf8.encode containerfile⟩,
    ⟨AssemblyRequest.artifactEntryName, artifactMode, artifact⟩]

/-- The build context of a request, with the staged file as it is now. -/
def pack (files : FileTree) (request : AssemblyRequest) : Except Failure (List UInt8) :=
  let path := request.artifact.stagedPath
  match files.read path with
  | .ok content => .ok (Archive.write (newFiles request.containerfile content))
  | .error fault =>
    .error (.artifactHandoff ("cannot read artifact at " ++ path ++ ": " ++ fault.message))

/-- The names and permissions of an archive's entries, in order. -/
def list (archive : List UInt8) : Except Failure (List (String × Nat)) := do
  let (entries, fault) := Archive.entries archive
  let listed ← entries.mapM fun entry => do
    let mode ← entry.header.mode.mapError Archive.Fault.toFailure
    pure (entry.name, mode)
  match fault with
  | some fault => throw fault.toFailure
  | none => pure listed

end BuildContext

namespace Extraction

/-- Why an archive is not that of one regular file. -/
inductive Fault where
  | furtherEntry (name : String)
  | isDirectory (name : String)
  | isLink (name : String)
  | unsupported (name : String) (kind : Archive.EntryKind)
  | noFile
  deriving DecidableEq, Inhabited

/-- The wording of an extraction fault. -/
def Fault.message : Fault → String
  | furtherEntry name => "expected a single file but found another entry '" ++ name ++ "'"
  | isDirectory name => "'" ++ name ++ "' is a directory, not an executable"
  | isLink name => "'" ++ name ++ "' is a link; declare the path of the file itself"
  | unsupported name kind => "'" ++ name ++ "' has unsupported entry type " ++ kind.name
  | noFile => "archive contained no file"

/-- An extraction fault as the failure of a run. -/
def Fault.toFailure (fault : Fault) : Failure :=
  .artifactHandoff fault.message

/-- The files so far, and the size of what was written, if anything was. -/
abbrev State := FileTree × Option Nat

/-- Takes one more entry of the archive. The files keep what was written before a fault. -/
def take (dest : String) (state : State) (entry : Archive.Entry) :
    State × Except Failure Unit :=
  match entry.header.kind with
  | .regular | .contiguous =>
    if state.2.isSome then (state, .error (Fault.furtherEntry entry.name).toFailure)
    else
      match state.1.write dest entry.content with
      | .error fault => (state, .error (.io fault))
      | .ok written =>
        match written.setMode dest BuildContext.artifactMode with
        | .error fault => ((written, none), .error (.io fault))
        | .ok files => ((files, some entry.content.length), .ok ())
  | .directory => (state, .error (Fault.isDirectory entry.name).toFailure)
  | .symlink | .link => (state, .error (Fault.isLink entry.name).toFailure)
  | kind => (state, .error (Fault.unsupported entry.name kind).toFailure)

/-- Takes entries in order up to the first failure. -/
def takeAll (dest : String) : State → List Archive.Entry → State × Except Failure Unit
  | state, [] => (state, .ok ())
  | state, entry :: rest =>
    match take dest state entry with
    | (next, .ok ()) => takeAll dest next rest
    | (next, .error failure) => (next, .error failure)

/-- Writes the one regular file of an archive to a path, and gives its size. The files keep
what was written before a fault. -/
def extract (archive : List UInt8) (dest : String) (files : FileTree) :
    FileTree × Except Failure Nat :=
  let (entries, fault) := Archive.entries archive
  match takeAll dest (files, none) entries with
  | ((files, _), .error failure) => (files, .error failure)
  | ((files, written), .ok ()) =>
    match fault, written with
    | some fault, _ => (files, .error fault.toFailure)
    | none, some size => (files, .ok size)
    | none, none => (files, .error Fault.noFile.toFailure)

end Extraction

end SealedBuild
