import SealedBuild.FileTree
import SealedBuild.Inspection
import SealedBuild.Instant

/-!
# Artifacts

The executable that the builder stage leaves on the host, and its handoff to the runtime
stage. A handoff is good while the staged file is still the one that was measured when it
was extracted.
-/

namespace SealedBuild

/-- The one executable that a builder stage produced. -/
structure CompiledArtifact where
  name : String
  /-- The path inside the builder. -/
  sourcePath : String
  /-- The path on the host that it was extracted to. -/
  stagedPath : String
  architecture : Architecture
  linkage : Linkage
  stripped : Bool
  /-- The size in bytes. -/
  size : Nat
  /-- The SHA-256 of the content, in hexadecimal digits. -/
  checksum : String
  producedAt : Instant
  deriving DecidableEq, Inhabited

/-- The size of a file and the SHA-256 of its content. -/
def checksum (files : FileTree) (path : String) : Except FileFault (Nat × String) := do
  let content ← files.read path
  pure (content.length, Sha256.hex content)

/-- An artifact on its way from the builder stage to the runtime stage, with the fingerprint
of the environment that it was built in. -/
structure Handoff where
  artifact : CompiledArtifact
  fingerprint : String
  deriving DecidableEq, Inhabited

/-- Why a handoff is not good. -/
inductive HandoffFault where
  | missing (path : String) (fault : FileFault)
  | notRegular (path : String)
  | changed (path expected found : String)
  deriving DecidableEq, Inhabited

/-- The wording of a handoff fault. -/
def HandoffFault.message : HandoffFault → String
  | missing path fault => "artifact missing at " ++ path ++ ": " ++ fault.message
  | notRegular path => path ++ " is not a regular file"
  | changed path expected found =>
    "artifact at " ++ path ++ " changed after the build (expected sha256 " ++ expected ++
      ", found " ++ found ++ ")"

namespace Handoff

/-- Checks that the staged file is a regular file of the recorded size and checksum. -/
def check (handoff : Handoff) (files : FileTree) : Except HandoffFault Unit :=
  let path := handoff.artifact.stagedPath
  match files.find path with
  | .error fault => .error (.missing path fault)
  | .ok .directory => .error (.notRegular path)
  | .ok (.file _ content) =>
    let found := Sha256.hex content
    if content.length = handoff.artifact.size ∧ found = handoff.artifact.checksum then .ok ()
    else .error (.changed path handoff.artifact.checksum found)

/-- Checks the staged file, as a step of a run. -/
def verify (handoff : Handoff) (files : FileTree) : Except Failure Unit :=
  (handoff.check files).mapError fun fault => .artifactHandoff fault.message

end Handoff

end SealedBuild
