import SealedBuild.Pipeline
import SealedBuild.Text.ShellWord

/-!
# Builder jobs

The container job that the builder stage runs: its image, its script, its variables and its
mounts. The script installs the packages, runs the build commands and looks for the
artifact; each part exits with a code of its own, so that the code alone says what failed.
-/

namespace SealedBuild

/-- A directory of the host that a container sees. -/
structure VolumeMount where
  source : String
  mountPath : String
  readOnly : Bool
  deriving DecidableEq, Inhabited

/-- What an executor is asked to run. -/
structure JobSpec where
  id : RunId
  image : String
  command : List String
  workingDir : Option String
  env : VarMap
  volumes : List VolumeMount
  deriving DecidableEq, Inhabited

/-- A job that an executor has taken. -/
structure JobHandle where
  id : RunId
  /-- The executor's own name for the job. -/
  executorId : String
  executorName : String
  deriving DecidableEq, Inhabited

/-- Where a job stands. -/
inductive JobStatus where
  | pending
  | running (startedAt : Instant)
  | succeeded (startedAt finishedAt : Instant)
  | failed (startedAt : Option Instant) (finishedAt : Instant) (exitCode : Option Int)
      (message : String)
  deriving DecidableEq, Inhabited

/-- Whether the job is over. -/
def JobStatus.isTerminal : JobStatus → Bool
  | pending | running _ => false
  | succeeded _ _ | failed _ _ _ _ => true

/-- How a job ended: its status, and its exit code if it is known. -/
structure JobResult where
  status : JobStatus
  exitCode : Option Int
  deriving DecidableEq, Inhabited

/-- Where a log line comes from. -/
inductive LogStream where
  | stdout
  | stderr
  | system
  deriving DecidableEq, Inhabited

/-- One line of a job's log. -/
structure LogLine where
  timestamp : Instant
  stream : LogStream
  content : String
  deriving DecidableEq, Inhabited

namespace Job

/-- The exit code of a script whose packages could not be installed. -/
def provisioningExit : Int := 100

/-- The exit code of a script with a failed build command. -/
def compilationExit : Int := 101

/-- The exit code of a script whose artifact is no regular file. -/
def artifactMissingExit : Int := 102

/-- Lines that run a command and end the script with a code when it fails. -/
def guarded (command : String) (code : Int) : String :=
  "\x7b " ++ command ++ "\n\x7d || exit " ++ toString code ++ "\n"

/-- The line that looks for the artifact. -/
def artifactTest (artifactPath : String) : String :=
  let path := Text.shellWord artifactPath
  "if [ ! -f " ++ path ++ " ] || [ -L " ++ path ++ " ]; then echo \"[isobuild] artifact \"" ++
    path ++ "\" is not a regular file\" >&2; exit " ++ toString artifactMissingExit ++ "; fi\n"

/-- The script of a builder job. -/
def script (spec : BuilderSpec) : String :=
  (match spec.environment.installScript with
    | some install => "echo '[isobuild] provisioning'\n" ++ guarded install provisioningExit
    | none => "") ++
  "echo '[isobuild] compiling'\n" ++
  String.join (spec.commands.map fun command => guarded command compilationExit) ++
  artifactTest spec.artifactPath

/-- The failure that an exit code of the script means; none for zero. -/
def failureOfExit (exitCode : Option Int) (artifactPath : String) : Option Failure :=
  match exitCode with
  | none => some (.internal "builder exited without a status code")
  | some code =>
    if code = 0 then none
    else if code = provisioningExit then
      some (.provisioning "package installation failed; see the build log")
    else if code = compilationExit then
      some (.compilation "a build command failed; see the build log")
    else if code = artifactMissingExit then
      some (.artifactHandoff (artifactPath ++ " was not produced by the build"))
    else some (.compilation ("builder exited with code " ++ toString code))

/-- The job of a builder stage, seen from a working directory. The source tree, if there is
one, is mounted read-only, and the job starts in it. -/
def ofBuilder (workingDir : String) (id : RunId) (spec : BuilderSpec) :
    Except Failure JobSpec := do
  let volumes ← match spec.source with
    | none => pure []
    | some source =>
      match HostPath.absolute? workingDir source.hostDir with
      | some hostDir => pure [⟨hostDir, source.mountPath, true⟩]
      | none => throw (.io .emptyPath)
  pure {
    id
    image := spec.environment.toolchain.imageRef
    command := ["/bin/sh", "-c", script spec]
    workingDir := spec.source.map SourceMount.mountPath
    env := spec.environment.compilerEnv
    volumes }

end Job

end SealedBuild
