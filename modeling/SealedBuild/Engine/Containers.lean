import SealedBuild.BuildContext
import SealedBuild.Engine

/-!
# Builder containers

The executor on a container engine. Every run has one container, whose name is derived from
the run's identifier; a container that was created but could not be started is removed
again.
-/

namespace SealedBuild.Engine

variable {σ : Type}

/-- The name of a run's container. -/
def containerName (id : RunId) : String :=
  "isobuild-" ++ id.short ++ "-builder"

/-- A mount in the engine's spelling. -/
def bind (volume : VolumeMount) : String :=
  volume.source ++ ":" ++ volume.mountPath ++ ":" ++ (if volume.readOnly then "ro" else "rw")

/-- The container of a job. -/
def containerConfig (spec : JobSpec) : ContainerConfig where
  image := spec.image
  command := spec.command
  env := spec.env.assignments
  workingDir := spec.workingDir
  binds := if spec.volumes.isEmpty then none else some (spec.volumes.map bind)

/-- A word of sixty-four bits cut down to one of thirty-two. -/
def exitWord (code : Int) : Int :=
  Int.bmod code 4294967296

/-- The status that a container's state means, seen at an instant. -/
def statusOf (state : ContainerState) (now : Instant) : JobStatus :=
  let startedAt := state.startedAt.bind Instant.parse?
  if state.running.getD false then .running (startedAt.getD now)
  else if state.paused.getD false then .pending
  else
    let finishedAt := (state.finishedAt.bind Instant.parse?).getD now
    let exitCode := state.exitCode.map exitWord
    if exitCode = some 0 then .succeeded (startedAt.getD finishedAt) finishedAt
    else .failed startedAt finishedAt exitCode (state.error.getD "")

/-- Removes the container of a name. -/
def removeContainer (engine : Engine σ) (name : String) : Act σ (Except Failure Unit) := do
  pure ((← engine.remove name).mapError fun fault =>
    .internal ("cannot remove container: " ++ fault.message))

/-- Starts a created container, and removes it if it cannot be started. -/
def startContainer (engine : Engine σ) (name : String) : Act σ (Except Failure Unit) := do
  match ← engine.start name with
  | .ok () => pure (.ok ())
  | .error fault =>
    let _ ← engine.removeContainer name
    pure (.error (.provisioning
      ("cannot start container " ++ name ++ ": " ++ fault.message)))

/-- Runs a job in a container of its own. -/
def spawn (engine : Engine σ) (spec : JobSpec) : Act σ (Except Failure JobHandle) := do
  let container := containerName spec.id
  engine.pull spec.image
  match ← engine.create container (containerConfig spec) with
  | .error fault =>
    pure (.error (.provisioning
      ("cannot create container from " ++ spec.image ++ ": " ++ fault.message)))
  | .ok containerId =>
    match ← engine.startContainer container with
    | .error failure => pure (.error failure)
    | .ok () => pure (.ok ⟨spec.id, containerId, name⟩)

/-- The stream that a log line is told under. -/
def LogSource.stream : LogSource → LogStream
  | .stderr => .stderr
  | .stdin | .stdout | .console => .stdout

/-- The log lines of a stream; faults in it are passed over. -/
def logLines : EngineStream LogChunk → Act σ (List LogLine)
  | [] => pure []
  | .error _ :: rest => logLines rest
  | .ok chunk :: rest => do
    let timestamp ← Act.now
    let lines ← logLines rest
    pure (⟨timestamp, LogSource.stream chunk.source,
      Text.trimmedEnd (Utf8.decodeLossy chunk.bytes)⟩ :: lines)

/-- The log lines of a job. -/
def jobLogs (engine : Engine σ) (handle : JobHandle) : Act σ (Except Failure (List LogLine)) := do
  let chunks ← engine.logs (containerName handle.id)
  let lines ← logLines chunks
  pure (.ok lines)

/-- The status of a job. -/
def status (engine : Engine σ) (handle : JobHandle) : Act σ (Except Failure JobStatus) := do
  let container := containerName handle.id
  match ← engine.containerState container with
  | .error fault =>
    pure (.error (.notFound ("container " ++ container ++ ": " ++ fault.message)))
  | .ok none => pure (.error (.internal "container has no state"))
  | .ok (some state) => pure (.ok (statusOf state (← Act.now)))

/-- The exit code that a status carries. -/
def exitCodeOf : JobStatus → Option Int
  | .succeeded _ _ => some 0
  | .failed _ _ exitCode _ => exitCode
  | .pending | .running _ => none

/-- The exit code that a wait tells: that of its first item, unless that is a fault without
one. -/
def waitedCode : EngineStream Int → Option Int
  | .ok code :: _ => some (exitWord code)
  | .error (.exited code) :: _ => some (exitWord code)
  | .error _ :: _ => none
  | [] => none

/-- Waits for a job to end. -/
def waitForJob (engine : Engine σ) (handle : JobHandle) : Act σ (Except Failure JobResult) := do
  match ← engine.status handle with
  | .error failure => pure (.error failure)
  | .ok current =>
    if current.isTerminal then pure (.ok ⟨current, exitCodeOf current⟩)
    else
      let exitCode := waitedCode (← engine.wait (containerName handle.id))
      match ← engine.status handle with
      | .error failure => pure (.error failure)
      | .ok status => pure (.ok ⟨status, exitCode⟩)

/-- The parts of a stream joined, or its first fault. -/
def collected : EngineStream (List UInt8) → Except EngineFault (List UInt8)
  | [] => .ok []
  | .error fault :: _ => .error fault
  | .ok part :: rest => (collected rest).map (part ++ ·)

/-- The failure to copy a path out of a container. -/
def copyFailure (container path : String) : EngineFault → Failure
  | .refused 404 _ => .artifactHandoff (path ++ " does not exist in the builder")
  | fault =>
    .artifactHandoff
      ("cannot copy " ++ path ++ " out of " ++ container ++ ": " ++ fault.message)

/-- Extracts an archive to a path on the host. What was written stays also on a failure. -/
def extractTo (archive : List UInt8) (dest : String) : Act σ (Except Failure Nat) := do
  let (files, result) := Extraction.extract archive dest (← Act.files)
  Act.setFiles files
  pure result

/-- Copies the one regular file at a path in a job's container to the host. -/
def copyOut (engine : Engine σ) (handle : JobHandle) (path dest : String) :
    Act σ (Except Failure Nat) := do
  let container := containerName handle.id
  match collected (← engine.archive container path) with
  | .error fault => pure (.error (copyFailure container path fault))
  | .ok archive => extractTo archive dest

/-- The executor on an engine. -/
def executor (engine : Engine σ) : Executor σ where
  name := name
  canExecute _ := do
    pure (← engine.ping).toBool
  spawn := engine.spawn
  logs := engine.jobLogs
  wait := engine.waitForJob
  copyOut := engine.copyOut
  remove handle := engine.removeContainer (containerName handle.id)

end SealedBuild.Engine
