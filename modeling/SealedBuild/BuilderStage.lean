import SealedBuild.Backend

/-!
# The builder stage

Runs the builder job, takes the artifact out of it and verifies it. The container is removed
however the job ends. The artifact is staged in a directory of the run's own, which is
dropped when the stage fails and when the run no longer needs it, unless artifacts are kept.
-/

namespace SealedBuild

/-- Makes artifacts for runs. -/
structure Producer (σ : Type) where
  /-- Makes the artifact of a run, given the fingerprint of its environment. The log lines
  come with the result. -/
  produce : RunId → BuilderSpec → String → Act σ (Except Failure Handoff × List LogLine)
  /-- Drops what is staged for a run. -/
  discard : RunId → Act σ Unit

/-- A builder stage on an executor and an inspector. -/
structure BuilderStage (σ : Type) where
  executor : Executor σ
  inspector : Inspector σ
  stagingDir : String
  /-- Staged artifacts are kept. -/
  retain : Bool := false

namespace BuilderStage

variable {σ : Type}

/-- The directory that a run stages in. -/
def runStaging (stage : BuilderStage σ) (id : RunId) : String :=
  HostPath.join stage.stagingDir id.short

/-- Drops what is staged for a run. What cannot be dropped stays. -/
def discard (stage : BuilderStage σ) (id : RunId) : Act σ Unit := do
  if !stage.retain then
    let _ ← Act.changeFiles fun files => files.removeDirAll (stage.runStaging id)

/-- Inspects the staged file, checks it against the flags and measures it. -/
def verify (stage : BuilderStage σ) (spec : BuilderSpec) (stagedPath : String) :
    Act σ (Except Failure CompiledArtifact) := ExceptT.run do
  let environment := spec.environment
  let inspection ← ExceptT.mk (stage.inspector.inspect stagedPath)
  ExceptT.mk (pure (inspection.verify environment.flags environment.crypto))
  let files ← (Act.files : Act σ FileTree)
  let (size, digest) ← ExceptT.mk (pure ((checksum files stagedPath).mapError .io))
  let producedAt ← (Act.now : Act σ Instant)
  pure {
    name := spec.artifactName
    sourcePath := spec.artifactPath
    stagedPath
    architecture := inspection.architecture
    linkage := inspection.linkage environment.crypto
    stripped := inspection.isStripped
    size
    checksum := digest
    producedAt }

/-- Waits for a job, judges its exit code, and takes the artifact out. -/
def collect (stage : BuilderStage σ) (handle : JobHandle) (id : RunId) (spec : BuilderSpec)
    (fingerprint : String) : Act σ (Except Failure Handoff) := ExceptT.run do
  let result ← ExceptT.mk (stage.executor.wait handle)
  match Job.failureOfExit result.exitCode spec.artifactPath with
  | some failure => throw failure
  | none => pure ()
  let staging := stage.runStaging id
  ExceptT.mk do
    pure ((← Act.workOnFiles fun files => files.createDirAll staging).mapError .io)
  let stagedPath := HostPath.join staging spec.artifactName
  let _ ← ExceptT.mk (stage.executor.copyOut handle spec.artifactPath stagedPath)
  let artifact ← ExceptT.mk (stage.verify spec stagedPath)
  pure ⟨artifact, fingerprint⟩

/-- Follows a job to its end. A job without logs is not waited for. The lines are those that
arrived until the log was given up; neither the two seconds that it is given after the job's end
nor the stopping of its reader is modelled. -/
def follow (stage : BuilderStage σ) (handle : JobHandle) (id : RunId) (spec : BuilderSpec)
    (fingerprint : String) : Act σ (Except Failure Handoff × List LogLine) := do
  match ← stage.executor.logs handle with
  | .error failure => pure (.error failure, [])
  | .ok lines => pure (← stage.collect handle id spec fingerprint, lines)

/-- Makes the artifact of a run. -/
def produce (stage : BuilderStage σ) (id : RunId) (spec : BuilderSpec) (fingerprint : String) :
    Act σ (Except Failure Handoff × List LogLine) := do
  match Job.ofBuilder (← Act.files).workingPath id spec with
  | .error failure => pure (.error failure, [])
  | .ok job =>
    if ← stage.executor.canExecute job then
      match ← stage.executor.spawn job with
      | .error failure => pure (.error failure, [])
      | .ok handle =>
        let (result, lines) ← stage.follow handle id spec fingerprint
        let _ ← stage.executor.remove handle
        if let .error _ := result then stage.discard id
        pure (result, lines)
    else
      pure (.error (.internal
        ("executor '" ++ stage.executor.name ++ "' is not available")), [])

/-- The stage as a maker of artifacts. -/
def producer (stage : BuilderStage σ) : Producer σ where
  produce := stage.produce
  discard := stage.discard

end BuilderStage

end SealedBuild
