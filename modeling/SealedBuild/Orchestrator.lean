import SealedBuild.BuilderStage
import SealedBuild.RuntimeStage

/-!
# Pipeline runs

One run: a check of the definition and of the tag, the builder stage, then the runtime
stage. Each step is told as an event, in order, and the run ends packaged or failed. What
was staged is dropped once the image holds it or the run has failed.
-/

namespace SealedBuild

/-- What happens in a run. -/
inductive Event where
  | stageStarted (stage : Stage)
  | stageLog (stage : Stage) (line : LogLine)
  | stageCompleted (stage : Stage) (success : Bool) (message : Option String)
  | artifactProduced (artifact : CompiledArtifact)
  | runCompleted (state : RunState)
  deriving DecidableEq, Inhabited

/-- The outcome of a run: its record, and the image if it was packaged. -/
structure RunOutcome where
  run : RunRecord
  image : Option RuntimeImage
  deriving DecidableEq, Inhabited

/-- Whether the run reached its end with an image. -/
def RunOutcome.success (outcome : RunOutcome) : Bool :=
  outcome.run.state = .packaged

/-- Runs pipelines on a producer of artifacts and a runtime stage. -/
structure Orchestrator (σ : Type) where
  producer : Producer σ
  runtime : RuntimeStage σ

namespace Orchestrator

variable {σ : Type}

/-- How a stage that started at an instant ended, now. -/
def stageResult (stage : Stage) (startedAt : Instant) (failure : Option Failure) :
    Act σ StageResult := do
  let finishedAt ← Act.now
  pure {
    stage
    succeeded := failure.isNone
    message := failure.map Failure.message
    startedAt
    finishedAt }

/-- The end of a run in which a stage failed, with its last events. -/
def fail (run : RunRecord) (stage : Stage) (failure : Failure) :
    Act σ (List Event × RunOutcome) := do
  let state := RunState.ofFailure stage failure
  let finishedAt ← Act.now
  pure
    ([.stageCompleted stage false (some failure.message), .runCompleted state],
      ⟨{ run with state, finishedAt := some finishedAt }, none⟩)

/-- The line that tells which image was made. -/
def taggedLine (image : RuntimeImage) : Act σ LogLine := do
  let timestamp ← Act.now
  pure ⟨timestamp, .system, "Tagged " ++ image.tag ++ " (" ++ image.id ++ ")"⟩

/-- The runtime stage of a run, from the handoff on. -/
def packageStage (o : Orchestrator σ) (definition : PipelineDefinition) (run : RunRecord)
    (handoff : Handoff) : Act σ (List Event × RunOutcome) := do
  let startedAt ← Act.now
  let packaged ← o.runtime.package definition.name definition.runtime handoff
  o.producer.discard run.id
  match packaged with
  | .ok image =>
    let result ← stageResult .runtime startedAt none
    let line ← taggedLine image
    let finishedAt ← Act.now
    pure
      ([.stageStarted .runtime, .stageLog .runtime line, .stageCompleted .runtime true none,
          .runCompleted .packaged],
        ⟨{ run with
            stages := run.stages ++ [result]
            state := .packaged
            finishedAt := some finishedAt }, some image⟩)
  | .error failure =>
    let result ← stageResult .runtime startedAt (some failure)
    let (events, outcome) ←
      fail { run with stages := run.stages ++ [result] } .runtime failure
    pure (.stageStarted .runtime :: events, outcome)

/-- What a run does once its builder stage has an answer and its log has been told: without an
artifact it fails, with one it goes on to the runtime stage. -/
def concludeBuild (o : Orchestrator σ) (definition : PipelineDefinition) (run : RunRecord)
    (startedAt : Instant) (produced : Except Failure Handoff) :
    Act σ (List Event × RunOutcome) := do
  match produced with
  | .error failure =>
    o.producer.discard run.id
    let result ← stageResult .builder startedAt (some failure)
    fail { run with stages := run.stages ++ [result] } .builder failure
  | .ok handoff =>
    let result ← stageResult .builder startedAt none
    let (events, outcome) ←
      o.packageStage definition { run with stages := run.stages ++ [result] } handoff
    pure
      (.stageCompleted .builder true none :: .artifactProduced handoff.artifact :: events,
        outcome)

/-- The builder stage of a run, and the runtime stage behind it. Every line of the builder's log
is told before anything that follows the stage. -/
def buildStage (o : Orchestrator σ) (definition : PipelineDefinition) (run : RunRecord) :
    Act σ (List Event × RunOutcome) := do
  let startedAt ← Act.now
  let (produced, lines) ← o.producer.produce run.id definition.builder run.fingerprint
  let (events, outcome) ← o.concludeBuild definition run startedAt produced
  pure (.stageStarted .builder :: lines.map (.stageLog .builder) ++ events, outcome)

/-- The check before a run: the definition, and the tag that its image would get. -/
def precheck (o : Orchestrator σ) (definition : PipelineDefinition) (fingerprint : String) :
    Except Failure Unit := do
  definition.validate
  let _ ← RuntimeStage.resolveTag o.runtime.tag definition.name definition.runtime fingerprint

/-- Runs a pipeline: the events in order, and the outcome. -/
def execute (o : Orchestrator σ) (id : RunId) (definition : PipelineDefinition) :
    Act σ (List Event × RunOutcome) := do
  let run := RunRecord.start id definition (← Act.now)
  match o.precheck definition run.fingerprint with
  | .error failure => fail run .builder failure
  | .ok () => o.buildStage definition run

end Orchestrator

end SealedBuild
