import SealedBuild.Proofs.Act
import SealedBuild.Orchestrator

/-!
# The courses of a run

A run takes one of four courses: it is refused before anything starts, it has no artifact,
it has an artifact but no image, or it is packaged. A course fixes the events, the outcome
and the world at the end in terms of what the check, the producer and the runtime stage
answered. The producer and the assembler are arbitrary.
-/

namespace SealedBuild

variable {σ : Type}

namespace Trace

/-- The last events of a run that failed in a stage. -/
def failed (stage : Stage) (failure : Failure) : List Event :=
  [.stageCompleted stage false (some failure.message),
    .runCompleted (.failed stage failure.kind failure.message)]

/-- The events of a run whose builder stage was started: its log lines, then the others. -/
def started (lines : List LogLine) (others : List Event) : List Event :=
  .stageStarted .builder :: lines.map (.stageLog .builder) ++ others

/-- The events from the end of the builder stage to the start of the runtime stage. -/
def handedOff (artifact : CompiledArtifact) : List Event :=
  [.stageCompleted .builder true none, .artifactProduced artifact, .stageStarted .runtime]

/-- What a run tells of its image. -/
def tagged (image : RuntimeImage) (timestamp : Instant) : LogLine :=
  ⟨timestamp, .system, "Tagged " ++ image.tag ++ " (" ++ image.id ++ ")"⟩

/-- The last events of a run that made an image. -/
def packaged (image : RuntimeImage) (timestamp : Instant) : List Event :=
  [.stageLog .runtime (tagged image timestamp), .stageCompleted .runtime true none,
    .runCompleted .packaged]

end Trace

/-- The record of a run that is over. -/
def RunRecord.closed (run : RunRecord) (stages : List StageResult) (state : RunState)
    (finishedAt : Instant) : RunRecord :=
  { run with stages, state, finishedAt := some finishedAt }

/-- The result of a stage between two instants. -/
def StageResult.between (stage : Stage) (failure : Option Failure)
    (startedAt finishedAt : Instant) : StageResult where
  stage
  succeeded := failure.isNone
  message := failure.map Failure.message
  startedAt
  finishedAt

namespace Orchestrator

/-- The events, the outcome and the last world of a run, by what its parts answered. -/
inductive Course (o : Orchestrator σ) (id : RunId) (definition : PipelineDefinition)
    (start : World σ) : List Event → RunOutcome → World σ → Prop where
  | refused {failure : Failure}
      (hprecheck : o.precheck definition definition.fingerprint = .error failure) :
      Course o id definition start (Trace.failed .builder failure)
        ⟨(RunRecord.start id definition start.instant).closed []
          (.failed .builder failure.kind failure.message) start.tick.instant, none⟩
        start.tick.tick
  | unbuilt {failure : Failure} {lines : List LogLine} {built dropped : World σ}
      (hprecheck : o.precheck definition definition.fingerprint = .ok ())
      (hproduce : o.producer.produce id definition.builder definition.fingerprint
        start.tick.tick = ((.error failure, lines), built))
      (hdiscard : (o.producer.discard id built).2 = dropped) :
      Course o id definition start (Trace.started lines (Trace.failed .builder failure))
        ⟨(RunRecord.start id definition start.instant).closed
          [.between .builder (some failure) start.tick.instant dropped.instant]
          (.failed .builder failure.kind failure.message) dropped.tick.instant, none⟩
        dropped.tick.tick
  | unpackaged {handoff : Handoff} {lines : List LogLine} {failure : Failure}
      {built packed dropped : World σ}
      (hprecheck : o.precheck definition definition.fingerprint = .ok ())
      (hproduce : o.producer.produce id definition.builder definition.fingerprint
        start.tick.tick = ((.ok handoff, lines), built))
      (hpackage : o.runtime.package definition.name definition.runtime handoff
        built.tick.tick = (.error failure, packed))
      (hdiscard : (o.producer.discard id packed).2 = dropped) :
      Course o id definition start
        (Trace.started lines (Trace.handedOff handoff.artifact ++ Trace.failed .runtime failure))
        ⟨(RunRecord.start id definition start.instant).closed
          [.between .builder none start.tick.instant built.instant,
            .between .runtime (some failure) built.tick.instant dropped.instant]
          (.failed .runtime failure.kind failure.message) dropped.tick.instant, none⟩
        dropped.tick.tick
  | packaged {handoff : Handoff} {lines : List LogLine} {image : RuntimeImage}
      {built packed dropped : World σ}
      (hprecheck : o.precheck definition definition.fingerprint = .ok ())
      (hproduce : o.producer.produce id definition.builder definition.fingerprint
        start.tick.tick = ((.ok handoff, lines), built))
      (hpackage : o.runtime.package definition.name definition.runtime handoff
        built.tick.tick = (.ok image, packed))
      (hdiscard : (o.producer.discard id packed).2 = dropped) :
      Course o id definition start
        (Trace.started lines
          (Trace.handedOff handoff.artifact ++ Trace.packaged image dropped.tick.instant))
        ⟨(RunRecord.start id definition start.instant).closed
          [.between .builder none start.tick.instant built.instant,
            .between .runtime none built.tick.instant dropped.instant]
          .packaged dropped.tick.tick.instant, some image⟩
        dropped.tick.tick.tick

variable {o : Orchestrator σ} {id : RunId} {definition : PipelineDefinition} {start : World σ}

theorem execute_apply :
    o.execute id definition start =
      (match o.precheck definition definition.fingerprint with
        | .error failure => fail (RunRecord.start id definition start.instant) .builder failure
        | .ok () => o.buildStage definition (RunRecord.start id definition start.instant))
        start.tick := rfl

/-- A run that passed its check tells the log of its producer, and then what its builder stage
concludes with. -/
theorem execute_of_produce {produced : Except Failure Handoff} {lines : List LogLine}
    {built finish : World σ} {events : List Event} {outcome : RunOutcome}
    (hprecheck : o.precheck definition definition.fingerprint = .ok ())
    (hproduce : o.producer.produce id definition.builder definition.fingerprint
      start.tick.tick = ((produced, lines), built))
    (hconclude : o.concludeBuild definition (RunRecord.start id definition start.instant)
      start.tick.instant produced built = ((events, outcome), finish)) :
    o.execute id definition start = ((Trace.started lines events, outcome), finish) := by
  rw [execute_apply, hprecheck]
  dsimp only
  -- The stage reads the clock once before its producer starts.
  rw [buildStage, Act.bind_apply, Act.bind_apply]
  have hproduced : o.producer.produce (RunRecord.start id definition start.instant).id
      definition.builder (RunRecord.start id definition start.instant).fingerprint
      (Act.now start.tick).2 = ((produced, lines), built) := hproduce
  have hconcluded : o.concludeBuild definition (RunRecord.start id definition start.instant)
      (Act.now start.tick).1 produced built = ((events, outcome), finish) := hconclude
  rw [hproduced]
  dsimp only
  rw [Act.bind_apply, hconcluded]
  rfl

/-- A run whose artifact was handed off takes one of the last two courses. -/
theorem course_of_packageStage {handoff : Handoff} {lines : List LogLine}
    {built finish : World σ} {events : List Event} {outcome : RunOutcome}
    (hprecheck : o.precheck definition definition.fingerprint = .ok ())
    (hproduce : o.producer.produce id definition.builder definition.fingerprint
      start.tick.tick = ((.ok handoff, lines), built))
    (h : o.packageStage definition
      { RunRecord.start id definition start.instant with
        stages := [.between .builder none start.tick.instant built.instant] }
      handoff built.tick = ((events, outcome), finish)) :
    o.Course id definition start
      (Trace.started lines
        ([.stageCompleted .builder true none, .artifactProduced handoff.artifact] ++ events))
      outcome finish := by
  obtain ⟨_, _, hnow, hassembling⟩ := Act.bind_eq h
  obtain ⟨rfl, rfl⟩ := Prod.mk.inj hnow
  obtain ⟨answer, packed, hpackage, hdropping⟩ := Act.bind_eq hassembling
  obtain ⟨_, dropped, hdiscard, hclosing⟩ := Act.bind_eq hdropping
  cases answer with
  | error failure =>
      cases hclosing
      exact .unpackaged hprecheck hproduce hpackage (congrArg Prod.snd hdiscard)
  | ok image =>
      cases hclosing
      exact .packaged hprecheck hproduce hpackage (congrArg Prod.snd hdiscard)

/-- A run whose builder stage has an answer takes one of the last three courses. -/
theorem course_of_concludeBuild {produced : Except Failure Handoff} {lines : List LogLine}
    {built finish : World σ} {events : List Event} {outcome : RunOutcome}
    (hprecheck : o.precheck definition definition.fingerprint = .ok ())
    (hproduce : o.producer.produce id definition.builder definition.fingerprint
      start.tick.tick = ((produced, lines), built))
    (h : o.concludeBuild definition (RunRecord.start id definition start.instant)
      start.tick.instant produced built = ((events, outcome), finish)) :
    o.Course id definition start (Trace.started lines events) outcome finish := by
  cases produced with
  | error failure =>
      obtain ⟨_, dropped, hdiscard, hfailing⟩ := Act.bind_eq h
      cases hfailing
      exact .unbuilt hprecheck hproduce (congrArg Prod.snd hdiscard)
  | ok handoff =>
      obtain ⟨result, counted, hcounted, hpackaging⟩ := Act.bind_eq h
      cases hcounted
      obtain ⟨⟨told, outcome'⟩, _, hpackaged, htold⟩ := Act.bind_eq hpackaging
      cases htold
      exact course_of_packageStage hprecheck hproduce hpackaged

/-- Every run takes one of the four courses. -/
theorem course_of_execute {finish : World σ} {events : List Event} {outcome : RunOutcome}
    (h : o.execute id definition start = ((events, outcome), finish)) :
    o.Course id definition start events outcome finish := by
  cases hprecheck : o.precheck definition definition.fingerprint with
  | error failure =>
      rw [execute_apply, hprecheck] at h
      cases h
      exact .refused hprecheck
  | ok _ =>
      rcases hproduce : o.producer.produce id definition.builder definition.fingerprint
        start.tick.tick with ⟨⟨produced, lines⟩, built⟩
      rcases hconclude : o.concludeBuild definition (RunRecord.start id definition start.instant)
        start.tick.instant produced built with ⟨⟨told, concluded⟩, last⟩
      rw [execute_of_produce hprecheck hproduce hconclude] at h
      cases h
      exact course_of_concludeBuild hprecheck hproduce hconclude

end Orchestrator

end SealedBuild
