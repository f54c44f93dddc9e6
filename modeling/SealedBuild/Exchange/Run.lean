import SealedBuild.Exchange.Job
import SealedBuild.Orchestrator

/-!
# Runs in JSON

The JSON form of run records and outcomes, which is also the summary that a build prints on
request.
-/

namespace SealedBuild

open Json (Decoder)
open Json.Decoder (parts? caseParts? required optional)

def RunState.toJson : RunState → Json
  | building => .text "Building"
  | packaged => .text "Packaged"
  | failed stage kind message =>
    .object [("Failed", .object [
      ("stage", stage.toJson),
      ("kind", .text kind),
      ("message", .text message)])]

def RunState.ofJson? (json : Json) : Option RunState :=
  match Decoder.case? json with
  | some ("Building", payload) => if Decoder.isNothing payload then some .building else none
  | some ("Packaged", payload) => if Decoder.isNothing payload then some .packaged else none
  | some ("Failed", some payload) =>
    match caseParts? ["stage", "kind", "message"] payload with
    | some [stage, kind, message] => do
      pure (.failed (← required Stage.ofJson? stage) (← required Decoder.text kind)
        (← required Decoder.text message))
    | _ => none
  | _ => none

def StageResult.toJson (result : StageResult) : Json :=
  .object [
    ("stage", result.stage.toJson),
    ("succeeded", .bool result.succeeded),
    ("message", Json.textOrNull result.message),
    ("started_at", result.startedAt.toJson),
    ("finished_at", result.finishedAt.toJson)]

def StageResult.ofJson? (json : Json) : Option StageResult :=
  match parts? ["stage", "succeeded", "message", "started_at", "finished_at"] json with
  | some [stage, succeeded, message, startedAt, finishedAt] => do
    pure {
      stage := ← required Stage.ofJson? stage
      succeeded := ← required Decoder.truth succeeded
      message := ← optional Decoder.text message
      startedAt := ← required Instant.ofJson? startedAt
      finishedAt := ← required Instant.ofJson? finishedAt }
  | _ => none

def RunRecord.toJson (run : RunRecord) : Json :=
  .object [
    ("id", run.id.toJson),
    ("pipeline", .text run.pipeline),
    ("fingerprint", .text run.fingerprint),
    ("state", run.state.toJson),
    ("stages", .list (run.stages.map StageResult.toJson)),
    ("created_at", run.createdAt.toJson),
    ("finished_at", run.finishedAt.elim .null Instant.toJson)]

def RunRecord.ofJson? (json : Json) : Option RunRecord :=
  match parts? ["id", "pipeline", "fingerprint", "state", "stages", "created_at",
      "finished_at"] json with
  | some [id, pipeline, fingerprint, state, stages, createdAt, finishedAt] => do
    pure {
      id := ← required RunId.ofJson? id
      pipeline := ← required Decoder.text pipeline
      fingerprint := ← required Decoder.text fingerprint
      state := ← required RunState.ofJson? state
      stages := ← required (Decoder.listOf StageResult.ofJson?) stages
      createdAt := ← required Instant.ofJson? createdAt
      finishedAt := ← optional Instant.ofJson? finishedAt }
  | _ => none

def RunOutcome.toJson (outcome : RunOutcome) : Json :=
  .object [
    ("run", outcome.run.toJson),
    ("image", outcome.image.elim .null RuntimeImage.toJson)]

end SealedBuild
