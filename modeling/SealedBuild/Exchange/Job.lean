import SealedBuild.Exchange.Artifact
import SealedBuild.Job

/-!
# Jobs in JSON

The JSON form of jobs, of what an executor says of them, and of their log lines. Exit codes
are words of thirty-two bits.
-/

namespace SealedBuild

open Json (Decoder)
open Json.Decoder (parts? caseParts? required optional)

def RunId.toJson (id : RunId) : Json :=
  .text id.toText

def RunId.ofJson? (json : Json) : Option RunId :=
  json.text?.bind RunId.parse?

def VolumeMount.toJson (volume : VolumeMount) : Json :=
  .object [
    ("source", .text volume.source),
    ("mount_path", .text volume.mountPath),
    ("read_only", .bool volume.readOnly)]

def VolumeMount.ofJson? (json : Json) : Option VolumeMount :=
  match parts? ["source", "mount_path", "read_only"] json with
  | some [source, mountPath, readOnly] => do
    pure {
      source := ← required Decoder.text source
      mountPath := ← required Decoder.text mountPath
      readOnly := ← required Decoder.truth readOnly }
  | _ => none

def JobSpec.toJson (spec : JobSpec) : Json :=
  .object [
    ("id", spec.id.toJson),
    ("image", .text spec.image),
    ("command", Json.texts spec.command),
    ("working_dir", Json.textOrNull spec.workingDir),
    ("env", Json.ofVarMap spec.env),
    ("volumes", .list (spec.volumes.map VolumeMount.toJson))]

def JobSpec.ofJson? (json : Json) : Option JobSpec :=
  match parts? ["id", "image", "command", "working_dir", "env", "volumes"] json with
  | some [id, image, command, workingDir, env, volumes] => do
    pure {
      id := ← required RunId.ofJson? id
      image := ← required Decoder.text image
      command := ← required (Decoder.listOf Decoder.text) command
      workingDir := ← optional Decoder.text workingDir
      env := ← required Decoder.varMap env
      volumes := ← required (Decoder.listOf VolumeMount.ofJson?) volumes }
  | _ => none

def JobHandle.toJson (handle : JobHandle) : Json :=
  .object [
    ("id", handle.id.toJson),
    ("executor_id", .text handle.executorId),
    ("executor_name", .text handle.executorName)]

def JobHandle.ofJson? (json : Json) : Option JobHandle :=
  match parts? ["id", "executor_id", "executor_name"] json with
  | some [id, executorId, executorName] => do
    pure {
      id := ← required RunId.ofJson? id
      executorId := ← required Decoder.text executorId
      executorName := ← required Decoder.text executorName }
  | _ => none

/-- An exit code, or null for none. -/
def Job.exitCodeToJson (code : Option Int) : Json :=
  code.elim .null .integer

/-- Reads an exit code. -/
def Job.exitCodeOfJson? : Decoder Int :=
  Decoder.integer (-2147483648) 2147483648

def JobStatus.toJson : JobStatus → Json
  | pending => .text "Pending"
  | running startedAt => .object [("Running", .object [("started_at", startedAt.toJson)])]
  | succeeded startedAt finishedAt =>
    .object [("Succeeded", .object [
      ("started_at", startedAt.toJson),
      ("finished_at", finishedAt.toJson)])]
  | failed startedAt finishedAt exitCode message =>
    .object [("Failed", .object [
      ("started_at", startedAt.elim .null Instant.toJson),
      ("finished_at", finishedAt.toJson),
      ("exit_code", Job.exitCodeToJson exitCode),
      ("message", .text message)])]

def JobStatus.ofJson? (json : Json) : Option JobStatus :=
  match Decoder.case? json with
  | some ("Pending", payload) => if Decoder.isNothing payload then some .pending else none
  | some ("Running", some payload) =>
    match caseParts? ["started_at"] payload with
    | some [startedAt] => (required Instant.ofJson? startedAt).map .running
    | _ => none
  | some ("Succeeded", some payload) =>
    match caseParts? ["started_at", "finished_at"] payload with
    | some [startedAt, finishedAt] => do
      pure (.succeeded (← required Instant.ofJson? startedAt)
        (← required Instant.ofJson? finishedAt))
    | _ => none
  | some ("Failed", some payload) =>
    match caseParts? ["started_at", "finished_at", "exit_code", "message"] payload with
    | some [startedAt, finishedAt, exitCode, message] => do
      pure (.failed (← optional Instant.ofJson? startedAt)
        (← required Instant.ofJson? finishedAt) (← optional Job.exitCodeOfJson? exitCode)
        (← required Decoder.text message))
    | _ => none
  | _ => none

def JobResult.toJson (result : JobResult) : Json :=
  .object [
    ("status", result.status.toJson),
    ("exit_code", Job.exitCodeToJson result.exitCode)]

def JobResult.ofJson? (json : Json) : Option JobResult :=
  match parts? ["status", "exit_code"] json with
  | some [status, exitCode] => do
    pure ⟨← required JobStatus.ofJson? status, ← optional Job.exitCodeOfJson? exitCode⟩
  | _ => none

def LogStream.toJson : LogStream → Json
  | stdout => .text "Stdout"
  | stderr => .text "Stderr"
  | system => .text "System"

def LogStream.ofJson? (json : Json) : Option LogStream :=
  match Decoder.case? json with
  | some ("Stdout", payload) => if Decoder.isNothing payload then some .stdout else none
  | some ("Stderr", payload) => if Decoder.isNothing payload then some .stderr else none
  | some ("System", payload) => if Decoder.isNothing payload then some .system else none
  | _ => none

def LogLine.toJson (line : LogLine) : Json :=
  .object [
    ("timestamp", line.timestamp.toJson),
    ("stream", line.stream.toJson),
    ("content", .text line.content)]

def LogLine.ofJson? (json : Json) : Option LogLine :=
  match parts? ["timestamp", "stream", "content"] json with
  | some [timestamp, stream, content] => do
    pure {
      timestamp := ← required Instant.ofJson? timestamp
      stream := ← required LogStream.ofJson? stream
      content := ← required Decoder.text content }
  | _ => none

end SealedBuild
