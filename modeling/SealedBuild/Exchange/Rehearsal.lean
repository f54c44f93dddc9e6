import SealedBuild.Exchange.Failure
import SealedBuild.Exchange.Run
import SealedBuild.Json.Bytes
import SealedBuild.Rehearsal

/-!
# Rehearsals in JSON

The reading of scripts for backends, and the JSON form of the calls and the events of a run.
A script leaves out what goes as usual: the executor is available, the job ends with code
zero and leaves a small executable, the inspector finds it stripped and linked statically.
-/

namespace SealedBuild

open Json (Decoder Reading)

namespace LogStream

/-- The name of a stream. -/
def name : LogStream → String
  | stdout => "Stdout"
  | stderr => "Stderr"
  | system => "System"

/-- A line of a log as its stream and its content. -/
def lineToJson (line : LogLine) : Json :=
  .list [.text line.stream.name, .text line.content]

/-- Reads a line of a log. -/
def lineOfJson? : Decoder (LogStream × String)
  | .list [stream, content] => do
    pure (← LogStream.ofJson? stream, ← Decoder.text content)
  | _ => none

end LogStream

namespace Rehearsal

/-- What the job leaves unless a script says otherwise. -/
def usualArtifact : List UInt8 :=
  Utf8.encode "\x7fELF mock"

/-- What the inspector finds unless a script says otherwise. -/
def usualInspection : Inspection :=
  ⟨.x86_64, ["libc.so.6"], none, false, []⟩

/-- Reads what lies at the copied path: bytes, or a truth value for a directory. -/
def Deposit.read (json : Json) : Reading Deposit :=
  match json.present? "artifact" with
  | none => .ok (.file usualArtifact)
  | some (.bool _) => .ok .directory
  | some _ => (json.bytesOr "artifact").map .file

/-- Reads the exit code of the job; null stands for none. -/
def readExitCode (json : Json) : Reading (Option Int) :=
  match json.field? "exit_code" with
  | none => .ok (some 0)
  | some .null => .ok none
  | some _ => (json.need "exit_code" Decoder.word).map some

/-- Reads the script of an executor. -/
def ExecutorScript.read (json : Json) : Reading ExecutorScript := do
  let available ← json.fieldOr "available" true Decoder.truth
  let spawned ← Failure.readOr json "spawn_error" "mock-container"
  let lines ← json.fieldOr "logs" [] (Decoder.listOf LogStream.lineOfJson?)
  let logs ← Failure.readOr json "logs_error" lines
  let _ ← json.maybe "logs_hang" Decoder.truth
  let waited ← Failure.readOr json "wait_error" ()
  let exitCode ← readExitCode json
  let copied ← Failure.readOr json "copy_error" ()
  let deposit ← Deposit.read json
  let removed ← Failure.readOr json "remove_error" ()
  pure {
    name := "mock"
    available
    spawned
    logs
    ended := waited.map fun () => ⟨.pending, exitCode⟩
    copied := copied.map fun () => deposit
    removed }

/-- Reads the answer of an inspector. -/
def readInspection (json : Json) : Reading (Except Failure Inspection) := do
  let report ← json.fieldOr "report" usualInspection Inspection.ofJson?
  Failure.readOr json "error" report

/-- Reads the assembler that a script describes. -/
def readAssembler (json : Json) : Reading (Assembler Record) := do
  let id ← json.fieldOr "id" "sha256:5e1f0a" Decoder.text
  let answer ← Failure.readOr json "error" id
  pure (assembler "mock" answer)

/-- Reads the builder stage that a script describes. -/
def readStage (json : Json) (stagingDir : String) (retain : Bool) :
    Reading (BuilderStage Record) := do
  let script ← ExecutorScript.read (← json.recordOr "executor")
  let report ← readInspection (← json.recordOr "inspector")
  pure { executor := executor script, inspector := inspector report, stagingDir, retain }

/-- Reads a change to the staged file: a name, or else the new content. -/
def Tampering.read (json : Json) : Reading (Option Tampering) :=
  (json.maybe "tamper" Decoder.text).map fun change =>
    change.map fun
      | "delete" => .delete
      | "directory" => .directory
      | content => .overwrite (Utf8.encode content)

end Rehearsal

def BackendCall.toJson : BackendCall → Json
  | canExecute _ => .text "can_execute"
  | spawn spec => .object [("spawn", spec.toJson)]
  | logs _ => .text "logs"
  | wait _ => .text "wait"
  | copyOut _ path dest => .object [("copy_out", Json.texts [path, dest])]
  | remove _ => .text "remove"
  | inspect path => .object [("inspect", .text path)]
  | assemble request =>
    .object [("assemble", .object [
      ("tag", .text request.tag),
      ("labels", Json.ofVarMap request.labels),
      ("containerfile", .text request.containerfile)])]

def Event.toJson : Event → Json
  | stageStarted stage => .object [("event", .text "started"), ("stage", stage.toJson)]
  | stageLog stage line =>
    .object [
      ("event", .text "log"),
      ("stage", stage.toJson),
      ("line", LogStream.lineToJson line)]
  | stageCompleted stage success message =>
    .object [
      ("event", .text "completed"),
      ("stage", stage.toJson),
      ("success", .bool success),
      ("message", Json.textOrNull message)]
  | artifactProduced artifact =>
    .object [("event", .text "artifact"), ("artifact", artifact.toJson)]
  | runCompleted state => .object [("event", .text "finished"), ("state", state.toJson)]

end SealedBuild
