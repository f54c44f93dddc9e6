import SealedBuild.Engine
import SealedBuild.Engine.Schema.Container
import SealedBuild.Engine.Schema.Image
import SealedBuild.Json.Reader

/-!
# Messages of the engine

What is taken from the JSON values that an engine answers, alone or as a stream of one value a
line. A line that holds no whole value goes on with the next one, once; a second one, or one
that nothing follows, breaks the stream.
-/

namespace SealedBuild.Engine

/-- A kind of message: what a text has to hold, and what is taken from it. -/
structure Message (α : Type) where
  schema : Json.Schema
  taken : Json → α

namespace Message

/-- The id of a container that was created. -/
def createdId : Message String :=
  ⟨Schema.containerCreated, fun json => (json.textOf? "Id").getD ""⟩

/-- What is taken from the state of a container. -/
def stateOf (json : Json) : ContainerState where
  running := json.truthOf? "Running"
  paused := json.truthOf? "Paused"
  exitCode := json.integerOf? "ExitCode"
  error := json.textOf? "Error"
  startedAt := json.textOf? "StartedAt"
  finishedAt := json.textOf? "FinishedAt"

/-- The state of a container that was inspected. -/
def inspectedState : Message (Option ContainerState) :=
  ⟨Schema.containerInspected, fun json => (json.present? "State").map stateOf⟩

/-- The id of an image that was inspected. -/
def inspectedImage : Message (Option String) :=
  ⟨Schema.imageInspected, fun json => json.textOf? "Id"⟩

/-- The exit code at the end of a wait. -/
def waitCode : Message Int :=
  ⟨Schema.waitEnded, fun json => (json.integerOf? "StatusCode").getD 0⟩

/-- What an image build tells. -/
def build : Message BuildMessage :=
  ⟨Schema.buildTold, fun json =>
    { error := json.textOf? "error"
      imageId := (json.present? "aux").bind fun aux => aux.textOf? "ID" }⟩

/-- Why a request was refused. -/
def refusal : Message String :=
  ⟨Schema.refusal, fun json => (json.textOf? "message").getD ""⟩

variable {α : Type}

/-- Reads a message. -/
def read (message : Message α) (bytes : List UInt8) : Except Json.ReadFault α :=
  (Json.readAs message.schema bytes).map message.taken

/-- Reads a message that is a whole answer. -/
def readWhole (message : Message α) (bytes : List UInt8) : Except EngineFault α :=
  (message.read bytes).mapError fun fault =>
    match fault.reason.kind with
    | .ended => .unreadable fault.message
    | .malformed | .misshapen => .misshapen fault.message

/-- What one line of a stream holds: a message, or nothing when it is null or ends too
early. -/
def readLine (message : Message α) (line : List UInt8) : Except EngineFault (Option α) :=
  match Json.readAs (.optional message.schema) line with
  | .ok .null => .ok none
  | .ok json => .ok (some (message.taken json))
  | .error fault =>
    match fault.reason.kind with
    | .ended => .ok none
    | .malformed => .error (.unreadable fault.message)
    | .misshapen => .error (.misshapen fault.message)

/-- Messages of a stream from some bytes on; `joined` when two of its lines have been
joined. -/
def streamFrom (message : Message α) (joined : Bool) (bytes : List UInt8) : EngineStream α :=
  if _h : bytes = [] then []
  else
    let line := bytes.takeWhile (· != 10)
    let behind := bytes.drop (line.length + 1)
    match message.readLine line with
    | .error fault => [.error fault]
    | .ok (some item) => .ok item :: streamFrom message joined behind
    | .ok none =>
      if _hj : joined = true then
        if line.isEmpty && behind.isEmpty then [] else [.error .leftover]
      else streamFrom message true (line ++ behind)
termination_by bytes.length + (if joined then 0 else 1)
decreasing_by
  · have := List.length_pos_iff.2 _h
    simp only [List.length_drop]
    omega
  · have := (List.takeWhile_sublist (fun b : UInt8 => b != 10) (l := bytes)).length_le
    simp only [List.length_append, List.length_drop, Bool.not_eq_true] at *
    simp only [_hj]
    simp only [Bool.false_eq_true, if_true, if_false]
    omega

/-- The messages of a stream of lines. -/
def stream (message : Message α) (bytes : List UInt8) : EngineStream α :=
  message.streamFrom false bytes

end Message

end SealedBuild.Engine
