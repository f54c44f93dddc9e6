import SealedBuild.Backend

/-!
# Container engines

What the executor and the assembler ask of a container engine, and what it can answer. The
answers are those of the engine's interface: a stream is a list in which every item may be a
fault, and nothing follows a fault but that of an exit code. Nothing here promises that answers
agree with each other.
-/

namespace SealedBuild

/-- What a request to the engine ends in where it has no plain answer. -/
inductive EngineFault where
  /-- The engine answered with an error status. -/
  | refused (status : Nat) (detail : String)
  /-- The answer ends too early, or an item of a stream is no JSON. -/
  | unreadable (reason : String)
  /-- The answer is not the JSON that it should be. -/
  | misshapen (reason : String)
  /-- The stream of an image build told of an error. -/
  | failedBuild
  /-- The stream ends within an item. -/
  | leftover
  /-- A wait ended with an exit code above zero. -/
  | exited (code : Int)
  deriving DecidableEq, Inhabited

/-- The wording of an engine fault. -/
def EngineFault.message : EngineFault → String
  | refused status detail => "Docker responded with status code " ++ toString status ++ ": " ++ detail
  | unreadable reason => reason
  | misshapen reason => "Failed to deserialize JSON: " ++ reason
  | failedBuild => "Docker stream error"
  | leftover => "bytes remaining on stream"
  | exited _ => "Docker container wait error"

/-- A stream of the engine's items. -/
abbrev EngineStream (α : Type) := List (Except EngineFault α)

/-- Where the bytes of a log come from. A console is not told apart by stream. -/
inductive LogSource where
  | stdin
  | stdout
  | stderr
  | console
  deriving DecidableEq, Inhabited

/-- One item of a log. -/
structure LogChunk where
  source : LogSource
  bytes : List UInt8
  deriving DecidableEq, Inhabited

/-- What the engine says of a container's state. -/
structure ContainerState where
  running : Option Bool := none
  paused : Option Bool := none
  /-- The exit code, as a word of sixty-four bits. -/
  exitCode : Option Int := none
  error : Option String := none
  startedAt : Option String := none
  finishedAt : Option String := none
  deriving DecidableEq, Inhabited

/-- What a container is created from. -/
structure ContainerConfig where
  image : String
  /-- The command; that of the image if it is empty. -/
  command : List String
  /-- The variables, as `name=value` texts. -/
  env : List String
  workingDir : Option String
  /-- The mounts, if there are any. -/
  binds : Option (List String)
  deriving DecidableEq, Inhabited

/-- What an image is built from. -/
structure ImageBuild where
  tag : String
  labels : VarMap
  /-- The archive of the build context. -/
  context : List UInt8
  deriving Inhabited

/-- One message of an image build. -/
structure BuildMessage where
  error : Option String := none
  /-- The id of an image that was made. -/
  imageId : Option String := none
  deriving DecidableEq, Inhabited

/-- A container engine. -/
structure Engine (σ : Type) where
  ping : Act σ (Except EngineFault Unit)
  /-- Fetches an image. An image that is missing shows when a container is created. -/
  pull : String → Act σ Unit
  /-- Creates a container of a name and gives its id. -/
  create : String → ContainerConfig → Act σ (Except EngineFault String)
  start : String → Act σ (Except EngineFault Unit)
  /-- The log of a container up to its end. -/
  logs : String → Act σ (EngineStream LogChunk)
  /-- The state of a container, if the engine tells one. -/
  containerState : String → Act σ (Except EngineFault (Option ContainerState))
  /-- Waits until a container no longer runs; gives its exit codes, those above zero as
  faults. -/
  wait : String → Act σ (EngineStream Int)
  /-- The archive of a path in a container, in parts. -/
  archive : String → String → Act σ (EngineStream (List UInt8))
  /-- Removes a container, also one that runs. -/
  remove : String → Act σ (Except EngineFault Unit)
  build : ImageBuild → Act σ (EngineStream BuildMessage)
  /-- The id of the image that bears a tag, if the engine tells one. -/
  imageId : String → Act σ (Except EngineFault (Option String))

namespace Engine

/-- The name of the engine in reports. -/
def name : String := "docker"

end Engine

end SealedBuild
