import SealedBuild.Environment
import SealedBuild.HostPath
import SealedBuild.ImageTag
import SealedBuild.Instant
import SealedBuild.RunId

/-!
# Pipelines

A pipeline has two stages joined by one artifact: the builder stage makes an executable in
a container, the runtime stage puts it alone into an image. This module holds what a
pipeline declares, when a declaration is accepted, and the record of a run.
-/

namespace SealedBuild

/-- A source tree on the host that the builder sees read-only. -/
structure SourceMount where
  hostDir : String
  mountPath : String
  deriving DecidableEq, Inhabited

/-- Where a source tree is mounted unless it is declared otherwise. -/
def SourceMount.defaultPath : String := "/src"

/-- What the builder stage is given. -/
structure BuilderSpec where
  environment : BuildEnvironment
  /-- A build that fetches its own source has none. -/
  source : Option SourceMount
  /-- The build commands, run in order once the packages are installed. -/
  commands : List String
  /-- The path of the executable inside the builder. -/
  artifactPath : String
  deriving DecidableEq, Inhabited

/-- What the runtime stage is given. -/
structure RuntimeSpec where
  baseImage : String
  /-- The path of the artifact in the image. -/
  destination : String
  /-- The tag of the image, if one is declared. -/
  tag : Option String
  deriving DecidableEq, Inhabited

/-- A complete declaration of both stages. -/
structure PipelineDefinition where
  name : String
  builder : BuilderSpec
  runtime : RuntimeSpec
  deriving DecidableEq, Inhabited

/-- Why a declaration is not accepted. -/
inductive DefinitionFault where
  | unnamedPipeline
  | environment (fault : EnvironmentFault)
  | noCommands
  | relativePath (what path : String)
  | directoryPath (what path : String)
  | noBaseImage
  | tag (reference : String) (fault : TagFault)
  deriving DecidableEq, Inhabited

/-- The wording of a definition fault. -/
def DefinitionFault.message : DefinitionFault → String
  | unnamedPipeline => "pipeline name is empty"
  | environment fault => fault.message
  | noCommands => "builder stage has no build commands"
  | relativePath what path => what ++ " '" ++ path ++ "' must be absolute"
  | directoryPath what path => what ++ " '" ++ path ++ "' names a directory"
  | noBaseImage => "runtime base image is empty"
  | tag reference fault => ImageTag.faultText reference fault

/-- A definition fault as the failure of a run. -/
def DefinitionFault.toFailure (fault : DefinitionFault) : Failure :=
  .invalidInput fault.message

/-- Checks that a path is absolute and does not end in a slash. -/
def checkFilePath (what path : String) : Except DefinitionFault Unit :=
  if !path.startsWith "/" then .error (.relativePath what path)
  else if path.endsWith "/" then .error (.directoryPath what path)
  else .ok ()

namespace BuilderSpec

/-- The file name of the artifact; its whole path where that has none. -/
def artifactName (spec : BuilderSpec) : String :=
  (HostPath.fileName? spec.artifactPath).getD spec.artifactPath

/-- Checks the environment, then that there are commands, then the artifact's path. -/
def check (spec : BuilderSpec) : Except DefinitionFault Unit := do
  spec.environment.check.mapError .environment
  if spec.commands.isEmpty then throw .noCommands
  checkFilePath "artifact path" spec.artifactPath

def validate (spec : BuilderSpec) : Except Failure Unit :=
  spec.check.mapError DefinitionFault.toFailure

end BuilderSpec

namespace RuntimeSpec

/-- The command of the image: the artifact without arguments. -/
def entryCommand (spec : RuntimeSpec) : List String :=
  [spec.destination]

/-- Checks the base image, then the destination, then the tag. -/
def check (spec : RuntimeSpec) : Except DefinitionFault Unit := do
  if Text.allBlank spec.baseImage then throw .noBaseImage
  checkFilePath "destination" spec.destination
  spec.tag.forM fun tag => (ImageTag.check tag).mapError (.tag tag)

def validate (spec : RuntimeSpec) : Except Failure Unit :=
  spec.check.mapError DefinitionFault.toFailure

end RuntimeSpec

namespace PipelineDefinition

/-- Checks the name, then the builder stage, then the runtime stage. -/
def check (definition : PipelineDefinition) : Except DefinitionFault Unit := do
  if Text.allBlank definition.name then throw .unnamedPipeline
  definition.builder.check
  definition.runtime.check

def validate (definition : PipelineDefinition) : Except Failure Unit :=
  definition.check.mapError DefinitionFault.toFailure

/-- The fingerprint of all that decides what the artifact is. -/
def fingerprint (definition : PipelineDefinition) : String :=
  definition.builder.environment.fingerprint definition.builder.commands

end PipelineDefinition

/-- The two stages of a pipeline. -/
inductive Stage where
  | builder
  | runtime
  deriving DecidableEq, Inhabited

def Stage.name : Stage → String
  | builder => "builder"
  | runtime => "runtime"

/-- Where a run stands. -/
inductive RunState where
  | building
  | packaged
  /-- A stage failed, with the failure's kind and wording. -/
  | failed (stage : Stage) (kind message : String)
  deriving DecidableEq, Inhabited

namespace RunState

/-- Whether the run is over. -/
def isTerminal : RunState → Bool
  | building => false
  | packaged => true
  | failed _ _ _ => true

/-- The state of a run in which a stage failed. -/
def ofFailure (stage : Stage) (failure : Failure) : RunState :=
  .failed stage failure.kind failure.message

end RunState

/-- How one stage of a run ended. -/
structure StageResult where
  stage : Stage
  succeeded : Bool
  message : Option String
  startedAt : Instant
  finishedAt : Instant
  deriving DecidableEq, Inhabited

/-- The record of one run. -/
structure RunRecord where
  id : RunId
  pipeline : String
  fingerprint : String
  state : RunState
  stages : List StageResult
  createdAt : Instant
  finishedAt : Option Instant
  deriving DecidableEq, Inhabited

/-- The record of a run that starts now. -/
def RunRecord.start (id : RunId) (definition : PipelineDefinition) (now : Instant) :
    RunRecord where
  id
  pipeline := definition.name
  fingerprint := definition.fingerprint
  state := .building
  stages := []
  createdAt := now
  finishedAt := none

end SealedBuild
