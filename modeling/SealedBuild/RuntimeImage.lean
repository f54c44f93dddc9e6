import SealedBuild.Artifact
import SealedBuild.Pipeline
import SealedBuild.Text.Quoted

/-!
# Runtime images

What an assembler is asked for: an image of the base image, the one artifact and the entry
command, with labels that say which build it came from. The containerfile of a request has
no step that runs inside the image.
-/

namespace SealedBuild

/-- A request for a runtime image. -/
structure AssemblyRequest where
  spec : RuntimeSpec
  artifact : CompiledArtifact
  /-- The tag that the image gets. -/
  tag : String
  labels : VarMap
  deriving DecidableEq, Inhabited

namespace AssemblyRequest

def pipelineLabel : String := "isobuild.pipeline"

def fingerprintLabel : String := "isobuild.fingerprint"

def checksumLabel : String := "isobuild.artifact.sha256"

/-- The name of the containerfile in a build context. -/
def containerfileName : String := "Containerfile"

/-- The name of the artifact in a build context, whatever its own name is. -/
def artifactEntryName : String := "artifact"

/-- The request for an artifact, with its three labels. -/
def ofArtifact (spec : RuntimeSpec) (artifact : CompiledArtifact)
    (tag pipeline fingerprint : String) : AssemblyRequest where
  spec
  artifact
  tag
  labels := VarMap.ofList
    [(pipelineLabel, pipeline), (fingerprintLabel, fingerprint),
      (checksumLabel, artifact.checksum)]

/-- The containerfile of the image: its base, its labels, the artifact and the command. -/
def containerfile (request : AssemblyRequest) : String :=
  "FROM " ++ request.spec.baseImage ++ "\n" ++
    String.join (request.labels.entries.map fun (name, value) =>
      "LABEL " ++ name ++ "=" ++ Text.quoted value ++ "\n") ++
    "COPY " ++ artifactEntryName ++ " " ++ request.spec.destination ++ "\n" ++
    "CMD " ++ Text.execForm request.spec.entryCommand ++ "\n"

end AssemblyRequest

/-- An assembled image, which is what a run ends in. -/
structure RuntimeImage where
  /-- The image id that the engine gave. -/
  id : String
  tag : String
  baseImage : String
  artifact : CompiledArtifact
  destination : String
  entryCommand : List String
  fingerprint : String
  createdAt : Instant
  deriving DecidableEq, Inhabited

end SealedBuild
