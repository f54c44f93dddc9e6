import SealedBuild.Exchange.Environment
import SealedBuild.Pipeline

/-!
# Pipelines in JSON

The JSON form of pipeline definitions and of the two stage specifications.
-/

namespace SealedBuild

open Json (Decoder)
open Json.Decoder (parts? required optional)

def SourceMount.toJson (source : SourceMount) : Json :=
  .object [("host_dir", .text source.hostDir), ("mount_path", .text source.mountPath)]

def SourceMount.ofJson? (json : Json) : Option SourceMount :=
  match parts? ["host_dir", "mount_path"] json with
  | some [hostDir, mountPath] => do
    pure ⟨← required Decoder.text hostDir, ← required Decoder.text mountPath⟩
  | _ => none

def BuilderSpec.toJson (spec : BuilderSpec) : Json :=
  .object [
    ("environment", spec.environment.toJson),
    ("source", spec.source.elim .null SourceMount.toJson),
    ("commands", Json.texts spec.commands),
    ("artifact_path", .text spec.artifactPath)]

def BuilderSpec.ofJson? (json : Json) : Option BuilderSpec :=
  match parts? ["environment", "source", "commands", "artifact_path"] json with
  | some [environment, source, commands, artifactPath] => do
    pure {
      environment := ← required BuildEnvironment.ofJson? environment
      source := ← optional SourceMount.ofJson? source
      commands := ← required (Decoder.listOf Decoder.text) commands
      artifactPath := ← required Decoder.text artifactPath }
  | _ => none

def RuntimeSpec.toJson (spec : RuntimeSpec) : Json :=
  .object [
    ("base_image", .text spec.baseImage),
    ("destination", .text spec.destination),
    ("tag", Json.textOrNull spec.tag)]

def RuntimeSpec.ofJson? (json : Json) : Option RuntimeSpec :=
  match parts? ["base_image", "destination", "tag"] json with
  | some [baseImage, destination, tag] => do
    pure {
      baseImage := ← required Decoder.text baseImage
      destination := ← required Decoder.text destination
      tag := ← optional Decoder.text tag }
  | _ => none

def PipelineDefinition.toJson (definition : PipelineDefinition) : Json :=
  .object [
    ("name", .text definition.name),
    ("builder", definition.builder.toJson),
    ("runtime", definition.runtime.toJson)]

def PipelineDefinition.ofJson? (json : Json) : Option PipelineDefinition :=
  match parts? ["name", "builder", "runtime"] json with
  | some [name, builder, runtime] => do
    pure {
      name := ← required Decoder.text name
      builder := ← required BuilderSpec.ofJson? builder
      runtime := ← required RuntimeSpec.ofJson? runtime }
  | _ => none

def Stage.toJson (stage : Stage) : Json :=
  .text stage.name

def Stage.ofJson? (json : Json) : Option Stage :=
  match Decoder.case? json with
  | some ("builder", payload) => if Decoder.isNothing payload then some .builder else none
  | some ("runtime", payload) => if Decoder.isNothing payload then some .runtime else none
  | _ => none

end SealedBuild
