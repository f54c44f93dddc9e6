import SealedBuild.Exchange.Pipeline
import SealedBuild.RuntimeImage

/-!
# Artifacts and images in JSON

The JSON form of inspections, artifacts, assembly requests and runtime images. Instants are
written as RFC 3339 texts in universal time.
-/

namespace SealedBuild

open Json (Decoder)
open Json.Decoder (parts? caseParts? required optional)

def Instant.toJson (t : Instant) : Json :=
  .text t.toText

/-- Reads the text of an instant, of any offset from universal time. -/
def Instant.ofJson? (json : Json) : Option Instant :=
  json.text?.bind Instant.parseLenient?

def Architecture.toJson : Architecture → Json
  | x86_64 => .text "X86_64"
  | aarch64 => .text "Aarch64"
  | other name => .object [("Other", .text name)]

def Architecture.ofJson? (json : Json) : Option Architecture :=
  match Decoder.case? json with
  | some ("X86_64", payload) => if Decoder.isNothing payload then some .x86_64 else none
  | some ("Aarch64", payload) => if Decoder.isNothing payload then some .aarch64 else none
  | some ("Other", payload) => (required Decoder.text payload).map .other
  | _ => none

def Linkage.toJson : Linkage → Json
  | static => .text "Static"
  | dynamic libraries =>
    .object [("Dynamic", .object [("libraries", Json.texts libraries)])]

def Linkage.ofJson? (json : Json) : Option Linkage :=
  match Decoder.case? json with
  | some ("Static", payload) => if Decoder.isNothing payload then some .static else none
  | some ("Dynamic", payload) =>
    match payload.bind (caseParts? ["libraries"]) with
    | some [libraries] =>
      (required (Decoder.listOf Decoder.text) libraries).map .dynamic
    | _ => none
  | _ => none

def Inspection.toJson (i : Inspection) : Json :=
  .object [
    ("architecture", i.architecture.toJson),
    ("needed", Json.texts i.needed),
    ("interpreter", Json.textOrNull i.interpreter),
    ("has_symtab", .bool i.hasSymtab),
    ("debug_sections", Json.texts i.debugSections)]

def Inspection.ofJson? (json : Json) : Option Inspection :=
  match parts? ["architecture", "needed", "interpreter", "has_symtab", "debug_sections"]
      json with
  | some [architecture, needed, interpreter, hasSymtab, debugSections] => do
    pure {
      architecture := ← required Architecture.ofJson? architecture
      needed := ← required (Decoder.listOf Decoder.text) needed
      interpreter := ← optional Decoder.text interpreter
      hasSymtab := ← required Decoder.truth hasSymtab
      debugSections := ← required (Decoder.listOf Decoder.text) debugSections }
  | _ => none

def CompiledArtifact.toJson (artifact : CompiledArtifact) : Json :=
  .object [
    ("name", .text artifact.name),
    ("source_path", .text artifact.sourcePath),
    ("staged_path", .text artifact.stagedPath),
    ("architecture", artifact.architecture.toJson),
    ("linkage", artifact.linkage.toJson),
    ("stripped", .bool artifact.stripped),
    ("size", .integer artifact.size),
    ("checksum", .text artifact.checksum),
    ("produced_at", artifact.producedAt.toJson)]

def CompiledArtifact.ofJson? (json : Json) : Option CompiledArtifact :=
  match parts? ["name", "source_path", "staged_path", "architecture", "linkage", "stripped",
      "size", "checksum", "produced_at"] json with
  | some [name, sourcePath, stagedPath, architecture, linkage, stripped, size, checksum,
      producedAt] => do
    pure {
      name := ← required Decoder.text name
      sourcePath := ← required Decoder.text sourcePath
      stagedPath := ← required Decoder.text stagedPath
      architecture := ← required Architecture.ofJson? architecture
      linkage := ← required Linkage.ofJson? linkage
      stripped := ← required Decoder.truth stripped
      size := ← required (Decoder.natural (Nat.pow 2 64)) size
      checksum := ← required Decoder.text checksum
      producedAt := ← required Instant.ofJson? producedAt }
  | _ => none

def AssemblyRequest.toJson (request : AssemblyRequest) : Json :=
  .object [
    ("spec", request.spec.toJson),
    ("artifact", request.artifact.toJson),
    ("tag", .text request.tag),
    ("labels", Json.ofVarMap request.labels)]

def AssemblyRequest.ofJson? (json : Json) : Option AssemblyRequest :=
  match parts? ["spec", "artifact", "tag", "labels"] json with
  | some [spec, artifact, tag, labels] => do
    pure {
      spec := ← required RuntimeSpec.ofJson? spec
      artifact := ← required CompiledArtifact.ofJson? artifact
      tag := ← required Decoder.text tag
      labels := ← required Decoder.varMap labels }
  | _ => none

def RuntimeImage.toJson (image : RuntimeImage) : Json :=
  .object [
    ("id", .text image.id),
    ("tag", .text image.tag),
    ("base_image", .text image.baseImage),
    ("artifact", image.artifact.toJson),
    ("destination", .text image.destination),
    ("entry_command", Json.texts image.entryCommand),
    ("fingerprint", .text image.fingerprint),
    ("created_at", image.createdAt.toJson)]

def RuntimeImage.ofJson? (json : Json) : Option RuntimeImage :=
  match parts? ["id", "tag", "base_image", "artifact", "destination", "entry_command",
      "fingerprint", "created_at"] json with
  | some [id, tag, baseImage, artifact, destination, entryCommand, fingerprint,
      createdAt] => do
    pure {
      id := ← required Decoder.text id
      tag := ← required Decoder.text tag
      baseImage := ← required Decoder.text baseImage
      artifact := ← required CompiledArtifact.ofJson? artifact
      destination := ← required Decoder.text destination
      entryCommand := ← required (Decoder.listOf Decoder.text) entryCommand
      fingerprint := ← required Decoder.text fingerprint
      createdAt := ← required Instant.ofJson? createdAt }
  | _ => none

end SealedBuild
