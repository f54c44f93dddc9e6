import SealedBuild.Backend
import SealedBuild.Text.Lowercase

/-!
# The runtime stage

Packages a handoff into a runtime image. The staged file is checked and the tag is settled
before anything is assembled.
-/

namespace SealedBuild

/-- A runtime stage on an assembler. -/
structure RuntimeStage (σ : Type) where
  assembler : Assembler σ
  /-- A tag for every image, in place of declared ones. -/
  tag : Option String := none

namespace RuntimeStage

variable {σ : Type}

/-- The number of fingerprint digits in a default tag. -/
def shortFingerprint : Nat := 12

/-- The tag of an image that has none declared: the pipeline's name in lower case and the
start of the fingerprint. -/
def defaultTag (pipeline fingerprint : String) : String :=
  Text.lowercase pipeline ++ ":" ++
    String.ofList (fingerprint.toList.take shortFingerprint)

/-- The tag an image gets: the given one, else the declared one, else the default one. It
has to be a usable image tag. -/
def resolveTag (override : Option String) (pipeline : String) (spec : RuntimeSpec)
    (fingerprint : String) : Except Failure String := do
  let tag := (override.or spec.tag).getD (defaultTag pipeline fingerprint)
  ImageTag.validate tag
  pure tag

/-- Packages a handoff. -/
def package (stage : RuntimeStage σ) (pipeline : String) (spec : RuntimeSpec)
    (handoff : Handoff) : Act σ (Except Failure RuntimeImage) := ExceptT.run do
  let files ← (Act.files : Act σ FileTree)
  ExceptT.mk (pure (handoff.verify files))
  let tag ← ExceptT.mk (pure (resolveTag stage.tag pipeline spec handoff.fingerprint))
  let request :=
    AssemblyRequest.ofArtifact spec handoff.artifact tag pipeline handoff.fingerprint
  let id ← ExceptT.mk (stage.assembler.assemble request)
  let createdAt ← (Act.now : Act σ Instant)
  pure {
    id
    tag
    baseImage := spec.baseImage
    artifact := handoff.artifact
    destination := spec.destination
    entryCommand := spec.entryCommand
    fingerprint := handoff.fingerprint
    createdAt }

end RuntimeStage

end SealedBuild
