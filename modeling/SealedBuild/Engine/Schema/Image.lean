import SealedBuild.Engine.Schema.Basic

/-!
# Descriptions of images

Schemas of what an engine says of images and while it builds one.
-/

namespace SealedBuild.Engine.Schema

open Json (Schema FieldSpec)

/-- The inspection of an image. -/
def imageInspected : Schema :=
  .record "ImageInspect"
    [textField "Id", textsField "RepoTags", textsField "RepoDigests", textField "Parent",
      textField "Comment", textField "Created", textField "DockerVersion", textField "Author",
      .maybe "Config" (.record "ImageConfig" configFields), textField "Architecture",
      textField "Variant", textField "Os", textField "OsVersion", longField "Size",
      longField "VirtualSize", .maybe "GraphDriver" graphDriver,
      .maybe "RootFS" (.record "ImageInspectRootFs"
        [.needed "Type" .text, textsField "Layers"]),
      .maybe "Metadata" (.record "ImageInspectMetadata" [textField "LastTagTime"])]

/-- A message of an image build. -/
def buildTold : Schema :=
  .record "BuildInfo"
    [textField "id", textField "stream", textField "error",
      .maybe "errorDetail" (.record "ErrorDetail" [longField "code", textField "message"]),
      textField "status", textField "progress",
      .maybe "progressDetail" (.record "ProgressDetail"
        [longField "current", longField "total"]),
      .maybe "aux" (.record "ImageId" [textField "ID"])]

/-- The message in which an engine says why it refuses a request. -/
def refusal : Schema :=
  .record "DockerServerErrorMessage" [.needed "message" .text]

end SealedBuild.Engine.Schema
