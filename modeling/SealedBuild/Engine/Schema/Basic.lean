import SealedBuild.Json.Schema

/-!
# Parts of the engine's messages

Schemas that the descriptions of containers and images share, and short forms for the fields
that they consist of. Where the engine leaves a field out it may send null as well.
-/

namespace SealedBuild.Engine.Schema

open Json (Schema FieldSpec)

/-- A text field. -/
def textField (name : String) : FieldSpec Schema :=
  .maybe name .text

/-- A truth field. -/
def truthField (name : String) : FieldSpec Schema :=
  .maybe name .truth

/-- A field with a whole number of sixty-four bits. -/
def longField (name : String) : FieldSpec Schema :=
  .maybe name .long

/-- A field with a list of texts. -/
def textsField (name : String) : FieldSpec Schema :=
  .maybe name (.list .text)

/-- A field with an object of texts. -/
def textMapField (name : String) : FieldSpec Schema :=
  .maybe name (.map .text)

/-- A field with an object whose values are empty objects. -/
def nameSetField (name : String) : FieldSpec Schema :=
  .maybe name (.map (.map .nothing))

/-- A field with one of some names; the empty name may stand too. -/
def choiceField (name : String) (names : List String) : FieldSpec Schema :=
  .maybe name (.choice ("" :: names))

/-- A list that has to be there; null counts as the empty list. -/
def neededList (name : String) (item : Schema) : FieldSpec Schema :=
  .needed name (.optional (.list item))

/-- How a health check is made. -/
def healthConfig : Schema :=
  .record "HealthConfig"
    [textsField "Test", longField "Interval", longField "Timeout", longField "Retries",
      longField "StartPeriod", longField "StartInterval"]

/-- The fields that containers and images are configured by. -/
def configFields : List (FieldSpec Schema) :=
  [textField "Hostname", textField "Domainname", textField "User", truthField "AttachStdin",
    truthField "AttachStdout", truthField "AttachStderr", nameSetField "ExposedPorts",
    truthField "Tty", truthField "OpenStdin", truthField "StdinOnce", textsField "Env",
    textsField "Cmd", .maybe "Healthcheck" healthConfig, truthField "ArgsEscaped",
    textField "Image", nameSetField "Volumes", textField "WorkingDir", textsField "Entrypoint",
    truthField "NetworkDisabled", textField "MacAddress", textsField "OnBuild",
    textMapField "Labels", textField "StopSignal", longField "StopTimeout", textsField "Shell"]

/-- The storage of a container or an image. -/
def graphDriver : Schema :=
  .record "GraphDriverData"
    [.needed "Name" .text, .needed "Data" (.optional (.map .text))]

end SealedBuild.Engine.Schema
