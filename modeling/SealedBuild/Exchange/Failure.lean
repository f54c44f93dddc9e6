import SealedBuild.Json.Fields
import SealedBuild.PipelineFile

/-!
# Failures in JSON

The JSON form of failures and of faults in pipeline files: the kind under `error`, the
wording under `message`. What succeeded without a value is the text `ok`.
-/

namespace SealedBuild

/-- The fields of a failure. -/
def Failure.fields (failure : Failure) : List (String × Json) :=
  [("error", .text failure.kind), ("message", .text failure.message)]

def Failure.toJson (failure : Failure) : Json :=
  .object failure.fields

/-- The failure of a kind. -/
def Failure.ofKind? (kind detail : String) : Option Failure :=
  match kind with
  | "provisioning" => some (.provisioning detail)
  | "compilation" => some (.compilation detail)
  | "artifact-handoff" => some (.artifactHandoff detail)
  | "invariant-violation" => some (.invariantViolation detail)
  | "not-found" => some (.notFound detail)
  | "invalid-input" => some (.invalidInput detail)
  | "internal" => some (.internal detail)
  | "io" => some (.io (.reported detail))
  | _ => none

/-- Reads a failure that is given by its kind and its detail. -/
def Failure.read (json : Json) : Json.Reading Failure := do
  let kind ← json.need "kind" Json.Decoder.text
  let detail ← json.fieldOr "message" "" Json.Decoder.text
  match ofKind? kind detail with
  | some failure => pure failure
  | none => throw "kind"

/-- The failure in a field, if it is there. -/
def Failure.readAt (json : Json) (name : String) : Json.Reading (Option Failure) :=
  match json.present? name with
  | none => .ok none
  | some failure => (Failure.read failure).map some

/-- A value, unless a field holds a failure to be met in its place. -/
def Failure.readOr (json : Json) (name : String) (value : α) :
    Json.Reading (Except Failure α) :=
  (Failure.readAt json name).map fun
    | none => .ok value
    | some failure => .error failure

/-- A result: the form of its value, or that of its failure. -/
def Json.ofResult (encode : α → Json) : Except Failure α → Json
  | .ok value => encode value
  | .error failure => failure.toJson

/-- A result without a value. -/
def Json.ofUnit (result : Except Failure Unit) : Json :=
  Json.ofResult (fun () => .text "ok") result

/-- The name of a fault in reports, and what is reported besides its wording. -/
def PipelineFileFault.report : PipelineFileFault → String × List (String × Json)
  | noDocument => ("parse", [])
  | missing _ => ("missing-field", [])
  | invalidValue field _ => ("invalid-value", [("field", .text field)])
  | duplicate _ => ("duplicate", [])
  | invalid fault => ("invalid", [("cause", .text fault.toFailure.kind)])
  | unreadable _ => ("io", [])

def PipelineFileFault.toJson (fault : PipelineFileFault) : Json :=
  let (kind, details) := fault.report
  .object ([("error", .text kind), ("message", .text fault.message)] ++ details)

end SealedBuild
