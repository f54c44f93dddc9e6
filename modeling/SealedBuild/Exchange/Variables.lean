import SealedBuild.Json.Fields
import SealedBuild.Variables

/-!
# Variables in JSON

The JSON form of commits, and the reading of all that references can stand for.
-/

namespace SealedBuild

/-- A commit with what is shown of it. -/
def Commit.toJson (commit : Commit) : Json :=
  .object [
    ("sha", Json.textOrNull commit.sha),
    ("branch", Json.textOrNull commit.branch),
    ("tag", Json.textOrNull commit.tag),
    ("short_sha", Json.textOrNull commit.shortSha),
    ("ref_name", Json.textOrNull commit.refName)]

def Commit.read (json : Json) : Json.Reading Commit := do
  let sha ← json.maybe "sha" Json.Decoder.text
  let branch ← json.maybe "branch" Json.Decoder.text
  let tag ← json.maybe "tag" Json.Decoder.text
  pure { sha, branch, tag }

/-- Reads variables; whatever is missing is unknown. -/
def Variables.read (json : Json) (today : String) : Json.Reading Variables := do
  let commit ← Commit.read (← json.recordOr "git")
  let pipelineName ← json.fieldOr "pipeline_name" "" Json.Decoder.text
  let toolchain ← json.recordOr "toolchain"
  let image ← toolchain.fieldOr "image" "" Json.Decoder.text
  let version ← toolchain.fieldOr "version" "" Json.Decoder.text
  let env ← json.mapOr "env"
  let custom ← json.mapOr "custom"
  pure { commit, pipelineName, toolchain := ⟨image, version⟩, env, custom, today }

end SealedBuild
