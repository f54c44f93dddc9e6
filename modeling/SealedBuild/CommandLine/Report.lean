import SealedBuild.Orchestrator
import SealedBuild.Text.Escaped

/-!
# Reports

What commands write for a reader: the summary of a definition, the findings on an
executable, and the course and the outcome of a run.
-/

namespace SealedBuild.CommandLine.Report

/-- A truth value in words. -/
def truth (value : Bool) : String :=
  if value then "true" else "false"

/-- Lines, each with its end. -/
def lines (texts : List String) : String :=
  String.join (texts.map fun text => text ++ "\n")

/-! ## Definitions -/

/-- The packages of an environment in one line. -/
def packages (environment : BuildEnvironment) : String :=
  if environment.packages.names.isEmpty then "(none)"
  else String.intercalate " " environment.packages.names

/-- The summary of a definition that passed its check. -/
def definition (d : PipelineDefinition) : String :=
  let environment := d.builder.environment
  let linkage := if environment.flags.staticCrypto then "static" else "dynamic"
  lines [
    "Configuration is valid",
    "  pipeline:    " ++ d.name,
    "  toolchain:   " ++ environment.toolchain.imageRef,
    "  packages:    " ++ packages environment ++ " (" ++ environment.packageManager.name ++ ")",
    "  crypto:      " ++ environment.crypto.library ++ " (" ++ linkage ++ ")",
    "  strip:       " ++ truth environment.flags.strip,
    "  artifact:    " ++ d.builder.artifactPath ++ " -> " ++ d.runtime.destination,
    "  base image:  " ++ d.runtime.baseImage,
    "  fingerprint: " ++ d.fingerprint]

/-! ## Executables -/

/-- How a library is linked, in words. -/
def linkage : Linkage → String
  | .static => "static"
  | .dynamic libraries => "dynamic (" ++ String.intercalate ", " libraries ++ ")"

/-- The findings on the executable at a path. -/
def inspection (path : String) (crypto : CryptoLinkage) (found : Inspection) : String :=
  lines [
    path,
    "  architecture: " ++ found.architecture.name,
    "  interpreter:  " ++ found.interpreter.getD "(none)",
    "  needed:       " ++ String.intercalate ", " found.needed,
    "  " ++ crypto.library ++ ":      " ++ linkage (found.linkage crypto),
    "  stripped:     " ++ truth found.isStripped]

/-- The line that closes the findings when nothing speaks against the executable. -/
def ready : String :=
  lines ["✓ Ready for a runtime image"]

/-! ## Runs -/

/-- What is written before a run. -/
def opening (d : PipelineDefinition) (staging : String) : String :=
  lines [
    "Building pipeline: " ++ d.name,
    "Fingerprint: " ++ d.fingerprint,
    "Staging: " ++ staging,
    "",
    "--- Starting pipeline execution ---",
    ""]

/-- The mark of a stream before its lines. -/
def streamMark : LogStream → String
  | .stdout => " "
  | .stderr => "!"
  | .system => "*"

/-- One event of a run. -/
def event : Event → String
  | .stageStarted stage => lines ["▶ Stage '" ++ stage.name ++ "' started"]
  | .stageLog stage line =>
    lines ["  [" ++ stage.name ++ "]" ++ streamMark line.stream ++ " " ++ line.content]
  | .stageCompleted stage true _ =>
    lines ["✓ Stage '" ++ stage.name ++ "' completed successfully", ""]
  | .stageCompleted stage false message =>
    lines ["✗ Stage '" ++ stage.name ++ "' failed: " ++ message.getD "", ""]
  | .artifactProduced artifact =>
    lines ["  artifact " ++ artifact.name ++ " (" ++ toString artifact.size ++ " bytes, " ++
      artifact.architecture.name ++ ", sha256 " ++ artifact.checksum ++ ")"]
  | .runCompleted .packaged => lines ["--- Pipeline completed successfully ---"]
  | .runCompleted _ => lines ["--- Pipeline failed ---"]

/-- How a stage of a run ended, in words. -/
def stageStatus (run : RunRecord) (stage : Stage) : String :=
  match run.stages.find? fun result => result.stage = stage with
  | none => "⊘ not run"
  | some result =>
    if result.succeeded then "✓ succeeded" else "✗ failed: " ++ result.message.getD ""

/-- What a run left behind: its image, or why there is none. -/
def product (outcome : RunOutcome) : List String :=
  match outcome.image, outcome.run.state with
  | some image, _ =>
    ["", "✓ Image " ++ image.tag ++ " (" ++ image.id ++ ")",
      "  entry command: " ++ Text.escapedList image.entryCommand]
  | none, .failed _ kind _ => ["", "✗ No image produced (" ++ kind ++ ")"]
  | none, _ => []

/-- What is written after a run. -/
def summary (outcome : RunOutcome) : String :=
  lines <|
    ["", "--- Stage Summary ---"] ++
      [Stage.builder, Stage.runtime].map (fun stage =>
        "  " ++ stage.name ++ " - " ++ stageStatus outcome.run stage) ++
      product outcome

/-- A whole run: its events and its summary. -/
def run (d : PipelineDefinition) (staging : String) (events : List Event)
    (outcome : RunOutcome) : String :=
  opening d staging ++ String.join (events.map event) ++ summary outcome

end SealedBuild.CommandLine.Report
