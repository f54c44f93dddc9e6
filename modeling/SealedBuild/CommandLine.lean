import SealedBuild.CommandLine.Host
import SealedBuild.CommandLine.Report
import SealedBuild.Containerfile
import SealedBuild.Engine.Containers
import SealedBuild.Engine.Images
import SealedBuild.Exchange.Run

/-!
# The command line

The four commands, carried out on a host. A command writes its answer and ends well or with
a complaint, which is told apart from the answer. Words that ask for nothing that can be
done end with an exit code of their own.
-/

namespace SealedBuild.CommandLine

/-- What a command wrote, and why it failed if it did. -/
structure Answer where
  written : String := ""
  complaint : Option Complaint := none
  deriving DecidableEq, Inhabited

/-- A command that failed before it wrote anything. -/
def Answer.failed (complaint : Complaint) : Answer :=
  { complaint := some complaint }

/-- What a command that read a pipeline file wrote, or that the file gives no definition. -/
def Answer.ofDefinition (write : PipelineDefinition → String) :
    Except Complaint PipelineDefinition → Answer
  | .ok definition => { written := write definition }
  | .error complaint => .failed complaint

/-- How the program ended. -/
structure Ending where
  exitCode : Nat
  stdout : String
  stderr : String
  deriving DecidableEq, Inhabited

/-- The ending of a command. -/
def Answer.ending (answer : Answer) : Ending :=
  match answer.complaint with
  | none => ⟨0, answer.written, ""⟩
  | some complaint => ⟨1, answer.written, complaint.text⟩

/-- How the program is used. -/
def usage : String :=
  "Usage: isobuild [--log-format text|json] COMMAND\n\n" ++
    "Commands:\n" ++
    "  validate [--var KEY=VALUE]... [PATH]\n" ++
    "  render   [--var KEY=VALUE]... [PATH]\n" ++
    "  build    [--var KEY=VALUE]... [--staging DIR] [--tag TAG] [--json] [PATH]\n" ++
    "  inspect  [--crypto LIBRARY] [--readelf PROGRAM] BINARY\n"

/-- The ending of a command line that is not carried out. -/
def Stop.ending : Stop → Ending
  | .help => ⟨0, usage, ""⟩
  | .fault reason => ⟨2, "", "error: " ++ reason.message ++ "\n\n" ++ usage⟩

variable {σ : Type}

/-- The program that inspects the artifacts of runs. -/
def usualLister : String := "readelf"

/-- The directory in which runs stage unless one is chosen. -/
def usualStaging (host : Host σ) : String :=
  HostPath.join host.temporaryDirectory "isobuild"

/-- Reports on an executable. The findings are written also when they speak against it. -/
def inspect (host : Host σ) (binary library lister : String) : Answer :=
  match host.inspection lister binary with
  | .error failure => .failed (.ofFailure ("Failed to inspect " ++ binary) failure)
  | .ok found =>
    let crypto := CryptoLinkage.ofLibrary library
    let findings := Report.inspection binary crypto found
    match found.verify {} crypto with
    | .ok () => { written := findings ++ Report.ready }
    | .error failure => { written := findings, complaint := some { message := failure.message } }

/-- The orchestrator of runs on an engine. An artifact stays only in a staging directory
that was chosen. -/
def orchestrator (host : Host σ) (engine : Engine σ) (options : BuildOptions) :
    Orchestrator σ where
  producer := BuilderStage.producer {
    executor := engine.executor
    inspector := host.inspector usualLister
    stagingDir := options.staging.getD (usualStaging host)
    retain := options.staging.isSome }
  runtime := { assembler := engine.assembler, tag := options.tag }

/-- Runs a pipeline on an engine. -/
def buildOn (host : Host σ) (engine : Engine σ) (definition : PipelineDefinition)
    (options : BuildOptions) : Act σ Answer := do
  let (events, outcome) ← (orchestrator host engine options).execute host.runId definition
  let staging := options.staging.getD (usualStaging host)
  pure {
    written :=
      if options.json then outcome.toJson.pretty "" ++ "\n"
      else Report.run definition staging events outcome
    complaint := if outcome.success then none else some { message := "Pipeline failed" } }

/-- Runs the pipeline that a file defines. -/
def build (host : Host σ) (definition : Except Complaint PipelineDefinition)
    (options : BuildOptions) : Act σ Answer :=
  match definition, host.engine with
  | .error complaint, _ => pure (.failed complaint)
  | .ok _, .error failure => pure (.failed (.ofFailure "Failed to connect to Docker" failure))
  | .ok definition, .ok engine => buildOn host engine definition options

/-- Carries out a command on the files of a day. -/
def carryOut (host : Host σ) (files : FileTree) (today : String) : Command → Act σ Answer
  | .validate file =>
    pure (.ofDefinition Report.definition (host.definition files today file))
  | .render file =>
    pure (.ofDefinition Containerfile.render (host.definition files today file))
  | .build file options => build host (host.definition files today file) options
  | .inspect binary crypto lister => pure (inspect host binary crypto lister)

/-- The whole program: what the words ask for is carried out, and how it ended. -/
def run (host : Host σ) (words : List String) : Act σ Ending := do
  match Invocation.ofWords host.env words with
  | .error stop => pure stop.ending
  | .ok invocation =>
    let today := (← Act.now).dateText
    let answer ← carryOut host (← Act.files) today invocation.command
    pure answer.ending

end SealedBuild.CommandLine
