import SealedBuild.CommandLine.Complaint
import SealedBuild.CommandLine.Invocation
import SealedBuild.Engine
import SealedBuild.Inspection.HeaderListing

/-!
# Hosts

What a command finds on the host apart from files and clock: the environment, the programs
it may call, and the container engine. From these come the variables of a pipeline file. The
variables of continuous-integration services are asked for the commit first; a checkout is
asked only if they do not tell its hash.
-/

namespace SealedBuild.CommandLine

/-- What a command finds on the host. -/
structure Host (σ : Type) where
  env : VarMap
  /-- The identifier that the next run gets. -/
  runId : RunId
  /-- What git writes in a directory for some arguments, if it succeeds. -/
  git : String → List String → Option (List UInt8)
  /-- How a program that lists headers ends for some arguments. -/
  lister : String → List String → Except FileFault HeaderListing.ProgramOutput
  engine : Except Failure (Engine σ)

namespace Host

variable {σ : Type}

/-- Where the engine of an environment listens: at the socket that its `DOCKER_HOST` names,
else at the usual one. Addresses of other kinds are not looked at. -/
def socketPath (env : VarMap) : String :=
  let scheme := "unix://".toList
  match env.get? "DOCKER_HOST" with
  | some address =>
    if scheme.isPrefixOf address.toList then
      String.ofList (Text.afterEach scheme address.toList)
    else "/var/run/docker.sock"
  | none => "/var/run/docker.sock"

/-- The failure to reach an engine where there is none. -/
def missingEngine (env : VarMap) : Failure :=
  .internal ("Socket not found: " ++ socketPath env)

/-- The directory for files that need not stay. -/
def temporaryDirectory (host : Host σ) : String :=
  (host.env.get? "TMPDIR").getD "/tmp"

/-- What a listing program says of the executable at a path. -/
def inspection (host : Host σ) (program path : String) : Except Failure Inspection :=
  HeaderListing.ofOutput program path (host.lister program (HeaderListing.arguments path))

/-- Inspects executables with a listing program. -/
def inspector (host : Host σ) (program : String) : Inspector σ where
  inspect := fun path => pure (host.inspection program path)

/-- What is known about the commit in a directory. -/
def commit (host : Host σ) (files : FileTree) (directory : String) : Commit :=
  let told := Commit.ofEnvironment host.env
  if told.sha.isSome then told
  else if files.isDirectory directory then told.orElse (Commit.ofCheckout (host.git directory))
  else told

/-- One variable given as a name and a value around an equals sign. Blanks around the name
do not count, those of the value do. -/
def addVariable (custom : VarMap) (written : String) : Except Complaint VarMap :=
  match Text.cutFirst '=' written.toList with
  | some (name, value) =>
    .ok (custom.insert (Text.trimmed (String.ofList name)) (String.ofList value))
  | none => .error { message := "Invalid --var '" ++ written ++ "', expected KEY=VALUE" }

/-- The variables for a pipeline file. -/
def vars (host : Host σ) (files : FileTree) (today : String) (file : FileChoice) :
    Except Complaint Variables := do
  let custom ← file.settings.foldlM addVariable .empty
  pure {
    commit := host.commit files (HostPath.directoryOf file.path)
    env := host.env
    custom
    today }

/-- The definition in a pipeline file. -/
def definition (host : Host σ) (files : FileTree) (today : String) (file : FileChoice) :
    Except Complaint PipelineDefinition := do
  let vars ← host.vars files today file
  (PipelineFile.load files file.path vars).mapError (Complaint.ofPipelineFile file.path)

end Host

end SealedBuild.CommandLine
