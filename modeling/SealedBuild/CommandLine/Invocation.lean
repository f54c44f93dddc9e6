import SealedBuild.CommandLine.Arguments

/-!
# Invocations

What a command line asks for: one of four commands with all that it needs to know. Variables
of the host stand in for options that are not given, and are held to the same forms, for the
options before the command as for those behind it.
-/

namespace SealedBuild.CommandLine

/-- The form of messages about progress. -/
inductive LogFormat where
  | text
  | json
  deriving DecidableEq, Inhabited

/-- The form of a name. -/
def LogFormat.ofName? : String → Option LogFormat
  | "text" => some .text
  | "json" => some .json
  | _ => none

/-- The pipeline file that a command is about. -/
structure FileChoice where
  path : String := "isobuild.kdl"
  /-- The variables given for it, as they are written. -/
  settings : List String := []
  deriving DecidableEq, Inhabited

/-- How a pipeline is to be built. -/
structure BuildOptions where
  /-- A directory to stage in and to keep the artifact in. -/
  staging : Option String := none
  /-- A tag in place of the declared one. -/
  tag : Option String := none
  /-- The outcome is written as JSON. -/
  json : Bool := false
  deriving DecidableEq, Inhabited

/-- A command with its arguments. -/
inductive Command where
  /-- Check a pipeline file and sum it up. -/
  | validate (file : FileChoice)
  /-- Write the containerfile of a pipeline. -/
  | render (file : FileChoice)
  /-- Run a pipeline. -/
  | build (file : FileChoice) (options : BuildOptions)
  /-- Report on an executable. -/
  | inspect (binary crypto lister : String)
  deriving DecidableEq, Inhabited

/-- What a command line asks for. -/
structure Invocation where
  logFormat : LogFormat
  command : Command
  deriving DecidableEq, Inhabited

namespace Invocation

/-- The names of log formats. -/
def isLogFormat (name : String) : Bool :=
  (LogFormat.ofName? name).isSome

/-- The options that may stand anywhere. -/
def commonOptions : List (String × OptionKind) :=
  [("log-format", .single isLogFormat), ("help", .help)]

/-- What stands before the command. -/
def outerGrammar : Grammar :=
  ⟨commonOptions, 0⟩

/-- What every command about a pipeline file takes. -/
def fileGrammar : Grammar :=
  ⟨("var", .repeatable) :: commonOptions, 1⟩

def buildGrammar : Grammar :=
  ⟨[("staging", .single isPath), ("tag", .single anyText), ("json", .switch)] ++
      fileGrammar.options, 1⟩

def inspectGrammar : Grammar :=
  ⟨[("crypto", .single anyText), ("readelf", .single anyText)] ++ commonOptions, 1⟩

/-- The log format that one part of a command line settles on. -/
def logFormatOf (env : VarMap) (arguments : Arguments) : Except Stop LogFormat := do
  let name ← arguments.valueOr env "log-format" "ISOBUILD_LOG_FORMAT" isLogFormat
  pure ((name.bind LogFormat.ofName?).getD .text)

/-- All words of a command as arguments. -/
def argumentsOf (grammar : Grammar) (words : List String) : Except Stop Arguments := do
  match ← Arguments.sort grammar {} none words with
  | (arguments, []) => pure arguments
  | (_, word :: _) => throw (.fault (.unwantedWord word))

/-- The pipeline file that arguments choose. -/
def fileChoice (arguments : Arguments) : FileChoice :=
  { path := arguments.paths.head?.getD "isobuild.kdl", settings := arguments.values "var" }

def buildCommand (env : VarMap) (arguments : Arguments) : Except Stop Command := do
  let staging ← arguments.valueOr env "staging" "ISOBUILD_STAGING_DIR" isPath
  pure (.build (fileChoice arguments)
    { staging, tag := arguments.value? "tag", json := arguments.has "json" })

def inspectCommand (env : VarMap) (arguments : Arguments) : Except Stop Command := do
  let lister ← arguments.valueOr env "readelf" "ISOBUILD_READELF" anyText
  match arguments.paths with
  | [] => throw (.fault .noBinary)
  | binary :: _ =>
    pure (.inspect binary ((arguments.value? "crypto").getD "openssl")
      (lister.getD "readelf"))

/-- The grammar of a command, and what its arguments ask for. -/
def commandOf? (env : VarMap) :
    String → Option (Grammar × (Arguments → Except Stop Command))
  | "validate" => some (fileGrammar, fun arguments => .ok (.validate (fileChoice arguments)))
  | "render" => some (fileGrammar, fun arguments => .ok (.render (fileChoice arguments)))
  | "build" => some (buildGrammar, buildCommand env)
  | "inspect" => some (inspectGrammar, inspectCommand env)
  | _ => none

/-- The names that can be asked about. -/
def topics : List String :=
  ["validate", "render", "build", "inspect", "help"]

/-- What asking for help about some words comes to. -/
def helpAbout : List String → Stop
  | [] => .help
  | [topic] => if topics.contains topic then .help else .fault (.unknownCommand topic)
  | topic :: word :: _ =>
    .fault (.unknownCommand (if topics.contains topic then word else topic))

/-- What a command line asks for. -/
def ofWords (env : VarMap) (words : List String) : Except Stop Invocation := do
  let (outer, rest) ← Arguments.sort outerGrammar {} none words
  match rest with
  | [] => throw (.fault .noCommand)
  | "help" :: rest => throw (helpAbout rest)
  | name :: rest =>
    match commandOf? env name with
    | none => throw (.fault (.unknownCommand name))
    | some (grammar, settle) =>
      let arguments ← argumentsOf grammar rest
      let innerFormat ← logFormatOf env arguments
      let command ← settle arguments
      let outerFormat ← logFormatOf env outer
      let logFormat := if arguments.has "log-format" then innerFormat else outerFormat
      pure { logFormat, command }

end Invocation

end SealedBuild.CommandLine
