import SealedBuild.Pipeline
import SealedBuild.Text.Quoted

/-!
# Two-stage containerfiles

A pipeline as the text of a containerfile that builds the same image without this program:
a first stage with the toolchain, the packages and the compiler's variables, and a second
stage that copies the artifact alone. Equal definitions give equal texts.
-/

namespace SealedBuild.Containerfile

/-- The name of the first stage. -/
def builderStage : String := "builder"

/-- The variables of an environment as one instruction over several lines. -/
def envInstruction (env : VarMap) : String :=
  if env.entries.isEmpty then ""
  else
    "ENV " ++
      String.intercalate " \\\n    "
        (env.entries.map fun (name, value) => name ++ "=" ++ Text.quoted value) ++
      "\n"

/-- One instruction that runs a shell command. -/
def runInstruction (command : String) : String :=
  "RUN " ++ command ++ "\n"

/-- The instructions that bring the source tree in. -/
def sourceInstructions (source : SourceMount) : String :=
  "COPY . " ++ source.mountPath ++ "\n" ++ "WORKDIR " ++ source.mountPath ++ "\n"

/-- The containerfile of a pipeline. -/
def render (definition : PipelineDefinition) : String :=
  let builder := definition.builder
  let environment := builder.environment
  let runtime := definition.runtime
  "# " ++ definition.name ++ "\n" ++
    "# fingerprint: " ++ definition.fingerprint ++ "\n\n" ++
    "FROM " ++ environment.toolchain.imageRef ++ " AS " ++ builderStage ++ "\n" ++
    envInstruction environment.compilerEnv ++
    (environment.installScript.map runInstruction).getD "" ++
    (builder.source.map sourceInstructions).getD "" ++
    String.join (builder.commands.map runInstruction) ++
    "\n" ++
    "FROM " ++ runtime.baseImage ++ "\n" ++
    "COPY --from=" ++ builderStage ++ " " ++ builder.artifactPath ++ " " ++
    runtime.destination ++ "\n" ++
    "CMD " ++ Text.execForm runtime.entryCommand ++ "\n"

end SealedBuild.Containerfile
