import SealedBuild.Proofs.Image.Layout
import SealedBuild.Proofs.Image.Rendering
import SealedBuild.Proofs.Text.QuotedReader

/-!
# Values read back from containerfiles

Every quoted value of a containerfile reads back as what was written: the values of labels, the
arguments of the command, and the variables of the compiler. Nothing is asked of the values, which
may hold quotes, backslashes and line feeds. Only the names of variables stand there without
quotes, and such a name is read back if it holds no equals sign.
-/

namespace SealedBuild

namespace AssemblyRequest

/-- Reads the values of some labels, of which the names are known, one behind another. -/
def readLabels : List String → List Char → Option (List String × List Char)
  | [], text => some ([], text)
  | name :: names, text => do
    let rest ← Text.after? ("LABEL " ++ name ++ "=").toList text
    let (value, rest) ← Text.readQuoted rest
    let rest ← Text.after? ['\n'] rest
    let (values, rest) ← readLabels names rest
    some (value :: values, rest)

/-- The instructions behind the labels. -/
def stepsText (request : AssemblyRequest) : String :=
  "COPY " ++ artifactEntryName ++ " " ++ request.spec.destination ++ "\n" ++
    "CMD " ++ Text.execForm request.spec.entryCommand ++ "\n"

theorem readLabels_rows (bindings : List (String × String)) (rest : List Char) :
    readLabels (bindings.map Prod.fst)
      ((bindings.map fun binding => (labelRow binding).toList).flatMap (· ++ ['\n']) ++ rest) =
      some (bindings.map Prod.snd, rest) := by
  induction bindings with
  | nil => rfl
  | cons binding bindings ih =>
      rw [List.map_cons, List.map_cons, List.flatMap_cons, labelRow, String.toList_append,
        List.append_assoc, List.append_assoc, List.append_assoc, readLabels, Text.after?_append]
      simp only [Option.bind_eq_bind, Option.bind_some, Text.readQuoted_quoted, Text.after?_append,
        ih, List.map_cons]

theorem readLabels_containerfile (request : AssemblyRequest) :
    (Text.after? ("FROM " ++ request.spec.baseImage ++ "\n").toList
        request.containerfile.toList).bind (readLabels request.labels.names) =
      some (request.labels.entries.map Prod.snd, request.stepsText.toList) := by
  have htext : request.containerfile.toList =
      ("FROM " ++ request.spec.baseImage ++ "\n").toList ++
        ((request.labels.entries.map fun binding => (labelRow binding).toList).flatMap
          (· ++ ['\n']) ++ request.stepsText.toList) := by
    delta containerfile
    simp [stepsText, labelRow, String.toList_join, List.flatMap_map]
  rw [htext, Text.after?_append, Option.bind_some, VarMap.names, readLabels_rows]

end AssemblyRequest

namespace Containerfile

/-- Reads an instruction that sets variables, up to the line feed that ends it. -/
def readEnv (text : List Char) : Option (List (String × String) × List Char) :=
  (Text.after? "ENV ".toList text).bind
    (Text.readSeparated Text.readAssignment " \\\n    ".toList "\n".toList)

/-- The text before the variables. -/
def headText (definition : PipelineDefinition) : String :=
  "# " ++ definition.name ++ "\n" ++
    "# fingerprint: " ++ definition.fingerprint ++ "\n\n" ++
    "FROM " ++ definition.builder.environment.toolchain.imageRef ++ " AS " ++ builderStage ++ "\n"

/-- The text behind the variables. -/
def stepsText (definition : PipelineDefinition) : String :=
  (definition.builder.environment.installScript.map runInstruction).getD "" ++
    (definition.builder.source.map sourceInstructions).getD "" ++
    String.join (definition.builder.commands.map runInstruction) ++
    "\n" ++
    "FROM " ++ definition.runtime.baseImage ++ "\n" ++
    "COPY --from=" ++ builderStage ++ " " ++ definition.builder.artifactPath ++ " " ++
    definition.runtime.destination ++ "\n" ++
    "CMD " ++ Text.execForm definition.runtime.entryCommand ++ "\n"

theorem render_eq (definition : PipelineDefinition) :
    render definition = headText definition ++
      (envInstruction definition.builder.environment.compilerEnv ++ stepsText definition) := by
  delta render headText stepsText
  simp only [String.append_assoc]

theorem readEnv_envInstruction {env : VarMap} (hne : env.entries ≠ [])
    (hnames : ∀ name ∈ env.names, '=' ∉ name.toList) (rest : List Char) :
    readEnv ((envInstruction env).toList ++ rest) = some (env.entries, rest) := by
  have htext : (envInstruction env).toList ++ rest =
      "ENV ".toList ++ (" \\\n    ".toList.intercalate
        (env.entries.map fun binding => (assignment binding).toList) ++
          ("\n".toList ++ rest)) := by
    rw [envInstruction, if_neg (by simpa using hne)]
    simp [assignment, String.toList_intercalate, Function.comp_def]
  have hend (text : List Char) : Text.after? "\n".toList (" \\\n    ".toList ++ text) = none := rfl
  have hread := Text.readSeparated_intercalate (show " \\\n    ".toList ≠ [] by decide) hend hne
    (fun binding hbinding => Text.readAssignment_append
      (hnames binding.1 (VarMap.mem_names_of_mem hbinding))) rest
  rw [htext, readEnv, Text.after?_append, Option.bind_some]
  exact hread

/-- A quoted value is the text with backslashes before its backslashes and then before its quotes.
Quoted values read back, by themselves and in all the forms that containerfiles have them in: the
reader gives the values back and stops where the form ends. -/
theorem quoted_values_read_back :
    (∀ text : String, (Text.quoted text).toList =
      '"' :: Text.Quoted.replaceEach '"' ['\\', '"']
        (Text.Quoted.replaceEach '\\' ['\\', '\\'] text.toList) ++ ['"']) ∧
    (∀ (text : String) (rest : List Char),
      Text.Quoted.read? ((Text.quoted text).toList ++ rest) = some (text.toList, rest)) ∧
    (∀ (args : List String) (rest : List Char),
      Text.readExecForm ((Text.execForm args).toList ++ rest) = some (args, rest)) ∧
    (∀ request : AssemblyRequest,
      (Text.after? ("FROM " ++ request.spec.baseImage ++ "\n").toList
          request.containerfile.toList).bind (AssemblyRequest.readLabels request.labels.names) =
        some (request.labels.entries.map Prod.snd, request.stepsText.toList)) ∧
    ∀ definition : PipelineDefinition,
      (∀ name ∈ definition.builder.environment.compilerEnv.names, '=' ∉ name.toList) →
      (Text.after? (headText definition).toList (render definition).toList).bind readEnv =
        some (definition.builder.environment.compilerEnv.entries,
          (stepsText definition).toList) := by
  refine ⟨fun text => ?_, Text.Quoted.read?_quoted, Text.readExecForm_execForm,
    AssemblyRequest.readLabels_containerfile, fun definition hnames => ?_⟩
  · rw [Text.quoted, String.toList_ofList, Text.Quoted.encode_eq_replaceEach]
  · rw [render_eq, String.toList_append, Text.after?_append, Option.bind_some,
      String.toList_append]
    exact readEnv_envInstruction (compilerEnv_ne_nil _) hnames _

/-- The sample pipeline with a variable whose value has quotes, backslashes and a line feed. -/
def quotingSample : PipelineDefinition :=
  { PipelineDefinition.sample with
    builder := {
      PipelineDefinition.sample.builder with
      environment := PipelineDefinition.sample.builder.environment.withEnv "NOTE" "\\\"\n \\" } }

theorem quotingSample_reads_back :
    (∀ name ∈ quotingSample.builder.environment.compilerEnv.names, '=' ∉ name.toList) ∧
      ("NOTE", "\\\"\n \\") ∈ quotingSample.builder.environment.compilerEnv.entries ∧
      (Text.after? (headText quotingSample).toList (render quotingSample).toList).bind readEnv =
        some (quotingSample.builder.environment.compilerEnv.entries,
          (stepsText quotingSample).toList) := by
  have hnames : ∀ name ∈ quotingSample.builder.environment.compilerEnv.names,
      '=' ∉ name.toList := by
    decide +kernel
  exact ⟨hnames, by decide +kernel, quoted_values_read_back.2.2.2.2 quotingSample hnames⟩

end Containerfile

end SealedBuild
