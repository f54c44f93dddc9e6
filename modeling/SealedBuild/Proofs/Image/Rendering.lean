import SealedBuild.Containerfile
import SealedBuild.Job
import SealedBuild.Proofs.Artifact.Handoff
import SealedBuild.Proofs.Environment.Received
import SealedBuild.Proofs.Image.Instructions
import SealedBuild.Proofs.Text.Rows

/-!
# Rendered containerfiles beside the job

A pipeline is rendered as a containerfile and run as a job. The two are meant to agree: the same
image, variables and commands, in the same order. The job's shell takes a command as it is, over
as many lines as it has, while the containerfile is read line by line. They agree exactly for the
pipelines whose texts hold nothing that ends, continues or hides a line.
-/

namespace SealedBuild.Containerfile

/-- A variable as a containerfile sets it. -/
def assignment (binding : String × String) : String :=
  binding.1 ++ "=" ++ Text.quoted binding.2

/-- The instructions behind the variables, up to the end of the first stage. -/
def buildSteps (definition : PipelineDefinition) (job : JobSpec) : List String :=
  definition.builder.environment.installScript.toList.map ("RUN " ++ ·) ++
    job.workingDir.toList.flatMap (fun path => ["COPY . " ++ path, "WORKDIR " ++ path]) ++
    definition.builder.commands.map ("RUN " ++ ·)

/-- The instructions of the second stage. -/
def runtimeSteps (definition : PipelineDefinition) : List String :=
  ["FROM " ++ definition.runtime.baseImage,
    "COPY --from=builder " ++ definition.builder.artifactPath ++ " " ++
      definition.runtime.destination,
    "CMD " ++ Text.execForm definition.runtime.entryCommand]

/-- The instructions that a containerfile for a job is meant to have. -/
def expected (definition : PipelineDefinition) (job : JobSpec) : List String :=
  ("FROM " ++ job.image ++ " AS builder") ::
    ("ENV " ++ String.intercalate "     " (job.env.entries.map assignment)) ::
    (buildSteps definition job ++ runtimeSteps definition)

/-- The script that installs the packages and runs the build commands, one after another. -/
def expectedScript (definition : PipelineDefinition) : String :=
  String.join (definition.builder.environment.installScript.toList.map fun install =>
      "echo '[isobuild] provisioning'\n" ++ Job.guarded install Job.provisioningExit) ++
    "echo '[isobuild] compiling'\n" ++
    String.join (definition.builder.commands.map fun command =>
      Job.guarded command Job.compilationExit) ++
    Job.artifactTest definition.builder.artifactPath

/-- The containerfile says what the job does: the commands that the job's script runs are those
of the containerfile, and there is no other instruction. -/
structure Agrees (definition : PipelineDefinition) (job : JobSpec) : Prop where
  command : job.command = ["/bin/sh", "-c", expectedScript definition]
  instructions : instructions (render definition) = expected definition job

/-- The end of a text takes nothing of the line end behind it. -/
def EndsPlain (text : List Char) : Prop :=
  text.getLast? ≠ some '\r' ∧ text.getLast? ≠ some '\\'

instance (text : List Char) : Decidable (EndsPlain text) :=
  inferInstanceAs (Decidable (_ ∧ _))

/-- A text that stays on its line, and leaves the next line to itself. -/
def Whole (text : String) : Prop :=
  '\n' ∉ text.toList ∧ EndsPlain text.toList

instance (text : String) : Decidable (Whole text) :=
  inferInstanceAs (Decidable (_ ∧ _))

/-- The texts of a pipeline hold nothing that ends, continues or hides a line. Only the first line
of the pipeline's name is sure to be a comment. -/
structure Tidy (definition : PipelineDefinition) : Prop where
  name : ∀ part ∈ (definition.name.toList.splitOn '\n').tail, Silent (Text.chopReturn part)
  image : '\n' ∉ definition.builder.environment.toolchain.imageRef.toList
  bindings : ∀ binding ∈ definition.builder.environment.compilerEnv.entries,
    '\n' ∉ binding.1.toList ∧ '\n' ∉ binding.2.toList
  shown : ∀ binding ∈ definition.builder.environment.compilerEnv.entries.tail,
    isSkipped (binding.1.toList ++ ['=']) = false
  install : ∀ install ∈ definition.builder.environment.installScript, Whole install
  source : ∀ source ∈ definition.builder.source, Whole source.mountPath
  commands : ∀ command ∈ definition.builder.commands, Whole command
  baseImage : Whole definition.runtime.baseImage
  artifactPath : '\n' ∉ definition.builder.artifactPath.toList
  destination : Whole definition.runtime.destination

/-! ## Variables on several lines -/

/-- The rows of an instruction that sets variables. -/
def envRows (lead : List Char) : List (List Char) → List Row
  | [] => []
  | [last] => [{ text := lead ++ last }]
  | first :: second :: rest =>
    { text := lead ++ first ++ [' '], continued := true } ::
      envRows "    ".toList (second :: rest)

theorem flatMap_line_envRows (lead first : List Char) (rest : List (List Char)) :
    (envRows lead (first :: rest)).flatMap (fun row => row.line ++ ['\n']) =
      lead ++ " \\\n    ".toList.intercalate (first :: rest) ++ ['\n'] := by
  induction rest generalizing lead first with
  | nil => simp [envRows, Row.line]
  | cons second rest ih =>
      rw [envRows, List.flatMap_cons, ih, List.intercalate_cons_cons]
      simp [Row.line]

theorem joinRows_envRows (lead first : List Char) (rest : List (List Char)) (pending : List Char)
    (rows : List Row) :
    joinRows pending (envRows lead (first :: rest) ++ rows) =
      (pending ++ lead ++ "     ".toList.intercalate (first :: rest)) :: joinRows [] rows := by
  induction rest generalizing lead first pending with
  | nil => simp [envRows, joinRows]
  | cons second rest ih =>
      rw [envRows, List.cons_append, joinRows, if_pos rfl, ih, List.intercalate_cons_cons]
      simp

theorem text_envRows_ne_nil {lead : List Char} (hlead : lead ≠ []) (values : List (List Char)) :
    ∀ row ∈ envRows lead values, row.text ≠ [] := by
  induction values generalizing lead with
  | nil => nofun
  | cons first rest ih =>
      cases rest with
      | nil => simp [envRows, hlead]
      | cons second rest =>
          rw [envRows, List.forall_mem_cons]
          exact ⟨by simp, ih (by decide)⟩

section Sound

variable {lead value : List Char}

theorem sound_last_iff (hquoted : value.getLast? = some '"') :
    Row.Sound { text := lead ++ value } ↔ isSkipped (lead ++ value) = false := by
  have hlast : (lead ++ value).getLast? = some '"' := by rw [List.getLast?_append, hquoted]; rfl
  refine ⟨Row.Sound.kept, fun hkept => ⟨hkept, ?_, fun _ => ?_⟩⟩
  · change (lead ++ value).getLast? ≠ _
    rw [hlast]
    decide
  · rw [hlast]
    decide

theorem sound_further_iff (hquoted : value.getLast? = some '"') :
    Row.Sound { text := lead ++ value ++ [' '], continued := true } ↔
      isSkipped (lead ++ value) = false := by
  have hline : Row.line { text := lead ++ value ++ [' '], continued := true } =
      lead ++ value ++ [' ', '\\'] := by simp [Row.line]
  have hshown : ∃ c ∈ lead ++ value, Text.isBlank c = false :=
    ⟨'"', List.mem_append_right _ (List.mem_of_getLast? hquoted), rfl⟩
  rw [← isSkipped_append hshown [' ', '\\'], ← hline]
  refine ⟨Row.Sound.kept, fun hkept => ⟨hkept, ?_, nofun⟩⟩
  rw [hline, List.getLast?_append]
  change some '\\' ≠ some '\r'
  decide

/-- Values that end in a quote are read as they are meant where none of them looks like a comment
on its line. -/
theorem sound_envRows_iff {rest : List (List Char)}
    (hquoted : ∀ other ∈ value :: rest, other.getLast? = some '"') :
    (∀ row ∈ envRows lead (value :: rest), row.Sound) ↔
      isSkipped (lead ++ value) = false ∧
        ∀ other ∈ rest, isSkipped ("    ".toList ++ other) = false := by
  induction rest generalizing lead value with
  | nil => simp [envRows, sound_last_iff (hquoted value List.mem_cons_self)]
  | cons second rest ih =>
      rw [List.forall_mem_cons] at hquoted
      rw [envRows, List.forall_mem_cons, sound_further_iff hquoted.1, ih hquoted.2,
        List.forall_mem_cons]

end Sound

/-! ## The text, row by row -/

/-- The rows behind the first one of the first stage, up to the end of the stage. -/
def buildRows (definition : PipelineDefinition) (job : JobSpec) : List Row :=
  envRows "ENV ".toList ((job.env.entries.map assignment).map String.toList) ++
    (buildSteps definition job).map Row.single

variable {workingDir : String} {id : RunId} {definition : PipelineDefinition} {job : JobSpec}

theorem script_eq (definition : PipelineDefinition) :
    Job.script definition.builder = expectedScript definition := by
  unfold Job.script expectedScript
  cases definition.builder.environment.installScript with
  | none => simp
  | some install => simp

/-- The build output always has its directory, so there is a variable. -/
theorem compilerEnv_ne_nil (e : BuildEnvironment) : e.compilerEnv.entries ≠ [] := by
  have hderived : ("CARGO_TARGET_DIR", BuildEnvironment.targetDir) ∈ e.derivedBindings := by
    simp [BuildEnvironment.derivedBindings]
  have hmem : ("CARGO_TARGET_DIR", BuildEnvironment.targetDir) ∈ e.compilerEnv.entries :=
    VarMap.mem_withDefaults.mpr (.inl (BuildEnvironment.mem_derivedEnv.mpr hderived))
  exact List.ne_nil_of_mem hmem

/-- The first lines, which are not meant to be read. -/
def headRows (definition : PipelineDefinition) : List (List Char) :=
  ["# ".toList ++ definition.name.toList, "# fingerprint: ".toList ++ definition.fingerprint.toList,
    []]

/-- What is written for a row. -/
def Row.ended (row : Row) : List Char :=
  row.line ++ ['\n']

theorem ended_single (text : String) : (Row.single text).ended = text.toList ++ ['\n'] := rfl

theorem envInstruction_toList {env : VarMap} (h : env.entries ≠ []) :
    (envInstruction env).toList =
      (envRows "ENV ".toList ((env.entries.map assignment).map String.toList)).flatMap Row.ended := by
  obtain ⟨first, rest, hentries⟩ := List.exists_cons_of_ne_nil h
  have hrows := flatMap_line_envRows "ENV ".toList (assignment first).toList
    ((rest.map assignment).map String.toList)
  have htext : envInstruction env =
      "ENV " ++ String.intercalate " \\\n    " ((first :: rest).map assignment) ++ "\n" := by
    rw [envInstruction, hentries, if_neg (by simp)]
    rfl
  rw [htext, hentries]
  refine Eq.trans ?_ hrows.symm
  rw [String.toList_append, String.toList_append, String.toList_intercalate]
  rfl

theorem toList_join_run (commands : List String) :
    (String.join (commands.map runInstruction)).toList =
      ((commands.map ("RUN " ++ ·)).map Row.single).flatMap Row.ended := by
  simp [String.toList_join, List.flatMap_map, runInstruction, ended_single]

theorem toList_run_install (install : Option String) :
    ((install.map runInstruction).getD "").toList =
      ((install.toList.map ("RUN " ++ ·)).map Row.single).flatMap Row.ended := by
  cases install <;> simp [runInstruction, ended_single]

theorem toList_sourceInstructions (source : Option SourceMount) :
    ((source.map sourceInstructions).getD "").toList =
      (((source.map SourceMount.mountPath).toList.flatMap fun path =>
        ["COPY . " ++ path, "WORKDIR " ++ path]).map Row.single).flatMap Row.ended := by
  cases source <;> simp [sourceInstructions, ended_single]

/-- All rows but the first one, which are meant to be read. -/
def bodyRows (definition : PipelineDefinition) (job : JobSpec) : List Row :=
  buildRows definition job ++ (runtimeSteps definition).map Row.single

/-- The row that begins the first stage. -/
def fromRow (job : JobSpec) : List Char :=
  ("FROM " ++ job.image ++ " AS builder").toList

theorem getLast?_fromRow (job : JobSpec) : (fromRow job).getLast? = some 'r' := by
  rw [fromRow, String.toList_append, List.getLast?_append]
  rfl

/-- The lines before the first stage. -/
def headLines (definition : PipelineDefinition) : List (List Char) :=
  ((headRows definition).flatMap (·.splitOn '\n')).map Text.chopReturn

theorem exists_bindings (h : Job.ofBuilder workingDir id definition.builder = .ok job) :
    ∃ first rest, job.env.entries = first :: rest := by
  rw [(BuildEnvironment.job_of_ofBuilder h).2.1]
  exact List.exists_cons_of_ne_nil (compilerEnv_ne_nil definition.builder.environment)

theorem expected_toList (h : Job.ofBuilder workingDir id definition.builder = .ok job) :
    (expected definition job).map String.toList =
      fromRow job :: joinRows [] (bodyRows definition job) := by
  obtain ⟨first, rest, hentries⟩ := exists_bindings h
  rw [bodyRows, buildRows, hentries, List.map_cons, List.map_cons, List.append_assoc,
    joinRows_envRows, ← List.map_append, joinRows_single, expected, hentries]
  simp [fromRow, String.toList_intercalate]

/-- All rows of the text, in two parts: the head and what is meant to be read. -/
theorem render_toList (h : Job.ofBuilder workingDir id definition.builder = .ok job) :
    (render definition).toList =
      (headRows definition ++ fromRow job :: ((buildRows definition job).map Row.line ++
        [] :: ((runtimeSteps definition).map Row.single).map Row.line)).flatMap (· ++ ['\n']) := by
  obtain ⟨himage, henv, hworkingDir, -⟩ := BuildEnvironment.job_of_ofBuilder h
  have hended (rows : List Row) :
      (rows.map Row.line).flatMap (· ++ ['\n']) = rows.flatMap Row.ended := by
    rw [List.flatMap_map]
    rfl
  have hbindings := envInstruction_toList
    (compilerEnv_ne_nil definition.builder.environment)
  rw [List.flatMap_append, List.flatMap_cons, List.flatMap_append, List.flatMap_cons, hended, hended,
    buildRows, buildSteps, fromRow, himage, henv, hworkingDir, List.flatMap_append, List.map_append,
    List.map_append, List.flatMap_append, List.flatMap_append, ← hbindings, ← toList_run_install,
    ← toList_sourceInstructions, ← toList_join_run]
  delta render headRows
  generalize definition.fingerprint = fingerprint
  simp [runtimeSteps, ended_single, builderStage]

theorem lines_render (h : Job.ofBuilder workingDir id definition.builder = .ok job) :
    Text.lines (render definition).toList =
      headLines definition ++ ((fromRow job :: ((buildRows definition job).map Row.line ++
        [] :: ((runtimeSteps definition).map Row.single).map Row.line)).flatMap
          (·.splitOn '\n')).map Text.chopReturn := by
  rw [render_toList h, Text.lines_rows_parts, List.flatMap_append, List.map_append]
  rfl

/-- Where no row holds a line feed, every row is a line. -/
theorem joinLines_render (h : Job.ofBuilder workingDir id definition.builder = .ok job)
    (hfrom : '\n' ∉ fromRow job) (hbody : ∀ row ∈ bodyRows definition job, '\n' ∉ row.text) :
    joinLines [] (Text.lines (render definition).toList) =
      joinLines [] (headLines definition ++ fromRow job ::
        (bodyRows definition job).map fun row => Text.chopReturn row.line) := by
  have hsplit {rows : List Row} (hrows : ∀ row ∈ rows, '\n' ∉ row.text) :
      ((rows.map Row.line).flatMap (·.splitOn '\n')).map Text.chopReturn =
        rows.map fun row => Text.chopReturn row.line := by
    induction rows with
    | nil => rfl
    | cons row rows ih =>
        rw [List.forall_mem_cons] at hrows
        have hline : '\n' ∉ row.line := by
          unfold Row.line
          split <;> simp [hrows.1]
        rw [List.map_cons, List.flatMap_cons, List.map_append, ih hrows.2,
          List.splitOn_eq_singleton hline]
        rfl
  have hreturn : Text.chopReturn (fromRow job) = fromRow job := by
    rw [Text.chopReturn_eq_self_iff, getLast?_fromRow]
    decide
  rw [bodyRows, List.forall_mem_append] at hbody
  rw [lines_render h, List.flatMap_cons, List.flatMap_append, List.flatMap_cons, List.map_append,
    List.map_append, List.map_append, hsplit hbody.1, hsplit hbody.2,
    List.splitOn_eq_singleton hfrom, List.splitOn_nil, List.map_singleton, hreturn,
    List.map_singleton, bodyRows, List.map_append]
  simp only [List.singleton_append, ← List.cons_append, ← List.append_assoc]
  exact joinLines_append_skipped _ _ rfl

/-- The line behind the first row of the stage begins as no other instruction does. -/
theorem exists_bodyRows_eq_cons (h : Job.ofBuilder workingDir id definition.builder = .ok job) :
    ∃ line lines, (bodyRows definition job).map (fun row => Text.chopReturn row.line) =
      ('E' :: 'N' :: line) :: lines := by
  obtain ⟨first, rest, hentries⟩ := exists_bindings h
  have hchop (line : List Char) :
      Text.chopReturn ('E' :: 'N' :: 'V' :: line) = 'E' :: 'N' :: Text.chopReturn ('V' :: line) := by
    rw [Text.chopReturn_cons (.inl (by decide)), Text.chopReturn_cons (.inl (by decide))]
  rw [bodyRows, buildRows, hentries, List.map_cons, List.map_cons]
  cases rest with
  | nil => exact ⟨_, _, congrArg (· :: _) (hchop _)⟩
  | cons second rest => exact ⟨_, _, congrArg (· :: _) (hchop _)⟩

theorem exists_cons_of_mem_steps {told : String}
    (h : told ∈ buildSteps definition job ++ runtimeSteps definition) :
    ∃ c rest, told.toList = c :: rest ∧ c ≠ 'E' := by
  simp only [buildSteps, runtimeSteps, List.mem_append, List.mem_map, List.mem_flatMap,
    List.mem_cons, List.not_mem_nil, or_false] at h
  rcases h with ((⟨_, _, rfl⟩ | ⟨_, _, rfl | rfl⟩) | ⟨_, _, rfl⟩) | rfl | rfl | rfl <;>
    simp only [String.toList_append, List.append_assoc] <;> exact ⟨_, _, rfl, by decide⟩

theorem kept_fromRow (job : JobSpec) :
    isSkipped (fromRow job) = false ∧ (fromRow job).getLast? ≠ some '\\' := by
  constructor
  · rw [fromRow, String.toList_append, String.toList_append, List.append_assoc]
    rfl
  · rw [getLast?_fromRow]
    decide

theorem text_bodyRows_ne_nil (definition : PipelineDefinition) (job : JobSpec) :
    ∀ row ∈ bodyRows definition job, row.text ≠ [] := by
  rw [bodyRows, buildRows, List.append_assoc, ← List.map_append, List.forall_mem_append,
    List.forall_mem_map]
  refine ⟨text_envRows_ne_nil (by decide) _, fun told htold => ?_⟩
  obtain ⟨c, rest, heq, -⟩ := exists_cons_of_mem_steps htold
  rw [Row.single, heq]
  exact List.cons_ne_nil c rest

/-- Nothing comes before two elements where the second of them is none behind the second of all. -/
theorem eq_nil_of_second_not_mem {α : Type} {early others rest : List α} {a b c d : α}
    (h : early ++ a :: b :: others = c :: d :: rest) (hnot : b ∉ rest) : early = [] := by
  cases early with
  | nil => rfl
  | cons first early =>
      have hbehind := (List.cons.inj h).2
      refine absurd ?_ hnot
      cases early with
      | nil =>
          rw [← (List.cons.inj hbehind).2]
          exact List.mem_cons_self
      | cons second early =>
          rw [← (List.cons.inj hbehind).2]
          exact List.mem_append_right _ (List.mem_cons_of_mem _ List.mem_cons_self)

/-- Where the text is read as it is meant, nothing is told before the first stage, and each of the
further rows is read as it is meant. -/
theorem joinLines_render_iff (h : Job.ofBuilder workingDir id definition.builder = .ok job)
    (hfrom : '\n' ∉ fromRow job) (hbody : ∀ row ∈ bodyRows definition job, '\n' ∉ row.text) :
    joinLines [] (Text.lines (render definition).toList) =
        fromRow job :: joinRows [] (bodyRows definition job) ↔
      (∀ line ∈ headLines definition, Silent line) ∧
        ∀ row ∈ bodyRows definition job, row.Sound := by
  have hne := text_bodyRows_ne_nil definition job
  have hkept := kept_fromRow job
  rw [joinLines_render h hfrom hbody]
  constructor
  · intro hsame
    obtain ⟨told, left, hjoin, hnone⟩ := exists_joinLines_append [] (headLines definition)
    rw [hjoin, joinLines_ended hkept.1 hkept.2] at hsame
    obtain ⟨line, lines, hlines⟩ := exists_bodyRows_eq_cons h
    have htells : ¬ Silent ('E' :: 'N' :: line) := not_or.mpr ⟨Bool.false_ne_true, nofun⟩
    obtain ⟨first, others, hfirst, hhead⟩ := exists_joinLines_cons_eq htells lines
    have hsteps : joinRows [] (bodyRows definition job) =
        _ :: (buildSteps definition job ++ runtimeSteps definition).map String.toList :=
      (List.cons.inj (expected_toList h)).2.symm
    have hnot : first ∉
        (buildSteps definition job ++ runtimeSteps definition).map String.toList := by
      intro hmem
      obtain ⟨step, hstep, rfl⟩ := List.mem_map.mp hmem
      obtain ⟨c, rest, heq, hc⟩ := exists_cons_of_mem_steps hstep
      rw [heq] at hhead
      exact hc (Option.some.inj hhead)
    rw [hsteps, hlines, hfirst] at hsame
    -- The variables are the second instruction, so only the first row comes before them.
    have htold : told = [] := eq_nil_of_second_not_mem hsame hnot
    rw [← hsteps, ← hfirst, ← hlines, htold, List.nil_append, List.cons.injEq,
      List.append_left_eq_self] at hsame
    exact ⟨(hnone htold hsame.1).2, (joinLines_rows_iff hne).mp hsame.2⟩
  · rintro ⟨hsilent, hsound⟩
    rw [joinLines_silent hsilent, joinLines_ended hkept.1 hkept.2, List.nil_append,
      (joinLines_rows_iff hne).mpr hsound]

/-! ## Which pipelines agree with their containerfile -/

/-- No instruction that is meant holds a line feed. -/
theorem newline_not_mem_expected_iff
    (h : Job.ofBuilder workingDir id definition.builder = .ok job) :
    (∀ told ∈ expected definition job, '\n' ∉ told.toList) ↔
      '\n' ∉ fromRow job ∧ ∀ row ∈ bodyRows definition job, '\n' ∉ row.text := by
  have hflatten := flatten_joinRows [] (bodyRows definition job)
  rw [List.nil_append] at hflatten
  calc (∀ told ∈ expected definition job, '\n' ∉ told.toList)
      ↔ ∀ told ∈ (expected definition job).map String.toList, '\n' ∉ told := by simp
    _ ↔ '\n' ∉ fromRow job ∧ ∀ told ∈ joinRows [] (bodyRows definition job), '\n' ∉ told := by
      rw [expected_toList h, List.forall_mem_cons]
    _ ↔ '\n' ∉ fromRow job ∧ '\n' ∉ (joinRows [] (bodyRows definition job)).flatten := by
      simp [List.mem_flatten]
    _ ↔ '\n' ∉ fromRow job ∧ ∀ row ∈ bodyRows definition job, '\n' ∉ row.text := by
      rw [hflatten]
      simp [List.mem_flatMap]

theorem newline_not_mem_assignment_iff {binding : String × String} :
    '\n' ∉ (assignment binding).toList ↔
      '\n' ∉ binding.1.toList ∧ '\n' ∉ binding.2.toList := by
  have hquoted := Text.mem_quoted (c := '\n') (by decide) (by decide) binding.2
  simp [assignment, hquoted]

/-- The texts whose line feeds would show. -/
theorem newline_free_iff (h : Job.ofBuilder workingDir id definition.builder = .ok job) :
    (∀ told ∈ expected definition job, '\n' ∉ told.toList) ↔
      '\n' ∉ definition.builder.environment.toolchain.imageRef.toList ∧
      (∀ binding ∈ definition.builder.environment.compilerEnv.entries,
        '\n' ∉ binding.1.toList ∧ '\n' ∉ binding.2.toList) ∧
      (∀ install ∈ definition.builder.environment.installScript, '\n' ∉ install.toList) ∧
      (∀ source ∈ definition.builder.source, '\n' ∉ source.mountPath.toList) ∧
      (∀ command ∈ definition.builder.commands, '\n' ∉ command.toList) ∧
      '\n' ∉ definition.runtime.baseImage.toList ∧
      '\n' ∉ definition.builder.artifactPath.toList ∧
      '\n' ∉ definition.runtime.destination.toList := by
  obtain ⟨himage, henv, hworkingDir, -⟩ := BuildEnvironment.job_of_ofBuilder h
  have hbindings : '\n' ∉ (String.intercalate "     "
      (definition.builder.environment.compilerEnv.entries.map assignment)).toList ↔
        ∀ binding ∈ definition.builder.environment.compilerEnv.entries,
          '\n' ∉ binding.1.toList ∧ '\n' ∉ binding.2.toList := by
    rw [String.toList_intercalate, Text.newline_not_mem_intercalate_iff (by decide)]
    simp only [List.forall_mem_map, newline_not_mem_assignment_iff]
  have hcommand : '\n' ∉ (Text.execForm definition.runtime.entryCommand).toList ↔
      '\n' ∉ definition.runtime.destination.toList := by
    have hquoted := Text.mem_quoted (c := '\n') (by decide) (by decide)
      definition.runtime.destination
    simp [Text.execForm, RuntimeSpec.entryCommand, hquoted]
  rw [expected, buildSteps, runtimeSteps, himage, henv, hworkingDir]
  simp only [List.forall_mem_cons, List.forall_mem_append, List.forall_mem_map,
    List.forall_mem_flatMap]
  simp only [String.toList_append, List.mem_append, not_or, hbindings, hcommand]
  simp [and_assoc]

/-- An instruction is read as it is meant where its operand leaves the line end alone. -/
theorem sound_single_iff (keyword : String) {operand : String}
    (hkept : isSkipped (keyword.toList ++ operand.toList) = false)
    (hlast : keyword.toList.getLast? = some ' ') :
    (Row.single (keyword ++ operand)).Sound ↔ EndsPlain operand.toList := by
  have htext : (Row.single (keyword ++ operand)).text = keyword.toList ++ operand.toList :=
    String.toList_append
  have hline : (Row.single (keyword ++ operand)).line = keyword.toList ++ operand.toList :=
    String.toList_append
  have hend {c : Char} (hc : c ≠ ' ') :
      (keyword.toList ++ operand.toList).getLast? ≠ some c ↔
        operand.toList.getLast? ≠ some c := by
    rw [List.getLast?_append, hlast]
    cases operand.toList.getLast? <;> simp [Ne.symm hc]
  rw [EndsPlain, ← hend (by decide), ← hend (by decide)]
  constructor
  · rintro ⟨-, hwhole, hended⟩
    rw [hline] at hwhole
    exact ⟨hwhole, htext ▸ hended rfl⟩
  · rintro ⟨hwhole, hended⟩
    exact ⟨by rw [hline, hkept], by rwa [hline], fun _ => by rwa [htext]⟩

theorem getLast?_assignment (binding : String × String) :
    (assignment binding).toList.getLast? = some '"' := by
  rw [assignment, String.toList_append, List.getLast?_append, Text.getLast?_quoted]
  rfl

/-- On a line of its own, a variable is hidden only by what its name begins with. -/
theorem isSkipped_assignment (binding : String × String) :
    isSkipped ("    ".toList ++ (assignment binding).toList) =
      isSkipped (binding.1.toList ++ ['=']) := by
  have hshown : ∃ c ∈ binding.1.toList ++ ['='], Text.isBlank c = false :=
    ⟨'=', by simp, rfl⟩
  have hblank : ∀ c ∈ "    ".toList, Text.isBlank c = true := List.all_eq_true.mp rfl
  rw [isSkipped_blank_append hblank, assignment, String.toList_append, String.toList_append]
  exact isSkipped_append hshown _

/-- The variables are read as they are meant where none but the first can be taken for a comment. -/
theorem sound_bindings_iff {bindings : List (String × String)} (h : bindings ≠ []) :
    (∀ row ∈ envRows "ENV ".toList ((bindings.map assignment).map String.toList), row.Sound) ↔
      ∀ binding ∈ bindings.tail, isSkipped (binding.1.toList ++ ['=']) = false := by
  obtain ⟨first, rest, rfl⟩ := List.exists_cons_of_ne_nil h
  have hquoted : ∀ value ∈ ((first :: rest).map assignment).map String.toList,
      value.getLast? = some '"' := by
    simp only [List.forall_mem_map]
    exact fun binding _ => getLast?_assignment binding
  have hfirst : isSkipped ("ENV ".toList ++ (assignment first).toList) = false := rfl
  rw [List.map_cons, List.map_cons, sound_envRows_iff hquoted, and_iff_right hfirst,
    List.forall_mem_map, List.forall_mem_map, List.tail_cons]
  simp only [isSkipped_assignment]

theorem sound_run_iff (command : String) :
    (Row.single ("RUN " ++ command)).Sound ↔ EndsPlain command.toList :=
  sound_single_iff "RUN " rfl rfl

theorem sound_source_iff (path : String) :
    (Row.single ("COPY . " ++ path)).Sound ∧ (Row.single ("WORKDIR " ++ path)).Sound ↔
      EndsPlain path.toList := by
  rw [sound_single_iff "COPY . " rfl rfl, sound_single_iff "WORKDIR " rfl rfl, and_self_iff]

theorem sound_runtimeSteps_iff (definition : PipelineDefinition) :
    (∀ row ∈ (runtimeSteps definition).map Row.single, row.Sound) ↔
      EndsPlain definition.runtime.baseImage.toList ∧
        EndsPlain definition.runtime.destination.toList := by
  have hcopy : isSkipped (("COPY --from=builder " ++ definition.builder.artifactPath ++
      " ").toList ++ definition.runtime.destination.toList) = false := by
    rw [String.toList_append, String.toList_append, List.append_assoc, List.append_assoc]
    rfl
  have hplace : ("COPY --from=builder " ++ definition.builder.artifactPath ++
      " ").toList.getLast? = some ' ' := by
    rw [String.toList_append, List.getLast?_append]
    rfl
  have hcommand : EndsPlain (Text.execForm definition.runtime.entryCommand).toList := by
    have hlast : (Text.execForm definition.runtime.entryCommand).toList.getLast? = some ']' := by
      rw [Text.execForm, String.toList_append, List.getLast?_append]
      rfl
    rw [EndsPlain, hlast]
    decide
  rw [List.forall_mem_map, runtimeSteps, List.forall_mem_cons, List.forall_mem_cons,
    List.forall_mem_singleton, sound_single_iff "FROM " rfl rfl, sound_single_iff _ hcopy hplace,
    sound_single_iff "CMD " rfl rfl, and_iff_left hcommand]

/-- Which rows are read as they are meant. -/
theorem sound_bodyRows_iff (h : Job.ofBuilder workingDir id definition.builder = .ok job) :
    (∀ row ∈ bodyRows definition job, row.Sound) ↔
      (∀ binding ∈ definition.builder.environment.compilerEnv.entries.tail,
        isSkipped (binding.1.toList ++ ['=']) = false) ∧
      (∀ install ∈ definition.builder.environment.installScript, EndsPlain install.toList) ∧
      (∀ source ∈ definition.builder.source, EndsPlain source.mountPath.toList) ∧
      (∀ command ∈ definition.builder.commands, EndsPlain command.toList) ∧
      EndsPlain definition.runtime.baseImage.toList ∧
      EndsPlain definition.runtime.destination.toList := by
  obtain ⟨-, henv, hworkingDir, -⟩ := BuildEnvironment.job_of_ofBuilder h
  have hbindings := sound_bindings_iff (compilerEnv_ne_nil definition.builder.environment)
  rw [bodyRows, buildRows, buildSteps, henv, hworkingDir, List.forall_mem_append,
    List.forall_mem_append, hbindings, sound_runtimeSteps_iff]
  simp only [List.map_append, List.forall_mem_append, List.forall_mem_map, List.map_flatMap,
    List.forall_mem_flatMap, List.map_cons, List.map_nil, List.forall_mem_cons, List.not_mem_nil,
    sound_run_iff]
  simp [and_assoc, sound_source_iff]

theorem silent_comment (rest : List Char) :
    Silent (Text.chopReturn ('#' :: ' ' :: rest)) := by
  rw [Text.chopReturn_cons (.inl (by decide))]
  exact .inl rfl

/-- The lines before the first stage are those of the name, the one of the fingerprint and a blank
one. -/
theorem headLines_eq {first : List Char} {rest : List (List Char)}
    (hname : definition.name.toList.splitOn '\n' = first :: rest) :
    headLines definition =
      Text.chopReturn ("# ".toList ++ first) :: (rest.map Text.chopReturn ++
        [Text.chopReturn ("# fingerprint: ".toList ++ definition.fingerprint.toList), []]) := by
  have hfree : '\n' ∉ "# fingerprint: ".toList ++ definition.fingerprint.toList := by
    rw [List.mem_append, not_or]
    exact ⟨by decide, fun hmem => (Sha256.plain_of_mem_hex hmem).1 rfl⟩
  rw [headLines, headRows, List.flatMap_cons, List.flatMap_cons, List.flatMap_singleton,
    Text.splitOn_append_of_not_mem (by decide), hname, List.splitOn_eq_singleton hfree,
    List.modifyHead_cons, List.map_append, List.map_cons]
  rfl

/-- Before the first stage, only the further lines of the name can tell anything. -/
theorem silent_headLines_iff :
    (∀ line ∈ headLines definition, Silent line) ↔
      ∀ part ∈ (definition.name.toList.splitOn '\n').tail, Silent (Text.chopReturn part) := by
  obtain ⟨first, rest, hname⟩ :=
    List.exists_cons_of_ne_nil (List.splitOn_ne_nil '\n' definition.name.toList)
  rw [headLines_eq hname, hname, List.tail_cons, List.forall_mem_cons, List.forall_mem_append,
    List.forall_mem_map, List.forall_mem_cons, List.forall_mem_singleton]
  have hblank : Silent [] := .inl rfl
  exact ⟨fun hsilent => hsilent.2.1, fun hrest =>
    ⟨silent_comment first, hrest, silent_comment _, hblank⟩⟩

theorem instructions_eq_expected_iff
    (h : Job.ofBuilder workingDir id definition.builder = .ok job) :
    instructions (render definition) = expected definition job ↔
      (∀ told ∈ expected definition job, '\n' ∉ told.toList) ∧
        (∀ line ∈ headLines definition, Silent line) ∧
        ∀ row ∈ bodyRows definition job, row.Sound := by
  have hjoin : instructions (render definition) = expected definition job ↔
      joinLines [] (Text.lines (render definition).toList) =
        (expected definition job).map String.toList := by
    constructor
    · intro hsame
      rw [← hsame, instructions, List.map_map]
      simp [Function.comp_def]
    · intro hsame
      rw [instructions, hsame, List.map_map]
      simp [Function.comp_def]
  rw [hjoin]
  constructor
  · intro hsame
    -- What is read holds no line feed, so the texts that it is made of hold none.
    have hfree : ∀ told ∈ expected definition job, '\n' ∉ told.toList := by
      rw [← List.forall_mem_map (P := ('\n' ∉ ·)), ← hsame]
      refine newline_not_mem_joinLines List.not_mem_nil fun line hline => ?_
      rw [render_toList h] at hline
      exact Text.newline_not_mem_of_mem_lines_rows hline
    obtain ⟨hfrom, hbody⟩ := (newline_not_mem_expected_iff h).mp hfree
    rw [expected_toList h] at hsame
    exact ⟨hfree, (joinLines_render_iff h hfrom hbody).mp hsame⟩
  · rintro ⟨hfree, hread⟩
    obtain ⟨hfrom, hbody⟩ := (newline_not_mem_expected_iff h).mp hfree
    rw [expected_toList h]
    exact (joinLines_render_iff h hfrom hbody).mpr hread

/-- A pipeline's containerfile and its job agree exactly when the pipeline's texts are tidy. -/
theorem agrees_iff_tidy (hjob : Job.ofBuilder workingDir id definition.builder = .ok job) :
    Agrees definition job ↔ Tidy definition := by
  have hcommand : job.command = ["/bin/sh", "-c", expectedScript definition] := by
    rw [(BuildEnvironment.job_of_ofBuilder hjob).2.2.2.1, script_eq]
  have hread : Agrees definition job ↔ instructions (render definition) = expected definition job :=
    ⟨Agrees.instructions, fun hsame => ⟨hcommand, hsame⟩⟩
  rw [hread, instructions_eq_expected_iff hjob, newline_free_iff hjob, silent_headLines_iff,
    sound_bodyRows_iff hjob]
  constructor
  · rintro ⟨⟨himage, hbindings, hinstall, hsource, hcommands, hbase, hartifact, hdestination⟩, hname,
      hshown, hinstallEnd, hsourceEnd, hcommandsEnd, hbaseEnd, hdestinationEnd⟩
    exact {
      name := hname
      image := himage
      bindings := hbindings
      shown := hshown
      install := fun install h => ⟨hinstall install h, hinstallEnd install h⟩
      source := fun source h => ⟨hsource source h, hsourceEnd source h⟩
      commands := fun command h => ⟨hcommands command h, hcommandsEnd command h⟩
      baseImage := ⟨hbase, hbaseEnd⟩
      artifactPath := hartifact
      destination := ⟨hdestination, hdestinationEnd⟩ }
  · intro htidy
    exact ⟨⟨htidy.image, htidy.bindings, fun install h => (htidy.install install h).1,
      fun source h => (htidy.source source h).1, fun command h => (htidy.commands command h).1,
      htidy.baseImage.1, htidy.artifactPath, htidy.destination.1⟩, htidy.name, htidy.shown,
      fun install h => (htidy.install install h).2, fun source h => (htidy.source source h).2,
      fun command h => (htidy.commands command h).2, htidy.baseImage.2, htidy.destination.2⟩

theorem agrees_sample :
    ∃ job, Job.ofBuilder "/" ⟨1⟩ PipelineDefinition.sample.builder = .ok job ∧
      Agrees PipelineDefinition.sample job := by
  have htidy : Tidy PipelineDefinition.sample := {
    name := by decide
    image := by decide
    bindings := by decide +kernel
    shown := by decide +kernel
    install := by decide
    source := by decide
    commands := by decide
    baseImage := by decide
    artifactPath := by decide
    destination := by decide }
  obtain ⟨job, hjob⟩ : ∃ job, Job.ofBuilder "/" ⟨1⟩ PipelineDefinition.sample.builder = .ok job :=
    ⟨_, rfl⟩
  exact ⟨job, hjob, (agrees_iff_tidy hjob).mpr htidy⟩

/-- The sample pipeline under a name of two lines. -/
def twoLineName : PipelineDefinition :=
  { PipelineDefinition.sample with name := "service\nRUN id" }

/-- The second line of the name is a step of the containerfile that the job does not have. -/
theorem twoLineName_not_agrees :
    twoLineName.validate = .ok () ∧
      ∃ job, Job.ofBuilder "/" ⟨1⟩ twoLineName.builder = .ok job ∧
        (instructions (render twoLineName)).head? = some "RUN id" ∧ ¬ Agrees twoLineName job := by
  obtain ⟨job, hjob⟩ : ∃ job, Job.ofBuilder "/" ⟨1⟩ twoLineName.builder = .ok job := ⟨_, rfl⟩
  have hname : twoLineName.name.toList.splitOn '\n' = ["service".toList, "RUN id".toList] := by
    decide
  refine ⟨eq_ok_iff_toBool.mpr (by decide +kernel), job, hjob, ?_, ?_⟩
  · rw [instructions, lines_render hjob, headLines_eq hname]
    rfl
  · intro hagrees
    have hsilent := ((instructions_eq_expected_iff hjob).mp hagrees.instructions).2.1
    have htold := silent_headLines_iff.mp hsilent "RUN id".toList (by rw [hname]; decide)
    revert htold
    decide

end SealedBuild.Containerfile
