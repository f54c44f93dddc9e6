import Mathlib.Data.Nat.Find
import SealedBuild.Job
import SealedBuild.Proofs.Run.Script

/-!
# Phases of a job

The script of a job reads back as its steps, each guarded by the exit code of its phase, and the
line that looks for the artifact. So the exit code tells the first phase that failed, whatever the
commands return: also where one of them returns a code that is kept for a phase.
-/

namespace SealedBuild

namespace Job

open Script Text

/-! ## The script as rows -/

/-- What is said where an artifact is no regular file. -/
def complaint (path : String) : String :=
  "[isobuild] artifact " ++ path ++ " is not a regular file"

/-- The word of the script that makes it. -/
def complaintWord (path : String) : List Char :=
  '"' :: ("[isobuild] artifact ".toList ++ '"' :: ((shellWord path).toList ++
    '"' :: (" is not a regular file".toList ++ ['"'])))

theorem word_complaintWord (path : String) {c : Char} (hc : ShellReader.endsWord c = true)
    (rest : List Char) :
    ShellReader.word .bare (complaintWord path ++ c :: rest) =
      some ((complaint path).toList, c :: rest) := by
  have hfront : ∀ c ∈ "[isobuild] artifact ".toList, ShellReader.isFixed c = true :=
    List.all_eq_true.mp (by decide)
  have hback : ∀ c ∈ " is not a regular file".toList, ShellReader.isFixed c = true :=
    List.all_eq_true.mp (by decide)
  unfold complaintWord complaint
  simp only [List.cons_append, List.append_assoc, List.nil_append]
  rw [ShellReader.word_fixed hfront, ShellReader.word_shellWord, ShellReader.word_fixed hback,
    ShellReader.word_end hc]
  simp

/-- The line that looks for an artifact, without its line feed. -/
def expectationRow (path : String) : List Char :=
  "if [ ! -f ".toList ++ ((shellWord path).toList ++ (" ] || [ -L ".toList ++
    ((shellWord path).toList ++ (" ]; then echo ".toList ++ (complaintWord path ++
      (" >&2; exit ".toList ++ ((toString artifactMissingExit).toList ++
        "; fi".toList)))))))

theorem toList_artifactTest (path : String) :
    (artifactTest path).toList = expectationRow path ++ ['\n'] := by
  unfold artifactTest expectationRow complaintWord
  simp [String.toList_append]

/-- The line reads as one that looks for the artifact, whatever its path is. -/
theorem expectation?_expectationRow (path : String) :
    expectation? (expectationRow path) =
      some (.expectFile path path (complaint path) artifactMissingExit) := by
  have hfirst (rest : List Char) :
      ShellReader.word .bare ((shellWord path).toList ++ (" ] || [ -L ".toList ++ rest)) =
        some (path.toList, " ] || [ -L ".toList ++ rest) :=
    ShellReader.word_shellWord_cons path (by decide) _
  have hsecond (rest : List Char) :
      ShellReader.word .bare ((shellWord path).toList ++ (" ]; then echo ".toList ++ rest)) =
        some (path.toList, " ]; then echo ".toList ++ rest) :=
    ShellReader.word_shellWord_cons path (by decide) _
  have hthird (rest : List Char) :
      ShellReader.word .bare (complaintWord path ++ (" >&2; exit ".toList ++ rest)) =
        some ((complaint path).toList, " >&2; exit ".toList ++ rest) :=
    word_complaintWord path (by decide) _
  unfold expectation? expectationRow
  simp only [dropPrefix?_append, Option.bind_eq_bind, Option.bind_some, hfirst, hsecond, hthird]
  have hdigits : ∀ c ∈ (toString artifactMissingExit).toList, c.isDigit = true :=
    fun c => isDigit_of_mem_toString 102
  rw [List.takeWhile_append_of_pos hdigits, List.dropWhile_append_of_pos hdigits]
  have hcode : code? (toString artifactMissingExit).toList = some artifactMissingExit :=
    code?_toString 102
  have hend : "; fi".toList.takeWhile Char.isDigit = [] := by decide
  have hrest : "; fi".toList.dropWhile Char.isDigit = "; fi".toList := by decide
  rw [hend, hrest, List.append_nil, hcode, Option.bind_some, if_pos rfl]
  simp only [String.ofList_toList]

theorem reads_expectation (path : String) :
    Reads [expectationRow path]
      [.expectFile path path (complaint path) artifactMissingExit] := by
  have hread := expectation?_expectationRow path
  obtain ⟨rest, hrow⟩ : ∃ rest, expectationRow path = 'i' :: rest := ⟨_, rfl⟩
  rw [hrow] at hread ⊢
  have hcommand : ('i' :: rest).dropPrefix? "\x7b ".toList = none := rfl
  have hecho : announcement? ('i' :: rest) = none := rfl
  exact reads_single (List.cons_ne_nil 'i' rest) hcommand (by rw [hecho]; exact hread)

/-! ## Steps and their phases -/

/-- A part of a job that can fail. -/
inductive Phase where
  | provisioning
  | compilation
  | handoff
  deriving DecidableEq

/-- What the script exits with when the phase fails. -/
def Phase.exitCode : Phase → Int
  | provisioning => 100
  | compilation => 101
  | handoff => 102

/-- The class of the failure that a run then reports. -/
def Phase.kind : Phase → String
  | provisioning => "provisioning"
  | compilation => "compilation"
  | handoff => "artifact-handoff"

theorem kind_of_exitCode (phase : Phase) (artifactPath : String) :
    (failureOfExit (some phase.exitCode) artifactPath).map Failure.kind = some phase.kind := by
  cases phase <;> rfl

/-- The command that installs packages and drops what was downloaded for it. -/
def installCommand (manager : PackageManager) (packages : List String) : String :=
  match manager with
  | .apt =>
      "apt-get update && DEBIAN_FRONTEND=noninteractive apt-get install -y " ++
        "--no-install-recommends " ++ String.intercalate " " packages ++
        " && rm -rf /var/lib/apt/lists/*"
  | .apk =>
      "apk add --no-cache " ++ String.intercalate " " packages ++ " && rm -rf /var/cache/apk/*"

/-- The commands of a job, each with the phase that it belongs to: first the packages are
installed, if there are any. -/
def steps (spec : BuilderSpec) : List (String × Phase) :=
  (if spec.environment.packages.names = [] then []
    else [(installCommand spec.environment.packageManager spec.environment.packages.names,
      .provisioning)]) ++
    spec.commands.map (·, .compilation)

theorem map_fst_steps (spec : BuilderSpec) :
    (steps spec).map Prod.fst =
      (if spec.environment.packages.names = [] then []
        else [installCommand spec.environment.packageManager spec.environment.packages.names]) ++
        spec.commands := by
  unfold steps
  split <;> simp [Function.comp_def]

/-- Packages are installed by one command, and there is none for no packages. -/
theorem installScript_eq (environment : BuildEnvironment) :
    environment.installScript =
      if environment.packages.names = [] then none
      else some (installCommand environment.packageManager environment.packages.names) := by
  unfold BuildEnvironment.installScript PackageManager.installScript
  simp only [NameSet.isEmpty, List.isEmpty_iff]
  cases environment.packageManager <;> rfl

/-- The command that installs packages names each of them between two blanks. -/
theorem infix_installCommand (manager : PackageManager) {packages : List String} {name : String}
    (h : name ∈ packages) :
    ' ' :: name.toList ++ [' '] <:+: (installCommand manager packages).toList := by
  have hlist : ' ' :: name.toList ++ [' '] <:+:
      ' ' :: (String.intercalate " " packages).toList ++ [' '] := by
    rw [String.toList_intercalate]
    exact infix_intercalate [' '] (List.mem_map_of_mem h)
  obtain ⟨before, after, hcommand, front, back, hfront, hback⟩ : ∃ before after : String,
      installCommand manager packages = before ++ String.intercalate " " packages ++ after ∧
        ∃ front back, before.toList = front ++ [' '] ∧ after.toList = ' ' :: back := by
    cases manager with
    | apt =>
        exact ⟨_, _, rfl, ("apt-get update && DEBIAN_FRONTEND=noninteractive apt-get install -y " ++
          "--no-install-recommends").toList, "&& rm -rf /var/lib/apt/lists/*".toList,
          by simp, by simp⟩
    | apk =>
        exact ⟨_, _, rfl, "apk add --no-cache".toList, "&& rm -rf /var/cache/apk/*".toList,
          by simp, by simp⟩
  have hparts : (installCommand manager packages).toList =
      front ++ (' ' :: (String.intercalate " " packages).toList ++ [' ']) ++ back := by
    simp [hcommand, hfront, hback]
  rw [hparts]
  exact hlist.trans (List.infix_append _ _ _)

/-- The rows of a job's script. -/
def rows (spec : BuilderSpec) : List (List Char) :=
  (spec.environment.installScript.toList.flatMap fun install =>
    "echo '[isobuild] provisioning'".toList :: guardedRows install provisioningExit) ++
  "echo '[isobuild] compiling'".toList ::
    (spec.commands.flatMap (guardedRows · compilationExit) ++ [expectationRow spec.artifactPath])

/-- The instructions of a job's script before the last one. -/
def body (spec : BuilderSpec) : List Instruction :=
  (spec.environment.installScript.toList.flatMap fun install =>
    [.announce "[isobuild] provisioning", .guarded install provisioningExit]) ++
  .announce "[isobuild] compiling" :: spec.commands.map (.guarded · compilationExit)

/-- The instructions of a job's script. -/
def program (spec : BuilderSpec) : List Instruction :=
  body spec ++ [.expectFile spec.artifactPath spec.artifactPath (complaint spec.artifactPath)
    artifactMissingExit]

theorem toList_guarded (command : String) (code : Int) :
    (guarded command code).toList = (guardedRows command code).flatMap (· ++ ['\n']) := by
  unfold guarded guardedRows
  simp [String.toList_append]

theorem toList_script (spec : BuilderSpec) :
    (script spec).toList = (rows spec).flatMap (· ++ ['\n']) := by
  have hcommands : (String.join (spec.commands.map (guarded · compilationExit))).toList =
      spec.commands.flatMap fun command =>
        (guardedRows command compilationExit).flatMap (· ++ ['\n']) := by
    simp [String.toList_join, List.flatMap_map, toList_guarded]
  unfold script rows
  cases spec.environment.installScript with
  | none => simp [String.toList_append, hcommands, toList_artifactTest, List.flatMap_assoc]
  | some install =>
      simp [String.toList_append, hcommands, toList_artifactTest, toList_guarded,
        List.flatMap_assoc]

theorem newline_not_mem_guardedRows {command : String} (h : '\n' ∉ command.toList) (code : Nat) :
    ∀ row ∈ guardedRows command code, '\n' ∉ row := by
  have hcode : '\n' ∉ (toString (code : Int)).toList := fun hmem =>
    absurd (isDigit_of_mem_toString code hmem) (by decide)
  unfold guardedRows
  simp only [List.forall_mem_cons, List.mem_append, not_or]
  exact ⟨⟨by decide, h⟩, ⟨by decide, hcode⟩, nofun⟩

theorem newline_not_mem_expectationRow {path : String} (h : '\n' ∉ path.toList) :
    '\n' ∉ expectationRow path := by
  have hword : '\n' ∉ (shellWord path).toList := by
    rwa [ShellReader.mem_shellWord (by decide) (by decide)]
  have hcode : '\n' ∉ (toString artifactMissingExit).toList := fun hmem =>
    absurd (isDigit_of_mem_toString 102 hmem) (by decide)
  unfold expectationRow complaintWord
  simp only [List.mem_append, List.mem_cons, List.not_mem_nil, or_false, not_or, hword, hcode]
  decide

/-- A job whose commands and path hold no line feed has none in its rows. -/
theorem newline_not_mem_rows {spec : BuilderSpec}
    (hinstall : ∀ install ∈ spec.environment.installScript, '\n' ∉ install.toList)
    (hcommands : ∀ command ∈ spec.commands, '\n' ∉ command.toList)
    (hpath : '\n' ∉ spec.artifactPath.toList) : ∀ row ∈ rows spec, '\n' ∉ row := by
  unfold rows
  simp only [List.forall_mem_append, List.forall_mem_cons, List.forall_mem_flatMap]
  refine ⟨fun install hmem => ⟨by decide, ?_⟩, by decide, fun command hmem => ?_,
    newline_not_mem_expectationRow hpath, nofun⟩
  · exact newline_not_mem_guardedRows (hinstall install (Option.mem_toList.mp hmem)) 100
  · exact newline_not_mem_guardedRows (hcommands command hmem) 101

/-- The script of a job is read as its instructions. -/
theorem read?_script {spec : BuilderSpec}
    (hinstall : ∀ install ∈ spec.environment.installScript, '\n' ∉ install.toList)
    (hcommands : ∀ command ∈ spec.commands, '\n' ∉ command.toList)
    (hpath : '\n' ∉ spec.artifactPath.toList) :
    read? (script spec) = some (program spec) := by
  have hprovisioning : Reads ["echo '[isobuild] provisioning'".toList]
      [.announce "[isobuild] provisioning"] := reads_single (by decide) (by decide) (by decide)
  have hcompiling : Reads ["echo '[isobuild] compiling'".toList]
      [.announce "[isobuild] compiling"] := reads_single (by decide) (by decide) (by decide)
  have hinstalling : Reads
      (spec.environment.installScript.toList.flatMap fun install =>
        "echo '[isobuild] provisioning'".toList :: guardedRows install provisioningExit)
      (spec.environment.installScript.toList.flatMap fun install =>
        [.announce "[isobuild] provisioning", .guarded install provisioningExit]) :=
    Reads.flatMap fun install _ => hprovisioning.append (reads_guarded install 100)
  have hrunning : Reads (spec.commands.flatMap (guardedRows · compilationExit))
      (spec.commands.map (.guarded · compilationExit)) := by
    rw [List.map_eq_flatMap]
    exact Reads.flatMap fun command _ => reads_guarded command 101
  have hrows := hinstalling.append
    (hcompiling.append (hrunning.append (reads_expectation spec.artifactPath)))
  have hempty : instructions? none [[]] = some [] := rfl
  rw [read?, toList_script,
    splitOn_rows_of_not_mem (newline_not_mem_rows hinstall hcommands hpath)]
  refine (hrows [[]]).trans ?_
  rw [hempty]
  simp [program, body]

theorem isPlain_of_mem_body {spec : BuilderSpec} {instruction : Instruction}
    (h : instruction ∈ body spec) : instruction.IsPlain := by
  unfold body at h
  simp only [List.mem_append, List.mem_flatMap, List.mem_cons, List.mem_map, List.not_mem_nil,
    or_false] at h
  obtain ⟨-, -, rfl | rfl⟩ | rfl | ⟨-, -, rfl⟩ := h <;> trivial

theorem guards_body (spec : BuilderSpec) :
    guards (body spec) = (steps spec).map fun (command, phase) => (command, phase.exitCode) := by
  have hcommands : ∀ commands : List String,
      guards (commands.map (.guarded · compilationExit)) =
        (commands.map (·, Phase.compilation)).map
          fun (command, phase) => (command, phase.exitCode) := by
    intro commands
    induction commands with
    | nil => rfl
    | cons command commands ih =>
        rw [List.map_cons, guards, ih]
        rfl
  unfold body steps
  rw [installScript_eq, List.map_append, ← hcommands]
  by_cases hpackages : spec.environment.packages.names = []
  · rw [if_pos hpackages, if_pos hpackages]
    rfl
  · rw [if_neg hpackages, if_neg hpackages]
    rfl

/-! ## Running a job's script -/

section Ended

variable {spec : BuilderSpec} {status : Nat → Int} {look : String → Thing}

theorem run_program_of_fail {k : Nat} {command : String} {phase : Phase}
    (hstep : (steps spec)[k]? = some (command, phase)) (hbefore : ∀ m < k, status m = 0)
    (hfail : status k ≠ 0) :
    run status look [] (program spec) =
      ⟨phase.exitCode, ((steps spec).take (k + 1)).map Prod.fst⟩ := by
  have hguard : (guards (body spec))[k]? = some (command, phase.exitCode) := by
    rw [guards_body, List.getElem?_map, hstep]
    rfl
  calc run status look [] (program spec)
      = ⟨phase.exitCode, [] ++ ((guards (body spec)).take (k + 1)).map Prod.fst⟩ :=
        run_of_fail (fun _ => isPlain_of_mem_body) hguard (by simpa using hbefore)
          (by simpa using hfail)
    _ = ⟨phase.exitCode, ((steps spec).take (k + 1)).map Prod.fst⟩ := by
        rw [guards_body, ← List.map_take, List.map_map, List.nil_append]
        rfl

theorem run_program_of_succeed (h : ∀ k < (steps spec).length, status k = 0) :
    run status look [] (program spec) =
      ⟨if look spec.artifactPath = .regular then 0 else Phase.handoff.exitCode,
        (steps spec).map Prod.fst⟩ := by
  have hguards : ∀ k < (guards (body spec)).length, status (([] : List String).length + k) = 0 := by
    simpa [guards_body] using h
  rw [program, run_of_succeed (fun _ => isPlain_of_mem_body) hguards, guards_body, List.map_map,
    List.nil_append, run, run]
  by_cases hregular : look spec.artifactPath = .regular
  · rw [if_pos hregular, if_pos (Thing.isFile_and_not_isLink_iff.mpr hregular)]
    rfl
  · rw [if_neg hregular, if_neg (mt Thing.isFile_and_not_isLink_iff.mp hregular)]
    rfl

/-- What the end of a job's script tells, where its commands had some exit statuses and some
thing was at the artifact's path. -/
structure Told (spec : BuilderSpec) (status : Nat → Int) (artifact : Thing) (ending : Ending) :
    Prop where
  /-- Packages are installed before anything else is run, and every one of them is named. -/
  installs : spec.environment.packages.names ≠ [] →
    ∃ install ran, ending.ran = install :: ran ∧ ran <+: spec.commands ∧
      ∀ name ∈ spec.environment.packages.names, ' ' :: name.toList ++ [' '] <:+: install.toList
  /-- Without packages nothing is run but the commands. -/
  bare : spec.environment.packages.names = [] → ending.ran <+: spec.commands
  /-- No failure is told exactly when all went well. -/
  success : failureOfExit (some ending.exitCode) spec.artifactPath = none ↔
    (∀ k < (steps spec).length, status k = 0) ∧ artifact = .regular
  /-- The first command that failed decides what is told, and no later one was run. -/
  failed : ∀ k command phase, (steps spec)[k]? = some (command, phase) →
    (∀ m < k, status m = 0) → status k ≠ 0 →
      ending.exitCode = phase.exitCode ∧
      (failureOfExit (some ending.exitCode) spec.artifactPath).map Failure.kind =
        some phase.kind ∧
      ending.ran = ((steps spec).take (k + 1)).map Prod.fst
  /-- Where no command failed, all were run, and what is told is about the artifact. -/
  finished : (∀ k < (steps spec).length, status k = 0) →
    ending.ran = (steps spec).map Prod.fst ∧
      (artifact = .regular → ending.exitCode = 0) ∧
      (artifact ≠ .regular →
        ending.exitCode = Phase.handoff.exitCode ∧
        (failureOfExit (some ending.exitCode) spec.artifactPath).map Failure.kind =
          some Phase.handoff.kind)

/-- Where a command failed, there is a first one that did. -/
theorem exists_first_failed (h : ¬∀ k < (steps spec).length, status k = 0) :
    ∃ k command phase, (steps spec)[k]? = some (command, phase) ∧ (∀ m < k, status m = 0) ∧
      status k ≠ 0 := by
  have hfailed : ∃ k, k < (steps spec).length ∧ status k ≠ 0 := by simpa using h
  obtain ⟨hk, hfail⟩ := Nat.find_spec hfailed
  refine ⟨Nat.find hfailed, _, _, List.getElem?_eq_getElem hk, fun m hm => ?_, hfail⟩
  -- An earlier step that failed would have been found instead.
  by_contra hm'
  exact Nat.find_min hfailed hm ⟨hm.trans hk, hm'⟩

/-- At least the first command is run, and the others in their order. -/
theorem exists_ran_eq (spec : BuilderSpec) (status : Nat → Int) (look : String → Thing) :
    ∃ count, (run status look [] (program spec)).ran =
      ((steps spec).map Prod.fst).take (count + 1) := by
  by_cases hall : ∀ k < (steps spec).length, status k = 0
  · refine ⟨(steps spec).length, ?_⟩
    rw [run_program_of_succeed hall, List.take_of_length_le (by simp)]
  · obtain ⟨k, command, phase, hstep, hbefore, hfail⟩ := exists_first_failed hall
    refine ⟨k, ?_⟩
    rw [run_program_of_fail hstep hbefore hfail, List.map_take]

theorem told_of_run (spec : BuilderSpec) (status : Nat → Int) (look : String → Thing) :
    Told spec status (look spec.artifactPath) (run status look [] (program spec)) where
  installs hpackages := by
    obtain ⟨count, hran⟩ := exists_ran_eq spec status look
    rw [map_fst_steps, if_neg hpackages, List.singleton_append, List.take_succ_cons] at hran
    exact ⟨_, _, hran, List.take_prefix _ _, fun name hname => infix_installCommand _ hname⟩
  bare hpackages := by
    obtain ⟨count, hran⟩ := exists_ran_eq spec status look
    rw [map_fst_steps, if_pos hpackages, List.nil_append] at hran
    rw [hran]
    exact List.take_prefix _ _
  success := by
    by_cases hall : ∀ k < (steps spec).length, status k = 0
    · rw [run_program_of_succeed hall]
      by_cases hregular : look spec.artifactPath = .regular
      · rw [if_pos hregular]
        exact iff_of_true rfl ⟨hall, hregular⟩
      · rw [if_neg hregular]
        exact iff_of_false nofun fun h => hregular h.2
    · obtain ⟨k, command, phase, hstep, hbefore, hfail⟩ := exists_first_failed hall
      rw [run_program_of_fail hstep hbefore hfail]
      refine iff_of_false (fun hnone => ?_) fun h => hall h.1
      have hkind := kind_of_exitCode phase spec.artifactPath
      rw [hnone] at hkind
      cases hkind
  failed k command phase hstep hbefore hfail := by
    rw [run_program_of_fail hstep hbefore hfail]
    exact ⟨rfl, kind_of_exitCode phase spec.artifactPath, rfl⟩
  finished hall := by
    rw [run_program_of_succeed hall]
    refine ⟨rfl, fun hregular => if_pos hregular, fun hregular => ?_⟩
    rw [if_neg hregular]
    exact ⟨rfl, kind_of_exitCode .handoff spec.artifactPath⟩

end Ended

theorem newline_not_mem_installCommand (manager : PackageManager) {packages : List String}
    (h : ∀ name ∈ packages, '\n' ∉ name.toList) :
    '\n' ∉ (installCommand manager packages).toList := by
  have hlist : '\n' ∉ (String.intercalate " " packages).toList := by
    rw [String.toList_intercalate, newline_not_mem_intercalate_iff (by decide)]
    simpa using h
  unfold installCommand
  cases manager with
  | apt | apk =>
      simp only [String.toList_append, List.mem_append, not_or, hlist, not_false_eq_true, and_true]
      decide

/-- Names of packages without line feeds make an install step without line feeds. -/
theorem newline_not_mem_installScript {environment : BuildEnvironment}
    (h : ∀ name ∈ environment.packages.names, '\n' ∉ name.toList) :
    ∀ install ∈ environment.installScript, '\n' ∉ install.toList := by
  intro install hinstall
  rw [installScript_eq] at hinstall
  split at hinstall
  · cases hinstall
  · obtain rfl := Option.mem_some.mp hinstall
    exact newline_not_mem_installCommand environment.packageManager h

/-- The exit code of a job's script tells the first phase that failed, whatever its commands
returned and whatever is at the artifact's path. -/
theorem exit_tells_phase (spec : BuilderSpec)
    (hpackages : ∀ name ∈ spec.environment.packages.names, '\n' ∉ name.toList)
    (hcommands : ∀ command ∈ spec.commands, '\n' ∉ command.toList)
    (hpath : '\n' ∉ spec.artifactPath.toList) (status : Nat → Int) (look : String → Thing) :
    ∃ program, read? (script spec) = some program ∧
      Told spec status (look spec.artifactPath) (run status look [] program) :=
  ⟨program spec, read?_script (newline_not_mem_installScript hpackages) hcommands hpath,
    told_of_run spec status look⟩

/-- A job with packages, two commands and a quote in its path. -/
def sample : BuilderSpec where
  environment := (BuildEnvironment.ofToolchain ⟨"rust", "1.75"⟩ (.ofLibrary "openssl")).withPackages
    ["libssl-dev", "pkg-config"]
  source := none
  commands := ["make", "make install"]
  artifactPath := "/out/it's"

/-- Its second command fails with the code that is kept for the packages. -/
theorem exit_tells_phase_sample :
    (∀ name ∈ sample.environment.packages.names, '\n' ∉ name.toList) ∧
      (∀ command ∈ sample.commands, '\n' ∉ command.toList) ∧
      '\n' ∉ sample.artifactPath.toList ∧
      ∃ program, read? (script sample) = some program ∧
        Told sample (fun k => if k = 2 then 100 else 0) (.link .regular)
          (run (fun k => if k = 2 then 100 else 0) (fun _ => .link .regular) [] program) := by
  have hpackages : ∀ name ∈ sample.environment.packages.names, '\n' ∉ name.toList := by
    decide +kernel
  have hcommands : ∀ command ∈ sample.commands, '\n' ∉ command.toList := by decide
  have hpath : '\n' ∉ sample.artifactPath.toList := by decide
  exact ⟨hpackages, hcommands, hpath, exit_tells_phase sample hpackages hcommands hpath
    (fun k => if k = 2 then 100 else 0) fun _ => .link .regular⟩

end Job

end SealedBuild
