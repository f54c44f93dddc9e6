import SealedBuild.Proofs.Concurrent.Program

/-!
# Whole runs as programs

The stages of a run, told as programs, and that these do what the stages do on the daemon's engine.
What the inspector says of an executable depends on what is found at its path.
-/

namespace SealedBuild

/-- One run among others: what it runs, how, and which instants it reads from the clock. -/
structure Assignment where
  id : RunId
  definition : PipelineDefinition
  /-- Staged artifacts are kept. -/
  retain : Bool
  /-- A tag in place of the declared one. -/
  tag : Option String
  /-- What the inspector says of the executable at a path, by what is found there. -/
  inspect : String → Except FileFault FileNode → Except Failure Inspection
  clock : Nat → Instant

namespace Assignment

variable {κ : Type} (run : Assignment) (stagingDir : String) (daemon : Daemon κ)

/-- The inspector of the run. -/
def inspector : Inspector (Dock κ) where
  inspect path := do
    let files ← Act.files
    pure (run.inspect path (files.find path))

/-- The builder stage of the run, on the daemon. -/
def builder : BuilderStage (Dock κ) where
  executor := daemon.engine.executor
  inspector := run.inspector
  stagingDir
  retain := run.retain

/-- The orchestrator of the run, on the daemon. -/
def orchestrator : Orchestrator (Dock κ) :=
  .ofStages (run.builder stagingDir daemon) ⟨daemon.engine.assembler, run.tag⟩

/-- The run's own directory. -/
def directory : String :=
  HostPath.join stagingDir run.id.short

/-- Where the run's artifact is staged. -/
def artifact : String :=
  HostPath.join (run.directory stagingDir) run.definition.builder.artifactName

/-! ## The builder stage -/

def discard : Program Unit := do
  if !run.retain then
    Program.access (.removeDirAll (run.directory stagingDir))

/-- The size of what was found and the SHA-256 of its content, if it is a file. -/
def measured (found : Except FileFault FileNode) : Except FileFault (Nat × String) := do
  let content ← found.bind Program.contentOf
  pure (content.length, Sha256.hex content)

def verify : Program (Except Failure CompiledArtifact) := ExceptT.run do
  let spec := run.definition.builder
  let environment := spec.environment
  let stagedPath := run.artifact stagingDir
  let inspection ← ExceptT.mk do
    pure (run.inspect stagedPath (← Program.access (.find stagedPath)))
  ExceptT.mk (pure (inspection.verify environment.flags environment.crypto))
  let found ← (Program.access (.find stagedPath) : Program _)
  let (size, digest) ← ExceptT.mk (pure ((measured found).mapError .io))
  let producedAt ← (Program.access .now : Program Instant)
  pure {
    name := spec.artifactName
    sourcePath := spec.artifactPath
    stagedPath
    architecture := inspection.architecture
    linkage := inspection.linkage environment.crypto
    stripped := inspection.isStripped
    size
    checksum := digest
    producedAt }

def collect (handle : JobHandle) (fingerprint : String) : Program (Except Failure Handoff) :=
  ExceptT.run do
    let spec := run.definition.builder
    let result ← ExceptT.mk (Program.waitForJob handle)
    match Job.failureOfExit result.exitCode spec.artifactPath with
    | some failure => throw failure
    | none => pure ()
    ExceptT.mk do
      pure ((← Program.access (.createDirAll (run.directory stagingDir))).mapError .io)
    let _ ← ExceptT.mk
      (Program.copyOut handle spec.artifactPath (run.artifact stagingDir))
    let artifact ← ExceptT.mk (run.verify stagingDir)
    pure ⟨artifact, fingerprint⟩

def follow (handle : JobHandle) (fingerprint : String) :
    Program (Except Failure Handoff × List LogLine) := do
  match ← Program.jobLogs handle with
  | .error failure => pure (.error failure, [])
  | .ok lines => pure (← run.collect stagingDir handle fingerprint, lines)

def produce (fingerprint : String) : Program (Except Failure Handoff × List LogLine) := do
  match Job.ofBuilder (← Program.access .workingPath) run.id run.definition.builder with
  | .error failure => pure (.error failure, [])
  | .ok job =>
    if ← Program.canExecute then
      match ← Program.spawn job with
      | .error failure => pure (.error failure, [])
      | .ok handle =>
        let (result, lines) ← run.follow stagingDir handle fingerprint
        let _ ← Program.removeContainer (Engine.containerName handle.id)
        if let .error _ := result then run.discard stagingDir
        pure (result, lines)
    else
      pure (.error (.internal ("executor '" ++ Engine.name ++ "' is not available")), [])

/-! ## The runtime stage -/

/-- The check of a handoff, by what was found at its staged path. -/
def checked (handoff : Handoff) (found : Except FileFault FileNode) : Except HandoffFault Unit :=
  let path := handoff.artifact.stagedPath
  match found with
  | .error fault => .error (.missing path fault)
  | .ok .directory => .error (.notRegular path)
  | .ok (.file _ content) =>
    let digest := Sha256.hex content
    if content.length = handoff.artifact.size ∧ digest = handoff.artifact.checksum then .ok ()
    else .error (.changed path handoff.artifact.checksum digest)

def package (handoff : Handoff) : Program (Except Failure RuntimeImage) := ExceptT.run do
  let pipeline := run.definition.name
  let spec := run.definition.runtime
  let found ← (Program.access (.find handoff.artifact.stagedPath) : Program _)
  ExceptT.mk (pure ((checked handoff found).mapError fun fault => .artifactHandoff fault.message))
  let tag ← ExceptT.mk
    (pure (RuntimeStage.resolveTag run.tag pipeline spec handoff.fingerprint))
  let request :=
    AssemblyRequest.ofArtifact spec handoff.artifact tag pipeline handoff.fingerprint
  let id ← ExceptT.mk (Program.assemble request)
  let createdAt ← (Program.access .now : Program Instant)
  pure {
    id
    tag
    baseImage := spec.baseImage
    artifact := handoff.artifact
    destination := spec.destination
    entryCommand := spec.entryCommand
    fingerprint := handoff.fingerprint
    createdAt }

/-! ## The run -/

def stageResult (stage : Stage) (startedAt : Instant) (failure : Option Failure) :
    Program StageResult := do
  let finishedAt ← Program.access .now
  pure {
    stage
    succeeded := failure.isNone
    message := failure.map Failure.message
    startedAt
    finishedAt }

def fail (record : RunRecord) (stage : Stage) (failure : Failure) :
    Program (List Event × RunOutcome) := do
  let state := RunState.ofFailure stage failure
  let finishedAt ← Program.access .now
  pure
    ([.stageCompleted stage false (some failure.message), .runCompleted state],
      ⟨{ record with state, finishedAt := some finishedAt }, none⟩)

def taggedLine (image : RuntimeImage) : Program LogLine := do
  let timestamp ← Program.access .now
  pure ⟨timestamp, .system, "Tagged " ++ image.tag ++ " (" ++ image.id ++ ")"⟩

def packageStage (record : RunRecord) (handoff : Handoff) :
    Program (List Event × RunOutcome) := do
  let startedAt ← Program.access .now
  let packaged ← run.package handoff
  run.discard stagingDir
  match packaged with
  | .ok image =>
    let result ← stageResult .runtime startedAt none
    let line ← taggedLine image
    let finishedAt ← Program.access .now
    pure
      ([.stageStarted .runtime, .stageLog .runtime line, .stageCompleted .runtime true none,
          .runCompleted .packaged],
        ⟨{ record with
            stages := record.stages ++ [result]
            state := .packaged
            finishedAt := some finishedAt }, some image⟩)
  | .error failure =>
    let result ← stageResult .runtime startedAt (some failure)
    let (events, outcome) ←
      fail { record with stages := record.stages ++ [result] } .runtime failure
    pure (.stageStarted .runtime :: events, outcome)

def concludeBuild (record : RunRecord) (startedAt : Instant)
    (produced : Except Failure Handoff) : Program (List Event × RunOutcome) := do
  match produced with
  | .error failure =>
    run.discard stagingDir
    let result ← stageResult .builder startedAt (some failure)
    fail { record with stages := record.stages ++ [result] } .builder failure
  | .ok handoff =>
    let result ← stageResult .builder startedAt none
    let (events, outcome) ←
      run.packageStage stagingDir { record with stages := record.stages ++ [result] } handoff
    pure
      (.stageCompleted .builder true none :: .artifactProduced handoff.artifact :: events,
        outcome)

def buildStage (record : RunRecord) : Program (List Event × RunOutcome) := do
  let startedAt ← Program.access .now
  let (produced, lines) ← run.produce stagingDir record.fingerprint
  let (events, outcome) ← run.concludeBuild stagingDir record startedAt produced
  pure (.stageStarted .builder :: lines.map (.stageLog .builder) ++ events, outcome)

/-- The check before a run, for which nothing is accessed. -/
def precheck (fingerprint : String) : Except Failure Unit := do
  run.definition.validate
  let _ ← RuntimeStage.resolveTag run.tag run.definition.name run.definition.runtime fingerprint

/-- The run as a program. -/
def program : Program (List Event × RunOutcome) := do
  let record := RunRecord.start run.id run.definition (← Program.access .now)
  match run.precheck record.fingerprint with
  | .error failure => fail record .builder failure
  | .ok () => run.buildStage stagingDir record

/-! ## What the programs do -/

section Act

open Program

theorem checksum_eq (files : FileTree) (path : String) :
    checksum files path = measured (files.find path) := by
  unfold checksum measured
  rw [read_eq]

theorem check_eq (files : FileTree) (handoff : Handoff) :
    handoff.check files = checked handoff (files.find handoff.artifact.stagedPath) :=
  rfl

theorem act_discard :
    (run.discard stagingDir).act daemon = (run.builder stagingDir daemon).discard run.id := by
  have hretain : (run.builder stagingDir daemon).retain = run.retain := rfl
  unfold discard BuilderStage.discard
  rw [hretain]
  cases run.retain with
  | true => rfl
  | false => exact act_access _

theorem act_verify :
    (run.verify stagingDir).act daemon =
      (run.builder stagingDir daemon).verify run.definition.builder (run.artifact stagingDir) := by
  refine act_run_bind_congr (act_find_congr fun files => rfl) fun inspection => ?_
  refine act_run_bind_congr rfl fun _ => ?_
  refine act_run_find_congr fun files => ?_
  rw [checksum_eq]
  refine act_run_bind_congr rfl fun ⟨size, digest⟩ => ?_
  exact act_run_bind_congr (act_run_lift (act_access _)) fun producedAt => rfl

theorem act_collect (handle : JobHandle) (fingerprint : String) :
    (run.collect stagingDir handle fingerprint).act daemon =
      (run.builder stagingDir daemon).collect handle run.id run.definition.builder fingerprint := by
  refine act_run_bind_congr (act_waitForJob daemon handle) fun result => ?_
  dsimp only
  cases Job.failureOfExit result.exitCode run.definition.builder.artifactPath with
  | some failure => rfl
  | none =>
      refine act_run_bind_congr (act_bind_congr (act_access _) fun _ => rfl) fun _ => ?_
      refine act_run_bind_congr (act_copyOut daemon handle _ _) fun _ => ?_
      exact act_run_bind_congr (run.act_verify stagingDir daemon) fun artifact => rfl

theorem act_follow (handle : JobHandle) (fingerprint : String) :
    (run.follow stagingDir handle fingerprint).act daemon =
      (run.builder stagingDir daemon).follow handle run.id run.definition.builder fingerprint := by
  refine act_bind_congr (act_jobLogs daemon handle) fun answer => ?_
  cases answer with
  | error failure => rfl
  | ok lines =>
      exact act_bind_congr (run.act_collect stagingDir daemon handle fingerprint) fun _ => rfl

theorem act_produce (fingerprint : String) :
    (run.produce stagingDir fingerprint).act daemon =
      (run.builder stagingDir daemon).produce run.id run.definition.builder fingerprint := by
  -- All files are looked at here for no more than the working directory.
  funext world
  change act daemon (match Job.ofBuilder world.files.workingPath _ _ with
      | .error failure => _ | .ok job => _) world =
    (match Job.ofBuilder world.files.workingPath _ _ with
      | .error failure => _ | .ok job => _ : Act (Dock κ) _) world
  cases Job.ofBuilder world.files.workingPath run.id run.definition.builder with
  | error failure => rfl
  | ok job =>
      refine congrFun (act_bind_congr (act_canExecute daemon job) fun available => ?_) world
      cases available with
      | false => rfl
      | true =>
          refine act_bind_congr (act_spawn daemon job) fun spawned => ?_
          cases spawned with
          | error failure => rfl
          | ok handle =>
              refine act_bind_congr (run.act_follow stagingDir daemon handle fingerprint)
                fun ⟨result, lines⟩ => ?_
              refine act_bind_congr (act_removeContainer daemon _) fun _ => ?_
              cases result with
              | ok handoff => rfl
              | error failure =>
                  exact act_bind_congr (run.act_discard stagingDir daemon) fun _ => rfl

theorem act_package (handoff : Handoff) :
    (run.package handoff).act daemon =
      (RuntimeStage.mk daemon.engine.assembler run.tag).package run.definition.name
        run.definition.runtime handoff := by
  refine act_run_find_congr fun files => ?_
  unfold Handoff.verify
  rw [check_eq]
  refine act_run_bind_congr rfl fun _ => ?_
  refine act_run_bind_congr rfl fun tag => ?_
  refine act_run_bind_congr (act_assemble daemon _) fun id => ?_
  exact act_run_bind_congr (act_run_lift (act_access _)) fun createdAt => rfl

theorem act_stageResult (stage : Stage) (startedAt : Instant) (failure : Option Failure) :
    (stageResult stage startedAt failure).act daemon =
      Orchestrator.stageResult stage startedAt failure :=
  act_bind_congr (act_access _) fun _ => rfl

theorem act_fail (record : RunRecord) (stage : Stage) (failure : Failure) :
    (fail record stage failure).act daemon = Orchestrator.fail record stage failure :=
  act_bind_congr (act_access _) fun _ => rfl

theorem act_taggedLine (image : RuntimeImage) :
    (taggedLine image).act daemon = Orchestrator.taggedLine image :=
  act_bind_congr (act_access _) fun _ => rfl

theorem act_packageStage (record : RunRecord) (hid : record.id = run.id) (handoff : Handoff) :
    (run.packageStage stagingDir record handoff).act daemon =
      (run.orchestrator stagingDir daemon).packageStage run.definition record handoff := by
  refine act_bind_congr (act_access _) fun startedAt => ?_
  refine act_bind_congr (run.act_package daemon handoff) fun packaged => ?_
  rw [hid]
  refine act_bind_congr (run.act_discard stagingDir daemon) fun _ => ?_
  cases packaged with
  | ok image =>
      refine act_bind_congr (act_stageResult daemon .runtime startedAt none) fun result => ?_
      refine act_bind_congr (act_taggedLine daemon image) fun line => ?_
      exact act_bind_congr (act_access _) fun finishedAt => rfl
  | error failure =>
      refine act_bind_congr (act_stageResult daemon .runtime startedAt _) fun result => ?_
      exact act_bind_congr (act_fail daemon _ .runtime failure) fun _ => rfl

theorem act_concludeBuild (record : RunRecord) (hid : record.id = run.id) (startedAt : Instant)
    (produced : Except Failure Handoff) :
    (run.concludeBuild stagingDir record startedAt produced).act daemon =
      (run.orchestrator stagingDir daemon).concludeBuild run.definition record startedAt
        produced := by
  cases produced with
  | error failure =>
      have hdiscard := run.act_discard stagingDir daemon
      rw [← hid] at hdiscard
      refine act_bind_congr hdiscard fun _ => ?_
      refine act_bind_congr (act_stageResult daemon .builder startedAt _) fun result => ?_
      exact act_fail daemon _ .builder failure
  | ok handoff =>
      refine act_bind_congr (act_stageResult daemon .builder startedAt none) fun result => ?_
      exact act_bind_congr (run.act_packageStage stagingDir daemon
        { record with stages := record.stages ++ [result] } hid handoff) fun _ => rfl

theorem act_buildStage (record : RunRecord) (hid : record.id = run.id) :
    (run.buildStage stagingDir record).act daemon =
      (run.orchestrator stagingDir daemon).buildStage run.definition record := by
  have hproduce := run.act_produce stagingDir daemon record.fingerprint
  rw [← hid] at hproduce
  refine act_bind_congr (act_access _) fun startedAt => ?_
  refine act_bind_congr hproduce fun ⟨produced, lines⟩ => ?_
  exact act_bind_congr
    (run.act_concludeBuild stagingDir daemon record hid startedAt produced) fun _ => rfl

/-- The program of a run does what the run does. -/
theorem act_program :
    (run.program stagingDir).act daemon =
      (run.orchestrator stagingDir daemon).execute run.id run.definition := by
  refine act_bind_congr (act_access _) fun createdAt => ?_
  dsimp only
  change Program.act daemon (match run.precheck _ with | .error failure => _ | .ok _ => _) =
    match run.precheck _ with | .error failure => _ | .ok _ => _
  cases run.precheck (RunRecord.start run.id run.definition createdAt).fingerprint with
  | error failure => exact act_fail daemon _ .builder failure
  | ok _ => exact run.act_buildStage stagingDir daemon _ rfl

end Act

end Assignment

end SealedBuild
