import SealedBuild.Proofs.Concurrent.Run
import SealedBuild.Proofs.Environment.Received

/-!
# What a run touches

Every access of a run is about things of its own: its container, its directory, and the artifact in
that. It makes the directory when it is not there, and looks at the artifact or writes it only while
the directory is there. Whatever the daemon answers, the program of a run keeps to this.
-/

namespace SealedBuild

/-- What is a run's own. -/
structure Belongings where
  container : String
  directory : String
  artifact : String

variable {κ α β : Type} {own : Belongings} {made : Bool}

namespace Access

/-- Whether a run may make an access, by whether its directory is there. -/
def Permitted (own : Belongings) (made : Bool) : Access α → Prop
  | .find path => made = true ∧ path = own.artifact
  | .createDirAll path => made = false ∧ path = own.directory
  | .removeDirAll path => path = own.directory
  | .extract _ dest => made = true ∧ dest = own.artifact
  | .ask container _ => container = own.container
  | .now | .workingPath | .ping | .pull _ | .build _ | .imageId _ => True

/-- Whether a run's directory is there after an access, by its answer. -/
def leaves (made : Bool) : Access α → α → Bool
  | .createDirAll _, answer => answer.toBool
  | .removeDirAll _, _ => false
  | .find _, _ | .extract _ _, _ | .ask _ _, _ | .now, _ | .workingPath, _ | .ping, _ | .pull _, _
  | .build _, _ | .imageId _, _ => made

end Access

namespace Program

/-- Every access of a program is permitted, whatever the answers before it were, and at its end the
directory and the result are as told. -/
def Keeps (own : Belongings) : Program α → Bool → (Bool → α → Prop) → Prop
  | .done result, made, told => told made result
  | .step access next, made, told =>
    access.Permitted own made ∧ ∀ answer, (next answer).Keeps own (access.leaves made answer) told

namespace Keeps

variable {program : Program α} {told : Bool → α → Prop}

theorem bind {next : α → Program β} {last : Bool → β → Prop} (h : program.Keeps own made told)
    (hnext : ∀ made a, told made a → (next a).Keeps own made last) :
    (program >>= next).Keeps own made last := by
  induction program generalizing made with
  | done result => exact hnext made result h
  | step access rest ih => exact ⟨h.1, fun answer => ih answer (h.2 answer)⟩

/-- The bind of programs that may fail. -/
theorem run_bind {program : ExceptT Failure Program α} {next : α → ExceptT Failure Program β}
    {told : Bool → Except Failure α → Prop} {last : Bool → Except Failure β → Prop}
    (h : Keeps own program.run made told)
    (hnext : ∀ made a, told made (.ok a) → Keeps own (next a).run made last)
    (herror : ∀ made failure, told made (.error failure) → last made (.error failure)) :
    Keeps own (program >>= next).run made last := by
  change Keeps own (program.run >>= ExceptT.bindCont next) made last
  refine h.bind fun made answer htold => ?_
  cases answer with
  | ok a => exact hnext made a htold
  | error failure => exact herror made failure htold

theorem access {access : Access α} (h : access.Permitted own made) :
    (Program.access access).Keeps own made fun after answer =>
      after = access.leaves made answer :=
  ⟨h, fun _ => rfl⟩

/-- An access that does not matter to the directory, and what follows it. -/
theorem step {access : Access α} {next : α → Program β} {last : Bool → β → Prop}
    (h : access.Permitted own made)
    (hnext : ∀ answer, (next answer).Keeps own (access.leaves made answer) last) :
    (Program.access access >>= next).Keeps own made last :=
  ⟨h, hnext⟩

section Failing

variable {last : Bool → Except Failure β → Prop}

/-- An access within a program that may fail. -/
theorem run_step {access : Access α} {next : α → ExceptT Failure Program β}
    (h : access.Permitted own made)
    (hnext : ∀ answer, Keeps own (next answer).run (access.leaves made answer) last) :
    Keeps own ((monadLift (Program.access access) : ExceptT Failure Program α) >>= next).run made
      last :=
  ⟨h, hnext⟩

/-- A check, within a program that may fail. -/
theorem run_check {check : Except Failure α} {next : α → ExceptT Failure Program β}
    (hnext : ∀ a, Keeps own (next a).run made last)
    (herror : ∀ failure, last made (.error failure)) :
    Keeps own ((ExceptT.mk (pure check) : ExceptT Failure Program α) >>= next).run made last := by
  cases check with
  | ok a => exact hnext a
  | error failure => exact herror failure

end Failing

end Keeps

/-! ## Builder containers -/

theorem keeps_canExecute : canExecute.Keeps own made fun after _ => after = made :=
  .step trivial fun _ => rfl

section Container

variable {name : String} (hname : name = own.container)
include hname

theorem keeps_removeContainer : (removeContainer name).Keeps own made fun after _ => after = made :=
  .step hname fun _ => rfl

theorem keeps_startContainer :
    (startContainer name).Keeps own made fun after _ => after = made := by
  refine .step hname fun answer => ?_
  cases answer with
  | ok _ => rfl
  | error fault => exact (keeps_removeContainer hname).bind fun _ _ h => h

end Container

theorem keeps_spawn {spec : JobSpec} (hspec : Engine.containerName spec.id = own.container) :
    (spawn spec).Keeps own made fun after spawned =>
      after = made ∧ ∀ handle, spawned = .ok handle → handle.id = spec.id := by
  refine .step trivial fun _ => .step hspec fun answer => ?_
  cases answer with
  | error fault => exact ⟨rfl, nofun⟩
  | ok containerId =>
      refine (keeps_startContainer hspec).bind fun after started hstarted => ?_
      cases started with
      | error failure => exact ⟨hstarted, nofun⟩
      | ok _ => exact ⟨hstarted, fun handle h => Except.ok.inj h ▸ rfl⟩

theorem keeps_logLines (chunks : EngineStream LogChunk) :
    (logLines chunks).Keeps own made fun after _ => after = made := by
  induction chunks with
  | nil => rfl
  | cons item rest ih =>
      cases item with
      | error fault => exact ih
      | ok chunk => exact .step trivial fun _ => ih.bind fun _ _ h => h

section Handle

variable {handle : JobHandle} (hhandle : Engine.containerName handle.id = own.container)
include hhandle

theorem keeps_jobLogs : (jobLogs handle).Keeps own made fun after _ => after = made :=
  .step hhandle fun chunks => (keeps_logLines chunks).bind fun _ _ h => h

theorem keeps_status : (status handle).Keeps own made fun after _ => after = made := by
  refine .step hhandle fun answer => ?_
  rcases answer with fault | - | state
  · rfl
  · rfl
  · exact .step trivial fun _ => rfl

theorem keeps_waitForJob : (waitForJob handle).Keeps own made fun after _ => after = made := by
  refine (keeps_status hhandle).bind fun after answer hafter => ?_
  subst hafter
  cases answer with
  | error failure => rfl
  | ok current =>
      dsimp only
      split
      · rfl
      · refine .step hhandle fun codes => ?_
        refine (keeps_status hhandle).bind fun last answer hlast => ?_
        cases answer <;> exact hlast

theorem keeps_copyOut (path : String) :
    (copyOut handle path own.artifact).Keeps own true fun after _ => after = true := by
  refine .step hhandle fun parts => ?_
  cases Engine.collected parts with
  | error fault => rfl
  | ok archive => exact .access ⟨rfl, rfl⟩

end Handle

/-! ## Image builds -/

theorem keeps_assemble {request : AssemblyRequest}
    (hrequest : request.artifact.stagedPath = own.artifact) :
    (assemble request).Keeps own true fun _ _ => True := by
  refine .step ⟨rfl, hrequest⟩ fun found => ?_
  cases packed request found with
  | error failure => trivial
  | ok context =>
      refine .step trivial fun messages => ?_
      rcases Engine.builtImage none messages with failure | - | id
      · trivial
      · refine .step trivial fun answer => ?_
        rcases answer with fault | - | id <;> trivial
      · trivial

end Program

/-! ## Whole runs -/

namespace Assignment

open Program

variable (run : Assignment) (stagingDir : String)

/-- What is the run's own. -/
def belongings : Belongings :=
  ⟨Engine.containerName run.id, run.directory stagingDir, run.artifact stagingDir⟩

/-- A handoff is that of the run's own artifact, and its directory is there. -/
def Handed (made : Bool) (result : Except Failure Handoff) : Prop :=
  ∀ handoff, result = .ok handoff →
    made = true ∧ handoff.artifact.stagedPath = run.artifact stagingDir

theorem handed_error (failure : Failure) : run.Handed stagingDir made (.error failure) :=
  nofun

theorem keeps_discard :
    (run.discard stagingDir).Keeps (run.belongings stagingDir) made fun _ _ => True := by
  unfold discard
  cases run.retain with
  | true => trivial
  | false => exact ⟨rfl, fun _ => trivial⟩

theorem keeps_verify :
    (run.verify stagingDir).Keeps (run.belongings stagingDir) true fun after result =>
      after = true ∧ ∀ artifact, result = .ok artifact →
        artifact.stagedPath = run.artifact stagingDir := by
  have hlook : (Program.access (.find (run.artifact stagingDir))).Keeps (run.belongings stagingDir)
      true fun after _ => after = true := .access ⟨rfl, rfl⟩
  have hread : Keeps (run.belongings stagingDir)
      (do pure (run.inspect (run.artifact stagingDir)
        (← Program.access (.find (run.artifact stagingDir))))) true fun after _ => after = true :=
    hlook.bind fun _ _ h => h
  refine Keeps.run_bind hread (fun made inspection hmade => ?_) fun made failure hmade =>
    ⟨hmade, nofun⟩
  subst hmade
  refine Keeps.run_check (fun _ => ?_) fun failure => ⟨rfl, nofun⟩
  refine Keeps.run_step ⟨rfl, rfl⟩ fun found => ?_
  refine Keeps.run_check (fun ⟨size, digest⟩ => ?_) fun failure => ⟨rfl, nofun⟩
  exact Keeps.run_step trivial fun producedAt => ⟨rfl, fun artifact h => Except.ok.inj h ▸ rfl⟩

theorem keeps_collect {handle : JobHandle} (hhandle : handle.id = run.id) (fingerprint : String) :
    (run.collect stagingDir handle fingerprint).Keeps (run.belongings stagingDir) false
      fun after result => run.Handed stagingDir after result := by
  have hcontainer : Engine.containerName handle.id = (run.belongings stagingDir).container :=
    congrArg Engine.containerName hhandle
  refine Keeps.run_bind (keeps_waitForJob hcontainer) (fun made result hmade => ?_)
    fun _ failure _ => run.handed_error stagingDir failure
  subst hmade
  dsimp only
  cases Job.failureOfExit result.exitCode run.definition.builder.artifactPath with
  | some failure => exact run.handed_error stagingDir failure
  | none =>
      have hprepare : Keeps (run.belongings stagingDir)
          (do pure ((← Program.access (.createDirAll (run.directory stagingDir))).mapError
            Failure.io)) false fun after prepared => after = prepared.toBool :=
        .step ⟨rfl, rfl⟩ fun answer => by cases answer <;> rfl
      refine Keeps.run_bind hprepare (fun made _ hmade => ?_)
        fun _ failure _ => run.handed_error stagingDir failure
      subst hmade
      refine Keeps.run_bind (keeps_copyOut hcontainer _) (fun made size hmade => ?_)
        fun _ failure _ => run.handed_error stagingDir failure
      subst hmade
      refine Keeps.run_bind (run.keeps_verify stagingDir) (fun made artifact hverified => ?_)
        fun _ failure _ => run.handed_error stagingDir failure
      intro handoff hhandoff
      cases hhandoff
      exact ⟨hverified.1, hverified.2 artifact rfl⟩

theorem keeps_follow {handle : JobHandle} (hhandle : handle.id = run.id) (fingerprint : String) :
    (run.follow stagingDir handle fingerprint).Keeps (run.belongings stagingDir) false
      fun after result => run.Handed stagingDir after result.1 := by
  have hcontainer : Engine.containerName handle.id = (run.belongings stagingDir).container :=
    congrArg Engine.containerName hhandle
  refine (keeps_jobLogs hcontainer).bind fun after answer hafter => ?_
  subst hafter
  cases answer with
  | error failure => exact run.handed_error stagingDir failure
  | ok lines => exact (run.keeps_collect stagingDir hhandle fingerprint).bind fun _ _ h => h

theorem keeps_produce (fingerprint : String) :
    (run.produce stagingDir fingerprint).Keeps (run.belongings stagingDir) false
      fun after result => run.Handed stagingDir after result.1 := by
  refine .step trivial fun workingDir => ?_
  cases hjob : Job.ofBuilder workingDir run.id run.definition.builder with
  | error failure => exact run.handed_error stagingDir failure
  | ok job =>
      have hid : job.id = run.id := (BuildEnvironment.job_of_ofBuilder hjob).2.2.2.2
      have hcontainer : Engine.containerName job.id = (run.belongings stagingDir).container :=
        congrArg Engine.containerName hid
      refine keeps_canExecute.bind fun after available hafter => ?_
      subst hafter
      cases available with
      | false => exact run.handed_error stagingDir _
      | true =>
          refine (keeps_spawn hcontainer).bind fun after spawned ⟨hafter, hspawned⟩ => ?_
          subst hafter
          cases spawned with
          | error failure => exact run.handed_error stagingDir failure
          | ok handle =>
              -- The container of the handle is the run's own, since its job is the run's.
              have hhandle : handle.id = run.id := (hspawned handle rfl).trans hid
              refine (run.keeps_follow stagingDir hhandle fingerprint).bind
                fun after ⟨result, lines⟩ hhanded => ?_
              refine (keeps_removeContainer (congrArg Engine.containerName hhandle)).bind
                fun last _ hlast => ?_
              subst hlast
              cases result with
              | ok handoff => exact hhanded
              | error failure =>
                  exact (run.keeps_discard stagingDir).bind fun _ _ _ =>
                    run.handed_error stagingDir failure

theorem keeps_package {handoff : Handoff}
    (hhandoff : handoff.artifact.stagedPath = run.artifact stagingDir) :
    (run.package handoff).Keeps (run.belongings stagingDir) true fun _ _ => True := by
  refine Keeps.run_step ⟨rfl, hhandoff⟩ fun found => ?_
  refine Keeps.run_check (fun _ => ?_) fun failure => trivial
  refine Keeps.run_check (fun tag => ?_) fun failure => trivial
  refine Keeps.run_bind (keeps_assemble hhandoff) (fun made id _ => ?_) fun _ failure _ => trivial
  exact Keeps.run_step trivial fun createdAt => trivial

theorem keeps_fail (record : RunRecord) (stage : Stage) (failure : Failure) :
    (fail record stage failure).Keeps (run.belongings stagingDir) made fun _ _ => True :=
  .step trivial fun _ => trivial

theorem keeps_packageStage (record : RunRecord) {handoff : Handoff}
    (hhandoff : handoff.artifact.stagedPath = run.artifact stagingDir) :
    (run.packageStage stagingDir record handoff).Keeps (run.belongings stagingDir) true
      fun _ _ => True := by
  refine .step trivial fun startedAt => ?_
  refine (run.keeps_package stagingDir hhandoff).bind fun _ packaged _ => ?_
  refine (run.keeps_discard stagingDir).bind fun _ _ _ => ?_
  cases packaged with
  | ok image => exact .step trivial fun _ => .step trivial fun _ => .step trivial fun _ => trivial
  | error failure =>
      refine .step trivial fun _ => ?_
      exact (run.keeps_fail stagingDir _ .runtime failure).bind fun _ _ _ => trivial

theorem keeps_concludeBuild (record : RunRecord) (startedAt : Instant) {after : Bool}
    {produced : Except Failure Handoff} (hhanded : run.Handed stagingDir after produced) :
    (run.concludeBuild stagingDir record startedAt produced).Keeps (run.belongings stagingDir)
      after fun _ _ => True := by
  cases produced with
  | error failure =>
      refine (run.keeps_discard stagingDir).bind fun _ _ _ => .step trivial fun _ => ?_
      exact run.keeps_fail stagingDir _ .builder failure
  | ok handoff =>
      obtain ⟨rfl, hhandoff⟩ := hhanded handoff rfl
      refine .step trivial fun _ => ?_
      exact (run.keeps_packageStage stagingDir _ hhandoff).bind fun _ _ _ => trivial

theorem keeps_buildStage (record : RunRecord) :
    (run.buildStage stagingDir record).Keeps (run.belongings stagingDir) false
      fun _ _ => True := by
  refine .step trivial fun startedAt => ?_
  refine (run.keeps_produce stagingDir record.fingerprint).bind
    fun after ⟨produced, lines⟩ hhanded => ?_
  exact (run.keeps_concludeBuild stagingDir record startedAt hhanded).bind
    fun _ _ _ => trivial

/-- A run touches nothing but its own. -/
theorem keeps_program :
    (run.program stagingDir).Keeps (run.belongings stagingDir) false fun _ _ => True := by
  refine .step trivial fun createdAt => ?_
  dsimp only
  cases run.precheck (RunRecord.start run.id run.definition createdAt).fingerprint with
  | error failure => exact run.keeps_fail stagingDir _ .builder failure
  | ok _ => exact run.keeps_buildStage stagingDir _

end Assignment

end SealedBuild
