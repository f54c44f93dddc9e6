import SealedBuild.Proofs.Artifact.Handoff
import SealedBuild.Proofs.Artifact.StagedPath
import SealedBuild.Proofs.Definition
import SealedBuild.Proofs.Files.Placing
import SealedBuild.Proofs.Run.Stages
import SealedBuild.Rehearsal

/-!
# Runs by the answers of their backends

What a run comes to is a matter of its definition and of what its backends answer: it fails where
the answers say so, with a failure of the kind that they say, or makes what they say. The run's
identifier, the clock and the place of its staging directory have no part in it, as long as that
directory works.
-/

namespace SealedBuild

variable {σ α α' β β' : Type}

/-- The reports of two failures name one class. -/
def Failure.SameKind (first second : Failure) : Prop :=
  first.kind = second.kind

/-- An action ended as expected: with a value and a world as they are to be, or with a failure of
the expected kind. -/
def Settles (expected : Except Failure α) (ended : Except Failure β × World σ)
    (good : α → β → World σ → Prop) : Prop :=
  EndAlike Failure.SameKind (fun a b => good a b ended.2) expected ended.1

namespace Settles

variable {expected : Except Failure α} {next : α → Except Failure β} {world : World σ}
  {good : α → α' → World σ → Prop} {later : β → β' → World σ → Prop}

/-- A step that only passes an outcome on. -/
theorem of_outcome (outcome : Except Failure α) (world : World σ) :
    Settles outcome (outcome, world) fun a b after => b = a ∧ after = world := by
  cases outcome with
  | error failure => exact .error rfl
  | ok a => exact .ok ⟨rfl, rfl⟩

/-- Of an expected failure only its kind counts. -/
theorem of_sameKind {failure failure' : Failure} {ended : Except Failure α' × World σ}
    (hkind : failure.kind = failure'.kind) (h : Settles (.error failure) ended good) :
    Settles (.error failure') ended good := by
  unfold Settles at h ⊢
  cases hended : ended.1 with
  | ok a =>
      rw [hended] at h
      cases h
  | error other =>
      rw [hended] at h
      cases h with
      | error h => exact .error (hkind.symm.trans h)

/-- A bind ends as a chain of expectations if its steps do. -/
theorem run_bind {action : ExceptT Failure (Act σ) α'} {rest : α' → ExceptT Failure (Act σ) β'}
    (haction : Settles expected (action.run world) good)
    (hrest : ∀ a a' after, good a a' after → Settles (next a) ((rest a').run after) later) :
    Settles (expected >>= next) ((action >>= rest).run world) later := by
  rw [Act.run_bind]
  rcases hstep : action.run world with ⟨answer, after⟩
  rw [hstep] at haction
  cases haction with
  | ok h => exact hrest _ _ _ h
  | error h => exact .error h

/-- A last step that cannot fail is none of what is expected. -/
theorem run_bind_pure {action : ExceptT Failure (Act σ) α'} {f : α' → β'}
    {later : α → β' → World σ → Prop} (haction : Settles expected (action.run world) good)
    (hlater : ∀ a a' after, good a a' after → later a (f a') after) :
    Settles expected ((action >>= fun a' => Pure.pure (f a')).run world) later := by
  rw [← bind_pure expected]
  exact haction.run_bind fun a a' after h => .ok (hlater a a' after h)

/-- A bind that brings log lines along, and passes a failure on, ends as its steps do. -/
theorem bind_answer {step : Act σ (Except Failure α')}
    {rest : Except Failure α' → Act σ (Except Failure β' × List LogLine)}
    (hfailed : ∀ failure after, (rest (.error failure) after).1.1 = .error failure)
    (hstep : Settles expected (step world) good)
    (hrest : ∀ a a' after, good a a' after →
      Settles (next a) ((rest (.ok a') after).1.1, (rest (.ok a') after).2) later) :
    Settles (expected >>= next) (((step >>= rest) world).1.1, ((step >>= rest) world).2) later := by
  rw [Act.bind_apply]
  rcases hanswer : step world with ⟨answer, after⟩
  rw [hanswer] at hstep
  cases hstep with
  | ok h => exact hrest _ _ _ h
  | error h =>
      unfold Settles
      rw [hfailed]
      exact .error h

end Settles

/-! ## Answers -/

/-- What reading a deposit gives. -/
def Rehearsal.Deposit.content : Rehearsal.Deposit → Except FileFault (List UInt8)
  | .file content => .ok content
  | .directory => .error .isDirectory

/-- What the backends of a run answer, in so far as the run depends on it. -/
structure Answers where
  /-- Whether jobs can be run. -/
  available : Bool
  spawned : Except Failure Unit
  logged : Except Failure Unit
  exitCode : Except Failure (Option Int)
  /-- What lies at the artifact's path in the container. -/
  copied : Except Failure Rehearsal.Deposit
  inspection : Except Failure Inspection
  imageId : Except Failure String

/-- The backends of a builder stage answer so, and leave the files alone but for the file that
they are to copy. -/
structure BuilderStage.Gives (stage : BuilderStage σ) (answers : Answers) : Prop where
  canExecute : ∀ job world,
    (stage.executor.canExecute job world).1 = answers.available ∧
      (stage.executor.canExecute job world).2.files = world.files
  spawn : ∀ job world, Settles answers.spawned (stage.executor.spawn job world)
    fun _ _ after => after.files = world.files
  logs : ∀ handle world, Settles answers.logged (stage.executor.logs handle world)
    fun _ _ after => after.files = world.files
  wait : ∀ handle world, Settles answers.exitCode (stage.executor.wait handle world)
    fun exitCode result after => result.exitCode = exitCode ∧ after.files = world.files
  copyOut : ∀ handle source dest world,
    Settles
      (do
        let deposit ← answers.copied
        let _ ← (deposit.place dest world.files).mapError .io
        pure deposit)
      (stage.executor.copyOut handle source dest world)
      fun deposit _ after => after.files.read dest = deposit.content
  remove : ∀ handle world, (stage.executor.remove handle world).2.files = world.files
  inspect : ∀ path world, Settles answers.inspection (stage.inspector.inspect path world)
    fun inspection found after => found = inspection ∧ after.files = world.files

/-- The assembler of a runtime stage answers so. -/
def RuntimeStage.Gives (stage : RuntimeStage σ) (answers : Answers) : Prop :=
  ∀ request world, Settles answers.imageId (stage.assembler.assemble request world)
    fun imageId id _ => id = imageId

/-! ## What they come to -/

/-- What a builder stage takes out of its container. -/
structure Yield where
  inspection : Inspection
  content : List UInt8

/-- The artifact is recorded as what was taken out. -/
structure Yield.Describes (yield : Yield) (spec : BuilderSpec) (path : String)
    (artifact : CompiledArtifact) : Prop where
  inspected : yield.inspection.Describes spec path artifact
  size : artifact.size = yield.content.length
  checksum : artifact.checksum = Sha256.hex yield.content

/-- What was taken out lies staged at a path, and is handed off as it is. -/
structure Yield.HandedOff (yield : Yield) (spec : BuilderSpec) (path fingerprint : String)
    (handoff : Handoff) (files : FileTree) : Prop where
  fingerprint : handoff.fingerprint = fingerprint
  described : yield.Describes spec path handoff.artifact
  staged : files.read path = .ok yield.content

namespace Answers

variable (answers : Answers) (spec : BuilderSpec)

/-- The check of what was copied. -/
def examined (deposit : Rehearsal.Deposit) : Except Failure Yield := do
  let inspection ← answers.inspection
  inspection.verify spec.environment.flags spec.environment.crypto
  let content ← deposit.content.mapError .io
  pure ⟨inspection, content⟩

/-- What is taken out of the container. A name that no directory can hold is refused. -/
def taken : Except Failure Rehearsal.Deposit := do
  let deposit ← answers.copied
  if FileTree.Storable spec.artifactName then pure deposit else throw (.io .nameTooLong)

/-- The end of a job, and the taking out of its artifact. -/
def collected : Except Failure Yield := do
  let exitCode ← answers.exitCode
  match Job.failureOfExit exitCode spec.artifactPath with
  | some failure => throw failure
  | none => pure ()
  let deposit ← answers.taken spec
  answers.examined spec deposit

/-- The builder stage. -/
def built : Except Failure Yield := do
  if spec.source.any fun source => source.hostDir.isEmpty then throw (.io .emptyPath)
  if !answers.available then throw (.internal "")
  answers.spawned
  answers.logged
  answers.collected spec

end Answers

/-! ## The builder stage -/

namespace BuilderStage

variable {stage : BuilderStage σ} {answers : Answers} {id : RunId} {spec : BuilderSpec}
  {fingerprint : String} {world : World σ}

theorem settles_checksum {files : FileTree} {path : String} {deposit : Rehearsal.Deposit}
    (hread : files.read path = deposit.content) (world : World σ) :
    Settles (deposit.content.mapError .io) ((checksum files path).mapError .io, world)
      fun content measured after => measured = (content.length, Sha256.hex content) ∧
        after = world ∧ files.read path = .ok content := by
  unfold checksum
  rw [hread]
  cases deposit with
  | file content => exact .ok ⟨rfl, rfl, rfl⟩
  | directory => exact .error rfl

/-- The staged file is checked and measured as what was copied. -/
theorem settles_verify (hstage : stage.Gives answers) {path : String}
    {deposit : Rehearsal.Deposit} (hread : world.files.read path = deposit.content) :
    Settles (answers.examined spec deposit) (stage.verify spec path world)
      fun yield artifact after => yield.Describes spec path artifact ∧
        after.files.read path = .ok yield.content := by
  unfold verify Answers.examined
  refine .run_bind (hstage.inspect path world) ?_
  rintro _ inspection inspected ⟨rfl, hfiles⟩
  rw [← hfiles] at hread
  refine .run_bind (.of_outcome _ inspected) ?_
  rintro _ _ checked ⟨-, rfl⟩
  rw [Act.run_bind, Act.run_lift]
  refine .run_bind (settles_checksum hread checked) ?_
  rintro content _ measured ⟨rfl, rfl, hcontent⟩
  exact .ok ⟨⟨⟨rfl, rfl, rfl, rfl, rfl, rfl⟩, rfl, rfl⟩, hcontent⟩

/-! ## Staging directories that work -/

/-- The files once a run has made its own directory. -/
def prepared (stage : BuilderStage σ) (id : RunId) (files : FileTree) : FileTree :=
  (files.createDirAll (stage.runStaging id)).1

/-- The run's own directory can be made. It is empty then, and its path leaves room for a name. -/
structure Working (stage : BuilderStage σ) (id : RunId) (files : FileTree) : Prop where
  made : (files.createDirAll (stage.runStaging id)).2 = .ok ()
  empty : ∀ name, (stage.prepared id files).get?
    ((stage.prepared id files).target (stage.runStaging id) ++ [name]) = none
  short : (stage.runStaging id).utf8ByteSize + 1 + FileTree.longestName ≤ FileTree.longestPath

variable {files : FileTree}

theorem Working.roomy (h : stage.Working id files) :
    (stage.prepared id files).Roomy (stage.runStaging id) where
  found := by
    have hmade : files.createDirAll (stage.runStaging id) = (stage.prepared id files, .ok ()) := by
      rw [prepared, ← h.made]
    obtain ⟨opened, -, ⟨⟨_, hfault⟩, -⟩ | ⟨-, -, hfound⟩⟩ :=
      FileTree.opens_createDirAll id.ordinary_short hmade
    · cases hfault
    · exact hfound
  slash := HostPath.endsWith_join id.ordinary_short
  short := h.short

/-- In a working directory an artifact finds its place exactly when a directory can hold its
name. -/
theorem Working.exists_place_iff (h : stage.Working id files) (hvalid : spec.validate = .ok ())
    (deposit : Rehearsal.Deposit) :
    (∃ placed, deposit.place (stage.stagedPath id spec) (stage.prepared id files) = .ok placed) ↔
      FileTree.Storable spec.artifactName := by
  have hroomy := h.roomy
  cases hname : HostPath.fileName? spec.artifactPath with
  | none =>
      have habsolute := spec.isAbsolute_artifactPath hvalid
      have hpath : stage.stagedPath id spec = spec.artifactPath := by
        rw [stagedPath, spec.artifactName_of_fileName?_eq_none hname, HostPath.join, habsolute,
          if_pos rfl]
      refine iff_of_false ?_ fun hstorable =>
        spec.not_ordinary_of_fileName?_eq_none hvalid hname hstorable.1
      rintro ⟨placed, hplaced⟩
      rw [hpath] at hplaced
      cases deposit with
      | file content => exact FileTree.write_ne_ok_of_nameless habsolute hname content hplaced
      | directory => exact FileTree.createDir_ne_ok_of_nameless habsolute hname hplaced
  | some name =>
      have hordinary : HostPath.Ordinary spec.artifactName := by
        rw [spec.artifactName_of_fileName?_eq_some hname]
        exact HostPath.ordinary_fileName hname
      have hmissing := h.empty spec.artifactName
      constructor
      · rintro ⟨placed, hplaced⟩
        cases deposit with
        | file content => exact hroomy.storable_of_write hordinary hplaced
        | directory => exact hroomy.storable_of_createDir hordinary hplaced
      · intro hstorable
        cases deposit with
        | file content => exact ⟨_, hroomy.write_eq hstorable hmissing content⟩
        | directory => exact ⟨_, hroomy.createDir_eq hstorable hmissing⟩

/-- What is copied into a working directory is what is there, as far as its name allows. -/
theorem settles_copyOut (hstage : stage.Gives answers) (hvalid : spec.validate = .ok ())
    (hworking : stage.Working id world.files) (handle : JobHandle) :
    Settles (answers.taken spec)
      (stage.executor.copyOut handle spec.artifactPath (stage.stagedPath id spec)
        { world with files := stage.prepared id world.files })
      fun deposit _ after => after.files.read (stage.stagedPath id spec) = deposit.content := by
  have hcopied := hstage.copyOut handle spec.artifactPath (stage.stagedPath id spec)
    { world with files := stage.prepared id world.files }
  unfold Answers.taken
  dsimp only at hcopied
  cases hanswer : answers.copied with
  | error failure =>
      rw [hanswer] at hcopied
      exact hcopied
  | ok deposit =>
      have hplace := hworking.exists_place_iff hvalid deposit
      rw [hanswer] at hcopied
      simp only [bind, Except.bind] at hcopied ⊢
      cases hplaced : deposit.place (stage.stagedPath id spec) (stage.prepared id world.files) with
      | ok placed =>
          rw [hplaced] at hcopied
          rw [if_pos (hplace.mp ⟨placed, hplaced⟩)]
          exact hcopied
      | error fault =>
          have hrefused : ¬ FileTree.Storable spec.artifactName := by
            rw [← hplace, hplaced]
            rintro ⟨_, hok⟩
            cases hok
          rw [hplaced] at hcopied
          rw [if_neg hrefused]
          have hfailed : Settles (.error (.io fault)) _ _ := hcopied
          refine .of_sameKind ?_ hfailed
          rfl

/-- A job's artifact is taken out and checked as the answers have it. -/
theorem settles_collect (hstage : stage.Gives answers) (hvalid : spec.validate = .ok ())
    (hworking : stage.Working id world.files) (handle : JobHandle) :
    Settles (answers.collected spec) (stage.collect handle id spec fingerprint world)
      fun yield handoff after =>
        yield.HandedOff spec (stage.stagedPath id spec) fingerprint handoff after.files := by
  unfold collect Answers.collected
  refine .run_bind (hstage.wait handle world) ?_
  rintro exitCode result waited ⟨rfl, hfiles⟩
  cases Job.failureOfExit result.exitCode spec.artifactPath with
  | some failure => exact .error rfl
  | none =>
      dsimp only
      rw [← hfiles] at hworking
      rw [Act.run_bind, Act.run_mk, prepare_apply, hworking.made, ← prepared]
      refine .run_bind (settles_copyOut hstage hvalid hworking handle) ?_
      intro deposit _ copied hread
      refine .run_bind_pure (settles_verify hstage hread) ?_
      rintro yield artifact after ⟨hdescribes, hkept⟩
      exact ⟨rfl, hdescribes, hkept⟩

theorem settles_follow (hstage : stage.Gives answers) (hvalid : spec.validate = .ok ())
    (hworking : stage.Working id world.files) (handle : JobHandle) :
    Settles (do answers.logged; answers.collected spec)
      ((stage.follow handle id spec fingerprint world).1.1,
        (stage.follow handle id spec fingerprint world).2)
      fun yield handoff after =>
        yield.HandedOff spec (stage.stagedPath id spec) fingerprint handoff after.files := by
  refine .bind_answer (fun _ _ => rfl) (hstage.logs handle world) ?_
  intro _ lines logged hfiles
  rw [← hfiles] at hworking
  exact settles_collect hstage hvalid hworking handle

/-- A job can be made unless its source tree has no path. -/
theorem exists_job (workingDir : String) (id : RunId) (spec : BuilderSpec) :
    if spec.source.any fun source => source.hostDir.isEmpty then
      Job.ofBuilder workingDir id spec = .error (.io .emptyPath)
    else ∃ job, Job.ofBuilder workingDir id spec = .ok job := by
  unfold Job.ofBuilder
  cases spec.source with
  | none => exact ⟨_, rfl⟩
  | some source =>
      cases hempty : source.hostDir.isEmpty with
      | true => simp [hempty, HostPath.absolute?]; rfl
      | false => simp [hempty, HostPath.absolute?]; exact ⟨_, rfl⟩

/-- The removal of the container touches nothing that was handed off. -/
theorem settles_release (hstage : stage.Gives answers) (handle : JobHandle) {path : String}
    {expected : Except Failure Yield} {result : Except Failure Handoff}
    (h : Settles expected (result, world) fun yield handoff after =>
      yield.HandedOff spec path fingerprint handoff after.files) (lines : List LogLine) :
    let action : Act σ (Except Failure Handoff × List LogLine) := do
      let _ ← stage.executor.remove handle
      if let .error _ := result then stage.discard id
      pure (result, lines)
    Settles expected ((action world).1.1, (action world).2) fun yield handoff after =>
      yield.HandedOff spec path fingerprint handoff after.files := by
  intro action
  have hremoved := hstage.remove handle world
  cases h with
  | error h => exact .error h
  | ok h =>
      rw [← hremoved] at h
      exact .ok h

/-- A builder stage in a working directory makes what the answers have it make. -/
theorem settles_of_produce {result : Except Failure Handoff} {lines : List LogLine}
    {finish : World σ} (hstage : stage.Gives answers) (hvalid : spec.validate = .ok ())
    (h : stage.produce id spec fingerprint world = ((result, lines), finish))
    (hworking : stage.Working id world.files) :
    Settles (answers.built spec) (result, finish) fun yield handoff after =>
      yield.HandedOff spec (stage.stagedPath id spec) fingerprint handoff after.files := by
  have hended : (result, finish) =
      ((stage.produce id spec fingerprint world).1.1,
        (stage.produce id spec fingerprint world).2) := by rw [h]
  rw [hended]
  clear h hended
  have hjob := exists_job world.files.workingPath id spec
  unfold produce Answers.built
  rw [Act.bind_apply]
  dsimp only [Act.files]
  cases hsource : spec.source.any fun source => source.hostDir.isEmpty with
  | true =>
      rw [if_pos hsource] at hjob
      rw [hjob]
      exact .error rfl
  | false =>
      rw [if_neg (by simp [hsource])] at hjob
      obtain ⟨job, hjob⟩ := hjob
      rw [hjob]
      dsimp only
      obtain ⟨hanswer, hasking⟩ := hstage.canExecute job world
      rw [Act.bind_apply, hanswer]
      generalize (stage.executor.canExecute job world).2 = asked at hasking ⊢
      cases answers.available with
      | false => exact .error rfl
      | true =>
          simp only [Bool.false_eq_true, if_false, Bool.not_true, if_true]
          refine .bind_answer (fun _ _ => rfl) (hstage.spawn job asked) ?_
          intro _ handle spawned hspawning
          rw [← hasking, ← hspawning] at hworking
          exact settles_release hstage handle (settles_follow hstage hvalid hworking handle) _

end BuilderStage

/-! ## The runtime stage -/

/-- What was handed off passes the check of the runtime stage. -/
theorem Yield.HandedOff.check {yield : Yield} {spec : BuilderSpec} {path fingerprint : String}
    {handoff : Handoff} {files : FileTree}
    (h : yield.HandedOff spec path fingerprint handoff files) : handoff.check files = .ok () := by
  obtain ⟨mode, hfind⟩ := FileTree.read_eq_ok_iff.mp h.staged
  rw [← h.described.inspected.stagedPath] at hfind
  exact Handoff.check_eq_ok_iff.mpr
    ⟨mode, yield.content, hfind, h.described.size.symm, h.described.checksum.symm⟩

/-- Once the handoff is good and the tag settled, packaging is up to the assembler. -/
theorem RuntimeStage.settles_of_package {stage : RuntimeStage σ} {answers : Answers}
    {pipeline tag : String} {spec : RuntimeSpec} {handoff : Handoff} {world : World σ}
    {ended : Except Failure RuntimeImage × World σ} (hstage : stage.Gives answers)
    (h : stage.package pipeline spec handoff world = ended)
    (hcheck : handoff.check world.files = .ok ())
    (htag : resolveTag stage.tag pipeline spec handoff.fingerprint = .ok tag) :
    Settles answers.imageId ended fun imageId image _ => image.id = imageId := by
  have hverify : handoff.verify world.files = .ok () := mapError_eq_ok_iff.mpr hcheck
  rw [← h]
  unfold package
  rw [Act.run_bind, Act.run_lift]
  dsimp only [Act.files]
  rw [hverify, htag, Act.run_bind]
  dsimp only [Act.run_mk, Act.pure_apply]
  rw [Act.run_bind]
  dsimp only [Act.run_mk, Act.pure_apply]
  rw [← bind_pure answers.imageId]
  refine .run_bind (hstage _ world) ?_
  rintro _ imageId assembled rfl
  exact .ok rfl

end SealedBuild
