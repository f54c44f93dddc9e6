import SealedBuild.Proofs.Image.Context
import SealedBuild.Proofs.Run.Answers
import SealedBuild.Proofs.Run.Staging

/-!
# Builds made again

Two runs of one definition whose backends give the same answers end alike, whatever their
identifiers, their clocks and the places of their staging directories are: both fail in one stage
with failures of one kind, or both are packaged, with images that agree in all but the times and
the staged path, and from archives that agree byte by byte.
-/

namespace SealedBuild

variable {σ τ : Type}

/-! ## What a run is decided by -/

/-- The end of a run that was checked so beforehand: the stage that fails and how, or what was
taken out and the id of the image. -/
def Answers.verdict (answers : Answers) (checked : Except Failure Unit) (spec : BuilderSpec) :
    Except (Stage × Failure) (Yield × String) := do
  checked.mapError (Stage.builder, ·)
  let yield ← (answers.built spec).mapError (Stage.builder, ·)
  let imageId ← answers.imageId.mapError (Stage.runtime, ·)
  pure (yield, imageId)

/-- The request that an image of a definition was made from. -/
def RuntimeImage.request (definition : PipelineDefinition) (image : RuntimeImage) :
    AssemblyRequest :=
  .ofArtifact definition.runtime image.artifact image.tag definition.name definition.fingerprint

/-- An image of a definition that was made from what was taken out, and whose request found it
staged. -/
structure Yield.Packaged (yield : Yield) (definition : PipelineDefinition)
    (override : Option String) (imageId : String) (image : RuntimeImage) (ledger : Ledger) :
    Prop where
  id : image.id = imageId
  tag : RuntimeStage.resolveTag override definition.name definition.runtime
    definition.fingerprint = .ok image.tag
  baseImage : image.baseImage = definition.runtime.baseImage
  destination : image.destination = definition.runtime.destination
  entryCommand : image.entryCommand = definition.runtime.entryCommand
  fingerprint : image.fingerprint = definition.fingerprint
  described : yield.Describes definition.builder image.artifact.stagedPath image.artifact
  assembled : ∃ entry ∈ ledger.getLast?,
    entry.dealing = .assemble (image.request definition) (.ok image.id) ∧
      entry.before.read image.artifact.stagedPath = .ok yield.content

/-- A run has ended by a verdict. -/
inductive RunOutcome.EndsBy (outcome : RunOutcome) (definition : PipelineDefinition)
    (override : Option String) (ledger : Ledger) :
    Except (Stage × Failure) (Yield × String) → Prop where
  | failed {stage : Stage} {failure failure' : Failure} (hkind : failure.SameKind failure')
      (hstate : outcome.run.state = .failed stage failure'.kind failure'.message)
      (himage : outcome.image = none) :
      EndsBy outcome definition override ledger (.error (stage, failure))
  | packaged {yield : Yield} {imageId : String} {image : RuntimeImage}
      (hstate : outcome.run.state = .packaged) (himage : outcome.image = some image)
      (hpackaged : yield.Packaged definition override imageId image ledger) :
      EndsBy outcome definition override ledger (.ok (yield, imageId))

/-! ## Answers and ledgers -/

theorem BuilderStage.Gives.entered {stage : BuilderStage σ} {answers : Answers}
    (h : stage.Gives answers) : stage.entered.Gives answers where
  canExecute job world := h.canExecute job world.closed
  spawn job world := h.spawn job world.closed
  logs handle world := h.logs handle world.closed
  wait handle world := h.wait handle world.closed
  copyOut handle source dest world := h.copyOut handle source dest world.closed
  remove handle world := h.remove handle world.closed
  inspect path world := h.inspect path world.closed

theorem RuntimeStage.Gives.entered {stage : RuntimeStage σ} {answers : Answers}
    (h : stage.Gives answers) : stage.entered.Gives answers :=
  fun request world => h request world.closed

theorem BuilderStage.Working.entered {stage : BuilderStage σ} {id : RunId} {files : FileTree}
    (h : stage.Working id files) : stage.entered.Working id files :=
  ⟨h.made, h.empty, h.short⟩

namespace Orchestrator

variable {answers : Answers} {stage : BuilderStage σ} {runtime : RuntimeStage σ} {id : RunId}
  {definition : PipelineDefinition} {world : World σ}

theorem checked_of_precheck {o : Orchestrator σ} {fingerprint : String}
    (h : o.precheck definition fingerprint = .ok ()) : definition.builder.validate = .ok () :=
  mapError_eq_ok_iff.mpr
    (PipelineDefinition.validate_eq_ok_iff.mp (validate_of_precheck h)).2.1

theorem resolved_of_precheck {o : Orchestrator σ} {fingerprint : String}
    (h : o.precheck definition fingerprint = .ok ()) :
    ∃ tag, RuntimeStage.resolveTag o.runtime.tag definition.name definition.runtime fingerprint =
      .ok tag := by
  obtain ⟨-, hresolves⟩ := check_bind_eq_ok_iff.mp h
  obtain ⟨tag, htag, -⟩ := bind_eq_ok_iff.mp hresolves
  exact ⟨tag, htag⟩

/-- A runtime stage that made an image of what was handed off has it packaged. -/
theorem packaged_of_assembly {yield : Yield} {handoff : Handoff} {image : RuntimeImage}
    {imageId path : String} {start finish : World (σ × Ledger)} {ledger : Ledger}
    (a : runtime.entered.Assembly definition.name definition.runtime handoff start finish image)
    (hid : image.id = imageId)
    (hhanded : yield.HandedOff definition.builder path definition.fingerprint handoff start.files)
    (hentry : ledger.getLast? = some a.entry) :
    yield.Packaged definition runtime.tag imageId image ledger := by
  have hpath : image.artifact.stagedPath = path := by
    rw [a.artifact]
    exact hhanded.described.inspected.stagedPath
  have hresolved := a.resolved
  rw [hhanded.fingerprint] at hresolved
  exact {
    id := hid
    tag := hresolved
    baseImage := a.baseImage
    destination := a.destination
    entryCommand := a.entryCommand
    fingerprint := a.fingerprint.trans hhanded.fingerprint
    described := by
      rw [hpath, a.artifact]
      exact hhanded.described
    assembled := by
      refine ⟨a.entry, hentry, ?_, hpath ▸ hhanded.staged⟩
      rw [RuntimeImage.request, a.artifact, ← hhanded.fingerprint]
      rfl }

/-- Once an artifact was handed off, only the answer of the assembler is open. -/
theorem settles_of_stages {handoff : Handoff} {lines : List LogLine} {built : World (σ × Ledger)}
    {ended : Except Failure RuntimeImage × World (σ × Ledger)}
    (hstage : stage.Gives answers) (hruntime : runtime.Gives answers)
    (hworking : stage.Working id world.files)
    (hprecheck : (ofStages stage.entered runtime.entered).precheck definition
      definition.fingerprint = .ok ())
    (hproduce : stage.entered.produce id definition.builder definition.fingerprint
      world.opened.tick.tick = ((.ok handoff, lines), built))
    (hpackage : runtime.entered.package definition.name definition.runtime handoff
      built.tick.tick = ended) :
    ∃ yield, answers.built definition.builder = .ok yield ∧
      yield.HandedOff definition.builder (stage.stagedPath id definition.builder)
        definition.fingerprint handoff built.files ∧
      Settles answers.imageId ended fun imageId image _ => image.id = imageId := by
  have hbuilt := BuilderStage.settles_of_produce hstage.entered (checked_of_precheck hprecheck)
    hproduce hworking.entered
  obtain ⟨tag, htag⟩ := resolved_of_precheck hprecheck
  generalize answers.built definition.builder = expected at hbuilt ⊢
  cases hbuilt with
  | ok hhanded =>
      rw [← hhanded.fingerprint] at htag
      exact ⟨_, rfl, hhanded,
        RuntimeStage.settles_of_package hruntime.entered hpackage hhanded.check htag⟩

/-- Each course ends by the verdict of the answers. -/
theorem Course.endsBy {events : List Event} {outcome : RunOutcome} {finish : World (σ × Ledger)}
    (hstage : stage.Gives answers) (hruntime : runtime.Gives answers)
    (hworking : stage.Working id world.files)
    (h : (ofStages stage.entered runtime.entered).Course id definition world.opened events
      outcome finish) :
    outcome.EndsBy definition runtime.tag finish.ledger
      (answers.verdict ((ofStages stage runtime).precheck definition definition.fingerprint)
        definition.builder) := by
  rw [← precheck_entered]
  unfold Answers.verdict
  cases h with
  | refused hprecheck =>
      rw [hprecheck]
      exact .failed rfl rfl rfl
  | unbuilt hprecheck hproduce =>
      have hbuilt := BuilderStage.settles_of_produce hstage.entered
        (checked_of_precheck hprecheck) hproduce hworking.entered
      rw [hprecheck]
      generalize answers.built definition.builder = expected at hbuilt ⊢
      cases hbuilt with
      | error hkind => exact .failed hkind rfl rfl
  | unpackaged hprecheck hproduce hpackage =>
      obtain ⟨yield, hbuilt, -, hpackaged⟩ :=
        settles_of_stages hstage hruntime hworking hprecheck hproduce hpackage
      rw [hprecheck, hbuilt]
      generalize answers.imageId = imageId at hpackaged ⊢
      cases hpackaged with
      | error hkind => exact .failed hkind rfl rfl
  | @packaged handoff lines image built packed dropped hprecheck hproduce hpackage hdiscard =>
      obtain ⟨yield, hbuilt, hhanded, hpackaged⟩ :=
        settles_of_stages hstage hruntime hworking hprecheck hproduce hpackage
      obtain ⟨a⟩ := RuntimeStage.assembly_of_package hpackage
      -- Dropping staged files calls no backend, so the request stays the last call.
      have hledger : dropped.ledger = packed.ledger :=
        hdiscard ▸ BuilderStage.ledger_discard stage id packed
      rw [hprecheck, hbuilt]
      generalize answers.imageId = imageId at hpackaged ⊢
      cases hpackaged with
      | ok hid =>
          refine .packaged rfl rfl (packaged_of_assembly a hid hhanded ?_)
          simp [hledger, a.ledger_eq]

end Orchestrator

/-! ## Two runs -/

/-- The artifacts are told alike in all but the time and the staged path. -/
structure CompiledArtifact.Alike (artifact artifact' : CompiledArtifact) : Prop where
  name : artifact'.name = artifact.name
  sourcePath : artifact'.sourcePath = artifact.sourcePath
  architecture : artifact'.architecture = artifact.architecture
  linkage : artifact'.linkage = artifact.linkage
  stripped : artifact'.stripped = artifact.stripped
  size : artifact'.size = artifact.size
  checksum : artifact'.checksum = artifact.checksum

/-- The images are alike in all but the time, and so are their artifacts. -/
structure RuntimeImage.Alike (image image' : RuntimeImage) : Prop where
  id : image'.id = image.id
  tag : image'.tag = image.tag
  baseImage : image'.baseImage = image.baseImage
  destination : image'.destination = image.destination
  entryCommand : image'.entryCommand = image.entryCommand
  fingerprint : image'.fingerprint = image.fingerprint
  artifact : image.artifact.Alike image'.artifact

/-- The last call of a run asked for the image, and the context of that request, packed when it
was made, is the given one. -/
def RuntimeImage.MadeFrom (image : RuntimeImage) (context : List UInt8) (ledger : Ledger) : Prop :=
  ∃ entry ∈ ledger.getLast?, ∃ request, entry.dealing = .assemble request (.ok image.id) ∧
    BuildContext.pack entry.before request = .ok context

/-- Two runs have ended alike. -/
inductive RunOutcome.Alike (outcome outcome' : RunOutcome) (ledger ledger' : Ledger) : Prop where
  | failed {stage : Stage} {failure failure' : Failure} (hkind : failure.SameKind failure')
      (hstate : outcome.run.state = .failed stage failure.kind failure.message)
      (hstate' : outcome'.run.state = .failed stage failure'.kind failure'.message)
      (himage : outcome.image = none) (himage' : outcome'.image = none)
  | packaged {image image' : RuntimeImage} {context : List UInt8}
      (hstate : outcome.run.state = .packaged) (hstate' : outcome'.run.state = .packaged)
      (himage : outcome.image = some image) (himage' : outcome'.image = some image')
      (halike : image.Alike image') (hcontext : image.MadeFrom context ledger)
      (hcontext' : image'.MadeFrom context ledger')

/-- What was taken out fixes all of the artifact that two runs can have in common. -/
theorem Yield.Describes.alike {yield : Yield} {spec : BuilderSpec} {path path' : String}
    {artifact artifact' : CompiledArtifact} (h : yield.Describes spec path artifact)
    (h' : yield.Describes spec path' artifact') : artifact.Alike artifact' where
  name := h'.inspected.name.trans h.inspected.name.symm
  sourcePath := h'.inspected.sourcePath.trans h.inspected.sourcePath.symm
  architecture := h'.inspected.architecture.trans h.inspected.architecture.symm
  linkage := h'.inspected.linkage.trans h.inspected.linkage.symm
  stripped := h'.inspected.stripped.trans h.inspected.stripped.symm
  size := h'.size.trans h.size.symm
  checksum := h'.checksum.trans h.checksum.symm

namespace Yield.Packaged

variable {yield : Yield} {definition : PipelineDefinition} {override : Option String}
  {imageId : String} {image image' : RuntimeImage} {ledger ledger' : Ledger}

theorem alike (h : yield.Packaged definition override imageId image ledger)
    (h' : yield.Packaged definition override imageId image' ledger') : image.Alike image' where
  id := h'.id.trans h.id.symm
  tag := Except.ok.inj (h'.tag.symm.trans h.tag)
  baseImage := h'.baseImage.trans h.baseImage.symm
  destination := h'.destination.trans h.destination.symm
  entryCommand := h'.entryCommand.trans h.entryCommand.symm
  fingerprint := h'.fingerprint.trans h.fingerprint.symm
  artifact := h.described.alike h'.described

/-- The context holds the containerfile and the content, wherever that was staged. -/
theorem madeFrom (h : yield.Packaged definition override imageId image ledger) :
    image.MadeFrom (BuildContext.archive (image.request definition).containerfile yield.content)
      ledger := by
  obtain ⟨entry, hlast, hdealing, hstaged⟩ := h.assembled
  exact ⟨entry, hlast, _, hdealing, BuildContext.pack_eq_ok_iff.mpr ⟨_, hstaged, rfl⟩⟩

end Yield.Packaged

/-- Neither the time nor the staged path is written into the containerfile. -/
theorem RuntimeImage.Alike.containerfile_eq {image image' : RuntimeImage} (h : image.Alike image')
    (definition : PipelineDefinition) :
    (image'.request definition).containerfile = (image.request definition).containerfile := by
  unfold request AssemblyRequest.ofArtifact
  rw [h.tag, h.artifact.checksum]
  rfl

/-- Runs that end by one verdict end alike. -/
theorem RunOutcome.EndsBy.alike {outcome outcome' : RunOutcome} {definition : PipelineDefinition}
    {override : Option String} {ledger ledger' : Ledger}
    {verdict : Except (Stage × Failure) (Yield × String)}
    (h : outcome.EndsBy definition override ledger verdict)
    (h' : outcome'.EndsBy definition override ledger' verdict) :
    outcome.Alike outcome' ledger ledger' := by
  cases h with
  | failed hkind hstate himage =>
      cases h' with
      | failed hkind' hstate' himage' =>
          exact .failed (hkind.symm.trans hkind') hstate hstate' himage himage'
  | packaged hstate himage hpackaged =>
      cases h' with
      | packaged hstate' himage' hpackaged' =>
          have halike := hpackaged.alike hpackaged'
          have hcontext' := hpackaged'.madeFrom
          rw [halike.containerfile_eq] at hcontext'
          exact .packaged hstate hstate' himage himage' halike hpackaged.madeFrom hcontext'

namespace Orchestrator

/-- Two runs of one definition with the same answers end alike, wherever and whenever they are
made. The calls are those of the same runs on backends that enter them into a ledger. -/
theorem execute_reproducible {answers : Answers} {stage : BuilderStage σ} {stage' : BuilderStage τ}
    {runtime : RuntimeStage σ} {runtime' : RuntimeStage τ} (hstage : stage.Gives answers)
    (hstage' : stage'.Gives answers) (hruntime : runtime.Gives answers)
    (hruntime' : runtime'.Gives answers) (htag : runtime'.tag = runtime.tag)
    (definition : PipelineDefinition) {id id' : RunId} {world : World σ} {world' : World τ}
    (hworking : stage.Working id world.files) (hworking' : stage'.Working id' world'.files) :
    let told := (ofStages stage runtime).execute id definition world
    let told' := (ofStages stage' runtime').execute id' definition world'
    let entered := (ofStages stage.entered runtime.entered).execute id definition world.opened
    let entered' :=
      (ofStages stage'.entered runtime'.entered).execute id' definition world'.opened
    entered.1 = told.1 ∧ entered'.1 = told'.1 ∧
      told.1.2.Alike told'.1.2 entered.2.ledger entered'.2.ledger := by
  intro told told' entered entered'
  have hsame : entered.1 = told.1 :=
    (congrArg Prod.fst (enters_execute stage runtime id definition world.opened)).symm
  have hsame' : entered'.1 = told'.1 :=
    (congrArg Prod.fst (enters_execute stage' runtime' id' definition world'.opened)).symm
  -- The check before a run sees nothing of the stages but the tag that is to override.
  have hprecheck : (ofStages stage' runtime').precheck definition definition.fingerprint =
      (ofStages stage runtime).precheck definition definition.fingerprint := by
    unfold precheck
    rw [show (ofStages stage' runtime').runtime.tag = _ from htag]
    rfl
  have hends := Course.endsBy hstage hruntime hworking (course_of_execute (rfl : _ = entered))
  have hends' := Course.endsBy hstage' hruntime' hworking' (course_of_execute (rfl : _ = entered'))
  rw [hprecheck, htag] at hends'
  rw [← hsame, ← hsame']
  exact ⟨rfl, rfl, hends.alike hends'⟩

end Orchestrator

/-! ## Rehearsals -/

namespace Rehearsal

/-- What a script answers, with the answers of an inspector and an assembler. -/
def ExecutorScript.answers (script : ExecutorScript) (inspection : Except Failure Inspection)
    (imageId : Except Failure String) : Answers where
  available := script.available
  spawned := script.spawned.map fun _ => ()
  logged := script.logs.map fun _ => ()
  exitCode := script.ended.map JobResult.exitCode
  copied := script.copied
  inspection
  imageId

/-- A deposit is found where it was put. -/
theorem Deposit.read_of_place {deposit : Deposit} {dest : String} {files after : FileTree}
    (h : deposit.place dest files = .ok after) : after.read dest = deposit.content := by
  cases deposit with
  | file content =>
      obtain ⟨mode, hfind⟩ := FileTree.find_of_write h
      exact FileTree.read_eq_ok_iff.mpr ⟨mode, hfind⟩
  | directory =>
      have hfind := FileTree.find_of_createDir h
      unfold FileTree.read
      rw [hfind]
      rfl

/-- Every script gives its answers, whatever the staging directory. -/
theorem gives_answers (script : ExecutorScript) (inspection : Except Failure Inspection)
    (imageId : Except Failure String) (stagingDir : String) (retain : Bool) :
    BuilderStage.Gives ⟨executor script, inspector inspection, stagingDir, retain⟩
      (script.answers inspection imageId) where
  canExecute job world := ⟨rfl, rfl⟩
  spawn job world := by
    cases hspawned : script.spawned with
    | error failure =>
        simp only [ExecutorScript.answers, executor, hspawned]
        exact .error rfl
    | ok executorId =>
        simp only [ExecutorScript.answers, executor, hspawned]
        exact .ok rfl
  logs handle world := by
    cases hlogs : script.logs with
    | error failure =>
        simp only [ExecutorScript.answers, executor, hlogs]
        exact .error rfl
    | ok lines =>
        simp only [ExecutorScript.answers, executor, hlogs]
        exact .ok (leavesFiles_stamped lines _)
  wait handle world := by
    cases hended : script.ended with
    | error failure =>
        simp only [ExecutorScript.answers, executor, hended]
        exact .error rfl
    | ok result =>
        simp only [ExecutorScript.answers, executor, hended]
        exact .ok ⟨rfl, rfl⟩
  copyOut handle source dest world := by
    cases hcopied : script.copied with
    | error failure =>
        simp only [ExecutorScript.answers, executor, hcopied]
        exact .error rfl
    | ok deposit =>
        simp only [ExecutorScript.answers, executor, hcopied]
        rw [Act.bind_apply, Act.bind_apply, Act.changeFiles_apply]
        have hfiles : (record (.copyOut handle source dest) world).2.files = world.files := rfl
        rw [hfiles]
        change Settles (do let _ ← (deposit.place dest world.files).mapError .io; pure deposit) _ _
        cases hplace : deposit.place dest world.files with
        | error fault => exact .error rfl
        | ok after => exact .ok (deposit.read_of_place hplace)
  remove handle world := rfl
  inspect path world := by
    cases inspection with
    | error failure => exact .error rfl
    | ok found => exact .ok ⟨rfl, rfl⟩

theorem gives_imageId (script : ExecutorScript) (inspection : Except Failure Inspection)
    (imageId : Except Failure String) (name : String) (tag : Option String) :
    RuntimeStage.Gives ⟨assembler name imageId, tag⟩ (script.answers inspection imageId) := by
  intro request world
  cases imageId with
  | error failure => exact .error rfl
  | ok id => exact .ok rfl

/-- The smooth builder stage with another staging directory, and with its artifacts kept. -/
def movedBuilder : BuilderStage Record :=
  { smoothBuilder with stagingDir := "/var/staging", retain := true }

/-- A host with a directory whose clock goes. -/
def laterWorld : World Record where
  files := ⟨[(["var"], .directory)], []⟩
  clock reading := ⟨reading, 0⟩
  backend := []

theorem smooth_run_reproduced :
    let told := (Orchestrator.ofStages smoothBuilder smoothRuntime).execute ⟨1⟩
      PipelineDefinition.sample emptyWorld
    let told' := (Orchestrator.ofStages movedBuilder smoothRuntime).execute ⟨2⟩
      PipelineDefinition.sample laterWorld
    (told.1.2.image.isSome = true ∧ told'.1.2.image ≠ told.1.2.image) ∧
      told.1.2.Alike told'.1.2
        ((Orchestrator.ofStages smoothBuilder.entered smoothRuntime.entered).execute ⟨1⟩
          PipelineDefinition.sample emptyWorld.opened).2.ledger
        ((Orchestrator.ofStages movedBuilder.entered smoothRuntime.entered).execute ⟨2⟩
          PipelineDefinition.sample laterWorld.opened).2.ledger := by
  have hworking : smoothBuilder.Working ⟨1⟩ emptyWorld.files :=
    ⟨eq_ok_iff_toBool.mpr (by decide +kernel), FileTree.get?_below_eq_none (by decide +kernel),
      by decide +kernel⟩
  have hworking' : movedBuilder.Working ⟨2⟩ laterWorld.files :=
    ⟨eq_ok_iff_toBool.mpr (by decide +kernel), FileTree.get?_below_eq_none (by decide +kernel),
      by decide +kernel⟩
  have hreproduced := @Orchestrator.execute_reproducible _ _ _ smoothBuilder movedBuilder
    smoothRuntime smoothRuntime (gives_answers _ _ _ _ _) (gives_answers _ _ _ _ _)
    (gives_imageId _ _ _ _ _) (gives_imageId _ _ _ _ _) rfl PipelineDefinition.sample _ _ _ _
    hworking hworking'
  exact ⟨by decide +kernel, hreproduced.2.2⟩

end Rehearsal

end SealedBuild
