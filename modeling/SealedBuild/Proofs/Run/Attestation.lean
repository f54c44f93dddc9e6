import SealedBuild.Proofs.Artifact.Handoff
import SealedBuild.Proofs.Artifact.Inspection
import SealedBuild.Proofs.Definition
import SealedBuild.Proofs.Image.Layout
import SealedBuild.Proofs.Ledger
import SealedBuild.Proofs.Run.Events
import SealedBuild.Proofs.Run.Stages
import SealedBuild.Rehearsal

/-!
# What a packaged run attests

A run has an image exactly when it is packaged, and then the ledger of its backend calls
shows that every guarantee held: one job that ended with exit code zero, an artifact as the
flags declare it, the staged file still the measured one, and one image request that holds that
artifact, the tag that was checked beforehand and the labels of this build. The backends are
arbitrary in what they answer and in what they do to the files.
-/

namespace SealedBuild

variable {σ : Type}

/-- What is known of a run that ended with an image, by the calls that it made. -/
structure Attestation (definition : PipelineDefinition) (override : Option String)
    (image : RuntimeImage) (ledger : Ledger) where
  job : JobSpec
  handle : JobHandle
  lines : List LogLine
  result : JobResult
  copied : Nat
  inspection : Inspection
  removed : Except Failure Unit
  request : AssemblyRequest
  validated : definition.validate = .ok ()
  /-- All calls of the run. In particular one job was spawned, and one image requested. -/
  dealings :
    ledger.map LedgerEntry.dealing =
      [.canExecute job true,
        .spawn job (.ok handle),
        .logs handle (.ok lines),
        .wait handle (.ok result),
        .copyOut handle definition.builder.artifactPath image.artifact.stagedPath (.ok copied),
        .inspect image.artifact.stagedPath (.ok inspection),
        .remove handle removed,
        .assemble request (.ok image.id)]
  request_spec : request.spec = definition.runtime
  request_artifact : request.artifact = image.artifact
  request_tag : request.tag = image.tag
  request_labels :
    request.labels.entries =
      [("isobuild.artifact.sha256", image.artifact.checksum),
        ("isobuild.fingerprint", definition.fingerprint), ("isobuild.pipeline", definition.name)]
  exitCode : result.exitCode = some 0
  static :
    definition.builder.environment.flags.staticCrypto = true →
      (∀ needed ∈ inspection.needed,
        definition.builder.environment.crypto.ownsSharedObject needed = false) ∧
      image.artifact.linkage = .static
  stripped :
    definition.builder.environment.flags.strip = true →
      inspection.hasSymtab = false ∧ inspection.debugSections = [] ∧
        image.artifact.stripped = true
  described :
    inspection.Describes definition.builder image.artifact.stagedPath image.artifact
  /-- The recorded size and checksum are those of the file that was extracted and inspected. -/
  measured :
    ∃ entry ∈ ledger, entry.dealing = .inspect image.artifact.stagedPath (.ok inspection) ∧
      ∃ content, entry.after.read image.artifact.stagedPath = .ok content ∧
        content.length = image.artifact.size ∧ Sha256.hex content = image.artifact.checksum
  /-- The staged file was still that one when the runtime stage asked for the image. -/
  unchanged :
    ∃ entry ∈ ledger, entry.dealing = .assemble request (.ok image.id) ∧
      ∃ mode content, entry.before.find image.artifact.stagedPath = .ok (.file mode content) ∧
        content.length = image.artifact.size ∧ Sha256.hex content = image.artifact.checksum
  /-- The tag is the one that was settled before the run started. -/
  tag_resolved :
    RuntimeStage.resolveTag override definition.name definition.runtime
      definition.fingerprint = .ok image.tag
  /-- It is the given one, else the declared one, else the pipeline's name in lower case with the
  first digits of the fingerprint. -/
  tag_eq :
    image.tag = (override.or definition.runtime.tag).getD
      (Text.lowercase definition.name ++ ":" ++
        String.ofList (definition.fingerprint.toList.take 12))
  tag_usable : ImageTag.validate image.tag = .ok ()
  baseImage : image.baseImage = definition.runtime.baseImage
  destination : image.destination = definition.runtime.destination
  entryCommand : image.entryCommand = [definition.runtime.destination]
  fingerprint : image.fingerprint = definition.fingerprint

namespace BuilderStage

variable {stage : BuilderStage σ} {id : RunId} {spec : BuilderSpec}
  {start finish : World (σ × Ledger)} {artifact : CompiledArtifact}

/-- The calls of a builder stage that handed an artifact off. -/
def Passage.entries {lines : List LogLine}
    (p : stage.entered.Passage id spec start finish artifact lines) : Ledger :=
  [⟨.canExecute p.job true, start.files, p.asked.files⟩,
    ⟨.spawn p.job (.ok p.handle), p.asked.files, p.spawned.files⟩,
    ⟨.logs p.handle (.ok lines), p.spawned.files, p.followed.files⟩,
    ⟨.wait p.handle (.ok p.extraction.result), p.followed.files, p.extraction.waited.files⟩,
    ⟨.copyOut p.handle spec.artifactPath (stage.stagedPath id spec) (.ok p.extraction.copied),
      p.extraction.prepared, p.extraction.extracted.files⟩,
    ⟨.inspect (stage.stagedPath id spec) (.ok p.extraction.examination.inspection),
      p.extraction.extracted.files, p.extraction.examination.inspected.files⟩,
    ⟨.remove p.handle p.removed, p.taken.files, finish.files⟩]

theorem Passage.ledger_eq {lines : List LogLine}
    (p : stage.entered.Passage id spec start finish artifact lines) :
    finish.ledger = start.ledger ++ p.entries := by
  have hasked := Act.ledger_of_entered p.canExecute
  have hspawned := Act.ledger_of_entered p.spawn
  have hfollowed := Act.ledger_of_entered p.logs
  have hwaited := Act.ledger_of_entered p.extraction.wait
  have hextracted := Act.ledger_of_entered p.extraction.copyOut
  have hinspected := Act.ledger_of_entered p.extraction.examination.inspect
  have htaken : p.taken.ledger = p.extraction.examination.inspected.ledger :=
    (congrArg World.ledger p.extraction.examination.finish_eq).trans (World.ledger_tick _)
  have hremoved := Act.ledger_of_entered p.remove
  have hprepared : ({ p.extraction.waited with files := p.extraction.prepared } :
      World (σ × Ledger)).ledger = p.extraction.waited.ledger := rfl
  rw [hremoved, htaken, hinspected, hextracted, hprepared, hwaited, hfollowed, hspawned, hasked]
  simp only [List.append_assoc, List.cons_append, List.nil_append]
  rfl

end BuilderStage

namespace RuntimeStage

variable {stage : RuntimeStage σ} {pipeline : String} {spec : RuntimeSpec} {handoff : Handoff}
  {start finish : World (σ × Ledger)} {image : RuntimeImage}

theorem usable_of_resolveTag {override : Option String} {fingerprint tag : String}
    (h : resolveTag override pipeline spec fingerprint = .ok tag) :
    tag = (override.or spec.tag).getD (defaultTag pipeline fingerprint) ∧
      ImageTag.validate tag = .ok () := by
  obtain ⟨hvalid, htag⟩ := check_bind_eq_ok_iff.mp h
  cases htag
  exact ⟨rfl, hvalid⟩

/-- The call of a runtime stage that made an image. -/
def Assembly.entry (a : stage.entered.Assembly pipeline spec handoff start finish image) :
    LedgerEntry :=
  ⟨.assemble (.ofArtifact spec handoff.artifact image.tag pipeline handoff.fingerprint)
    (.ok image.id), start.files, a.assembled.files⟩

theorem Assembly.ledger_eq
    (a : stage.entered.Assembly pipeline spec handoff start finish image) :
    finish.ledger = start.ledger ++ [a.entry] := by
  have hassembled := Act.ledger_of_entered a.assemble
  rw [congrArg World.ledger a.finish_eq, World.ledger_tick, hassembled]
  rfl

end RuntimeStage

namespace Orchestrator

variable {stage : BuilderStage σ} {runtime : RuntimeStage σ} {id : RunId}
  {definition : PipelineDefinition} {world : World σ} {events : List Event}
  {outcome : RunOutcome} {finish : World (σ × Ledger)}

theorem validate_of_precheck {o : Orchestrator σ} {fingerprint : String}
    (h : o.precheck definition fingerprint = .ok ()) : definition.validate = .ok () :=
  (check_bind_eq_ok_iff.mp h).1

/-- Two stages that succeeded one after the other attest the image. -/
theorem attestation_of_stages {handoff : Handoff} {lines : List LogLine} {image : RuntimeImage}
    {start built packed : World (σ × Ledger)} (hvalid : definition.validate = .ok ())
    (hfingerprint : handoff.fingerprint = definition.fingerprint)
    (p : stage.entered.Passage id definition.builder start built handoff.artifact lines)
    (a : runtime.entered.Assembly definition.name definition.runtime handoff built.tick.tick
      packed image) :
    Nonempty (Attestation definition runtime.tag image (p.entries ++ [a.entry])) := by
  obtain ⟨hstatic, hstripped⟩ := Inspection.check_eq_ok_iff.mp p.extraction.examination.check
  have hstaged : image.artifact.stagedPath = stage.stagedPath id definition.builder := by
    rw [a.artifact]
    exact p.extraction.examination.describes.stagedPath
  have hdescribes : p.extraction.examination.inspection.Describes definition.builder
      image.artifact.stagedPath image.artifact := by
    rw [hstaged, a.artifact]
    exact p.extraction.examination.describes
  -- Both resolutions of the tag see the definition's own fingerprint.
  have hresolved := a.resolved
  rw [hfingerprint] at hresolved
  obtain ⟨htag, husable⟩ := RuntimeStage.usable_of_resolveTag hresolved
  refine ⟨{
    job := p.job
    handle := p.handle
    lines
    result := p.extraction.result
    copied := p.extraction.copied
    inspection := p.extraction.examination.inspection
    removed := p.removed
    request := .ofArtifact definition.runtime handoff.artifact image.tag definition.name
      handoff.fingerprint
    validated := hvalid
    dealings := ?dealings
    request_spec := rfl
    request_artifact := a.artifact.symm
    request_tag := rfl
    request_labels := ?labels
    exitCode := p.extraction.exitCode
    static := ?static
    stripped := ?stripped
    described := hdescribes
    measured := ?measured
    unchanged := ?unchanged
    tag_resolved := hresolved
    tag_eq := htag
    tag_usable := husable
    baseImage := a.baseImage
    destination := a.destination
    entryCommand := a.entryCommand
    fingerprint := a.fingerprint.trans hfingerprint }⟩
  case dealings =>
    rw [hstaged]
    rfl
  case labels =>
    rw [a.artifact, ← hfingerprint]
    exact AssemblyRequest.labels_ofArtifact _ _ _ _ _
  case static =>
    intro hcrypto
    have hlinkage := hstatic hcrypto
    exact ⟨Inspection.linkage_eq_static_iff.mp hlinkage, hdescribes.linkage.trans hlinkage⟩
  case stripped =>
    intro hstrip
    have hbare := hstripped hstrip
    obtain ⟨hsymtab, hdebug⟩ := Inspection.isStripped_eq_true_iff.mp hbare
    exact ⟨hsymtab, hdebug, hdescribes.stripped.trans hbare⟩
  case measured =>
    refine ⟨⟨.inspect (stage.stagedPath id definition.builder)
      (.ok p.extraction.examination.inspection), p.extraction.extracted.files,
      p.extraction.examination.inspected.files⟩, by simp [BuilderStage.Passage.entries], ?_, ?_⟩
    · rw [hstaged]
    · rw [hstaged, a.artifact]
      exact checksum_eq_ok_iff.mp p.extraction.examination.measured
  case unchanged =>
    refine ⟨a.entry, by simp, rfl, ?_⟩
    rw [a.artifact]
    exact Handoff.check_eq_ok_iff.mp a.verified

/-- The one course that ends with an image has made every call of an attestation. -/
theorem Course.attestation
    (h : (ofStages stage.entered runtime.entered).Course id definition world.opened events
      outcome finish) {image : RuntimeImage} (himage : outcome.image = some image) :
    Nonempty (Attestation definition runtime.tag image finish.ledger) := by
  cases h with
  | refused => cases himage
  | unbuilt => cases himage
  | unpackaged => cases himage
  | @packaged handoff lines _ built packed dropped hprecheck hproduce hpackage hdiscard =>
      cases himage
      obtain ⟨hfingerprint, ⟨p⟩⟩ := BuilderStage.passage_of_produce hproduce
      obtain ⟨a⟩ := RuntimeStage.assembly_of_package hpackage
      -- The clock and the dropping of staged files leave the ledger as it is.
      have hledger : dropped.tick.tick.tick.ledger = p.entries ++ [a.entry] := by
        rw [← hdiscard]
        calc
          (stage.entered.discard id packed).2.ledger = packed.ledger :=
            BuilderStage.ledger_discard stage id packed
          _ = built.ledger ++ [a.entry] := a.ledger_eq
          _ = p.entries ++ [a.entry] := congrArg (· ++ [a.entry]) p.ledger_eq
      rw [hledger]
      exact attestation_of_stages (validate_of_precheck hprecheck) hfingerprint p a

/-- A run has an image exactly when it is packaged, and an image is attested by the calls that
the run made. They are the calls of the same run on backends that enter them into a ledger,
which tells the same events and has the same outcome. -/
theorem execute_image_attested (stage : BuilderStage σ) (runtime : RuntimeStage σ) (id : RunId)
    (definition : PipelineDefinition) (world : World σ) :
    let told := (ofStages stage runtime).execute id definition world
    let entered :=
      (ofStages stage.entered runtime.entered).execute id definition world.opened
    let outcome := told.1.2
    entered.1 = told.1 ∧
    (outcome.image.isSome = true ↔ outcome.run.state = .packaged) ∧
    ∀ image, outcome.image = some image →
      Nonempty (Attestation definition runtime.tag image entered.2.ledger) := by
  intro told entered outcome
  have hsame : entered.1 = told.1 :=
    (congrArg Prod.fst (enters_execute stage runtime id definition world.opened)).symm
  have hcourse : (ofStages stage.entered runtime.entered).Course id definition world.opened
      entered.1.1 outcome entered.2 := by
    rw [show outcome = entered.1.2 from congrArg Prod.snd hsame.symm]
    exact course_of_execute rfl
  exact ⟨hsame, hcourse.agrees.image, fun _ himage => hcourse.attestation himage⟩

end Orchestrator

namespace Rehearsal

/-- A builder stage on which nothing goes wrong. -/
def smoothBuilder : BuilderStage Record where
  executor := executor {
    name := "mock"
    available := true
    spawned := .ok "container"
    logs := .ok [(.stdout, "compiling")]
    ended := .ok ⟨.pending, some 0⟩
    copied := .ok (.file [127])
    removed := .ok () }
  inspector := inspector (.ok ⟨.x86_64, ["libc.so.6"], none, false, []⟩)
  stagingDir := "/staging"

/-- A runtime stage on which nothing goes wrong. -/
def smoothRuntime : RuntimeStage Record where
  assembler := assembler "mock" (.ok "sha256:1")

/-- A host without files whose clock stands still. -/
def emptyWorld : World Record where
  files := ⟨[], []⟩
  clock _ := ⟨0, 0⟩
  backend := []

theorem smooth_run_attested :
    ∃ image,
      ((Orchestrator.ofStages smoothBuilder smoothRuntime).execute ⟨1⟩ PipelineDefinition.sample
        emptyWorld).1.2.image = some image ∧
      Nonempty (Attestation PipelineDefinition.sample none image
        ((Orchestrator.ofStages smoothBuilder.entered smoothRuntime.entered).execute ⟨1⟩
          PipelineDefinition.sample emptyWorld.opened).2.ledger) := by
  have himage : ((Orchestrator.ofStages smoothBuilder smoothRuntime).execute ⟨1⟩
      PipelineDefinition.sample emptyWorld).1.2.image.isSome = true := by
    decide +kernel
  obtain ⟨image, himage⟩ := Option.isSome_iff_exists.mp himage
  have hattested := Orchestrator.execute_image_attested smoothBuilder smoothRuntime ⟨1⟩
    PipelineDefinition.sample emptyWorld
  exact ⟨image, himage, hattested.2.2 image himage⟩

end Rehearsal

end SealedBuild
