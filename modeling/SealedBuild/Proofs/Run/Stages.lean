import SealedBuild.Proofs.Act
import SealedBuild.Proofs.Outcome
import SealedBuild.Orchestrator

/-!
# What the stages of a successful run did

A stage that succeeds has taken every one of its steps, and each of them succeeded. The
passages below name the answers and the worlds between the steps. The backends are
arbitrary: nothing is assumed of what they answer or of what they do to the files.
-/

namespace SealedBuild

variable {σ : Type}

/-- Only exit code zero is no failure. -/
theorem Job.failureOfExit_eq_none_iff {exitCode : Option Int} {path : String} :
    Job.failureOfExit exitCode path = none ↔ exitCode = some 0 := by
  cases exitCode with
  | none => simp [Job.failureOfExit]
  | some code =>
      by_cases hzero : code = 0
      · simp [Job.failureOfExit, hzero]
      · have hne : some code ≠ some 0 := by simpa using hzero
        simp only [Job.failureOfExit, if_neg hzero, hne, iff_false]
        split
        · nofun
        · split
          · nofun
          · split <;> nofun

/-- The artifact is recorded as an inspection found it. -/
structure Inspection.Describes (inspection : Inspection) (spec : BuilderSpec) (path : String)
    (artifact : CompiledArtifact) : Prop where
  name : artifact.name = spec.artifactName
  sourcePath : artifact.sourcePath = spec.artifactPath
  stagedPath : artifact.stagedPath = path
  architecture : artifact.architecture = inspection.architecture
  linkage : artifact.linkage = inspection.linkage spec.environment.crypto
  stripped : artifact.stripped = inspection.isStripped

namespace BuilderStage

variable {stage : BuilderStage σ} {id : RunId} {spec : BuilderSpec} {fingerprint : String}
  {start finish : World σ}

/-- The check of a staged file does to the world what the inspector does and no more, the clock
apart. -/
theorem leads_verify {related : World σ → World σ → Prop} [IsPreorder (World σ) related]
    (hinspector : ∀ path, (stage.inspector.inspect path).Leads related)
    (htick : ∀ world, related world world.tick) (path : String) :
    (stage.verify spec path).Leads related := by
  refine Act.Leads.run_bind (hinspector path) fun inspection => ?_
  refine Act.Leads.run_bind (.pure _) fun _ => ?_
  refine Act.Leads.run_bind (.run_lift .files) fun files => ?_
  refine Act.Leads.run_bind (.pure _) fun measured => ?_
  exact .run_bind (.run_lift htick) fun producedAt => .pure _

/-- The path that a run's artifact is staged at. -/
def stagedPath (stage : BuilderStage σ) (id : RunId) (spec : BuilderSpec) : String :=
  HostPath.join (stage.runStaging id) spec.artifactName

/-- A check of the staged file that succeeded. -/
structure Examination (stage : BuilderStage σ) (spec : BuilderSpec) (path : String)
    (start finish : World σ) (artifact : CompiledArtifact) where
  inspection : Inspection
  inspected : World σ
  inspect : stage.inspector.inspect path start = (.ok inspection, inspected)
  check : inspection.check spec.environment.flags spec.environment.crypto = .ok ()
  describes : inspection.Describes spec path artifact
  measured : checksum inspected.files path = .ok (artifact.size, artifact.checksum)
  finish_eq : finish = inspected.tick

theorem examination_of_verify {path : String} {artifact : CompiledArtifact}
    (h : stage.verify spec path start = (.ok artifact, finish)) :
    Nonempty (stage.Examination spec path start finish artifact) := by
  unfold verify at h
  obtain ⟨inspection, inspected, hinspect, h⟩ := Act.run_bind_ok h
  obtain ⟨_, checked, hcheck, h⟩ := Act.run_bind_ok h
  obtain ⟨files, read, hread, h⟩ := Act.run_bind_ok h
  obtain ⟨⟨size, digest⟩, measured, hmeasured, h⟩ := Act.run_bind_ok h
  obtain ⟨producedAt, ticked, htick, h⟩ := Act.run_bind_ok h
  cases hread
  cases htick
  rw [Act.run_mk, Act.pure_apply, Prod.mk.injEq] at hcheck hmeasured
  obtain ⟨hcheck, rfl⟩ := hcheck
  obtain ⟨hmeasured, rfl⟩ := hmeasured
  cases h
  exact ⟨inspection, inspected, hinspect, mapError_eq_ok_iff.mp hcheck,
    ⟨rfl, rfl, rfl, rfl, rfl, rfl⟩, mapError_eq_ok_iff.mp hmeasured, rfl⟩

/-- The way from a started job to its artifact. -/
structure Extraction (stage : BuilderStage σ) (handle : JobHandle) (id : RunId)
    (spec : BuilderSpec) (start finish : World σ) (artifact : CompiledArtifact) where
  result : JobResult
  waited : World σ
  wait : stage.executor.wait handle start = (.ok result, waited)
  exitCode : result.exitCode = some 0
  prepared : FileTree
  prepare : waited.files.createDirAll (stage.runStaging id) = (prepared, .ok ())
  copied : Nat
  extracted : World σ
  copyOut :
    stage.executor.copyOut handle spec.artifactPath (stage.stagedPath id spec)
      { waited with files := prepared } = (.ok copied, extracted)
  examination : stage.Examination spec (stage.stagedPath id spec) extracted finish artifact

theorem prepare_apply (operation : FileTree → FileTree × Except FileFault Unit) (world : World σ) :
    (do pure ((← Act.workOnFiles operation).mapError .io) : Act σ (Except Failure Unit)) world =
      ((operation world.files).2.mapError .io,
        { world with files := (operation world.files).1 }) :=
  rfl

theorem prepared_of_ok {staging : String} {u : Unit}
    (h : (do pure ((← Act.workOnFiles fun files => files.createDirAll staging).mapError .io) :
      Act σ (Except Failure Unit)) start = (.ok u, finish)) :
    ∃ prepared, start.files.createDirAll staging = (prepared, .ok ()) ∧
      finish = { start with files := prepared } := by
  have hmade : (start.files.createDirAll staging).2.mapError Failure.io = .ok u :=
    congrArg Prod.fst h
  exact ⟨_, Prod.ext rfl (mapError_eq_ok_iff.mp hmade), (congrArg Prod.snd h).symm⟩

theorem extraction_of_collect {handle : JobHandle} {handoff : Handoff}
    (h : stage.collect handle id spec fingerprint start = (.ok handoff, finish)) :
    handoff.fingerprint = fingerprint ∧
      Nonempty (stage.Extraction handle id spec start finish handoff.artifact) := by
  unfold collect at h
  obtain ⟨result, waited, hwait, hjudged⟩ := Act.run_bind_ok h
  cases hexit : Job.failureOfExit result.exitCode spec.artifactPath with
  | some failure =>
      rw [hexit] at hjudged
      obtain ⟨_, _, hthrow, _⟩ := Act.run_bind_ok hjudged
      cases hthrow
  | none =>
      rw [hexit] at hjudged
      obtain ⟨_, made, hmade, hmaking⟩ := Act.run_bind_ok hjudged
      obtain ⟨copied, extracted, hcopied, hcopying⟩ := Act.run_bind_ok hmaking
      obtain ⟨artifact, examined, hexamined, hdone⟩ := Act.run_bind_ok hcopying
      cases hdone
      obtain ⟨examination⟩ := examination_of_verify hexamined
      obtain ⟨prepared, hprepared, rfl⟩ := prepared_of_ok hmade
      exact ⟨rfl, ⟨⟨result, waited, hwait, Job.failureOfExit_eq_none_iff.mp hexit, prepared,
        hprepared, copied, extracted, hcopied, examination⟩⟩⟩

theorem collected_of_follow {handle : JobHandle} {handoff : Handoff} {lines : List LogLine}
    (h : stage.follow handle id spec fingerprint start = ((.ok handoff, lines), finish)) :
    ∃ followed, stage.executor.logs handle start = (.ok lines, followed) ∧
      stage.collect handle id spec fingerprint followed = (.ok handoff, finish) := by
  unfold follow at h
  obtain ⟨answer, followed, hlogs, hcollecting⟩ := Act.bind_eq h
  cases answer with
  | error failure => cases hcollecting
  | ok told =>
      obtain ⟨result, _, hcollected, hpaired⟩ := Act.bind_eq hcollecting
      cases hpaired
      exact ⟨followed, hlogs, hcollected⟩

/-- A builder stage that handed an artifact off. -/
structure Passage (stage : BuilderStage σ) (id : RunId) (spec : BuilderSpec)
    (start finish : World σ) (artifact : CompiledArtifact) (lines : List LogLine) where
  job : JobSpec
  ofBuilder : Job.ofBuilder start.files.workingPath id spec = .ok job
  asked : World σ
  canExecute : stage.executor.canExecute job start = (true, asked)
  handle : JobHandle
  spawned : World σ
  spawn : stage.executor.spawn job asked = (.ok handle, spawned)
  followed : World σ
  logs : stage.executor.logs handle spawned = (.ok lines, followed)
  taken : World σ
  extraction : stage.Extraction handle id spec followed taken artifact
  removed : Except Failure Unit
  remove : stage.executor.remove handle taken = (removed, finish)

theorem passage_of_produce {handoff : Handoff} {lines : List LogLine}
    (h : stage.produce id spec fingerprint start = ((.ok handoff, lines), finish)) :
    handoff.fingerprint = fingerprint ∧
      Nonempty (stage.Passage id spec start finish handoff.artifact lines) := by
  unfold produce at h
  obtain ⟨files, _, hfiles, hjudged⟩ := Act.bind_eq h
  cases hfiles
  cases hjob : Job.ofBuilder start.files.workingPath id spec with
  | error failure =>
      rw [hjob] at hjudged
      cases hjudged
  | ok job =>
      rw [hjob] at hjudged
      obtain ⟨available, asked, hasked, hoffered⟩ := Act.bind_eq hjudged
      cases available with
      | false => cases hoffered
      | true =>
          obtain ⟨answer, spawned, hspawned, hstarted⟩ := Act.bind_eq hoffered
          cases answer with
          | error failure => cases hstarted
          | ok handle =>
              obtain ⟨⟨result, told⟩, taken, htaken, hended⟩ := Act.bind_eq hstarted
              obtain ⟨removed, _, hremoved, hleft⟩ := Act.bind_eq hended
              cases result with
              | error failure =>
                  obtain ⟨_, _, _, hnone⟩ := Act.bind_eq hleft
                  cases hnone
              | ok handoff' =>
                  cases hleft
                  obtain ⟨followed, hlogs, hcollected⟩ := collected_of_follow htaken
                  obtain ⟨hfingerprint, ⟨extraction⟩⟩ := extraction_of_collect hcollected
                  exact ⟨hfingerprint, ⟨⟨job, hjob, asked, hasked, handle, spawned, hspawned,
                    followed, hlogs, taken, extraction, removed, hremoved⟩⟩⟩

end BuilderStage

/-- A runtime stage that made an image. -/
structure RuntimeStage.Assembly (stage : RuntimeStage σ) (pipeline : String) (spec : RuntimeSpec)
    (handoff : Handoff) (start finish : World σ) (image : RuntimeImage) where
  verified : handoff.check start.files = .ok ()
  resolved : resolveTag stage.tag pipeline spec handoff.fingerprint = .ok image.tag
  assembled : World σ
  assemble :
    stage.assembler.assemble
      (.ofArtifact spec handoff.artifact image.tag pipeline handoff.fingerprint) start =
        (.ok image.id, assembled)
  baseImage : image.baseImage = spec.baseImage
  artifact : image.artifact = handoff.artifact
  destination : image.destination = spec.destination
  entryCommand : image.entryCommand = spec.entryCommand
  fingerprint : image.fingerprint = handoff.fingerprint
  finish_eq : finish = assembled.tick

theorem RuntimeStage.assembly_of_package {stage : RuntimeStage σ} {pipeline : String}
    {spec : RuntimeSpec} {handoff : Handoff} {start finish : World σ} {image : RuntimeImage}
    (h : stage.package pipeline spec handoff start = (.ok image, finish)) :
    Nonempty (stage.Assembly pipeline spec handoff start finish image) := by
  unfold package at h
  obtain ⟨files, _, hread, hverifying⟩ := Act.run_bind_ok h
  cases hread
  obtain ⟨_, verified, hverified, hresolving⟩ := Act.run_bind_ok hverifying
  obtain ⟨tag, resolved, hresolved, hassembling⟩ := Act.run_bind_ok hresolving
  obtain ⟨imageId, assembled, hassembled, hticking⟩ := Act.run_bind_ok hassembling
  obtain ⟨createdAt, _, htick, hdone⟩ := Act.run_bind_ok hticking
  cases htick
  cases hdone
  rw [Act.run_mk, Act.pure_apply, Prod.mk.injEq] at hverified hresolved
  obtain ⟨hverified, rfl⟩ := hverified
  obtain ⟨hresolved, rfl⟩ := hresolved
  exact ⟨⟨mapError_eq_ok_iff.mp hverified, hresolved, assembled, hassembled, rfl, rfl, rfl, rfl,
    rfl, rfl⟩⟩

end SealedBuild
