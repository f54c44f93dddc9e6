import SealedBuild.Proofs.Artifact.Handoff
import SealedBuild.Proofs.Files.Tree
import SealedBuild.Proofs.Run.Attestation

/-!
# What a run leaves on the host

A run stages in a directory of its own below the staging directory, and drops it when it ends,
unless artifacts are kept. Wherever a run is left, the files differ from those before it by no
more than that directory and the directories that were missing on the way to it.

The backends answer as they like. They are taken to leave the files alone, but for the copy out of
the container, which touches the one file that it is to write.
-/

namespace SealedBuild

variable {σ α : Type}

/-! ## Backends that keep to their files -/

/-- Two worlds with the same files. -/
abbrev World.SameFiles (world last : World σ) : Prop :=
  last.files = world.files

instance : IsPreorder (World σ) World.SameFiles where
  refl _ := rfl
  trans _ _ _ hfirst hsecond := hsecond.trans hfirst

/-- The action has no effect on the files. -/
abbrev Act.LeavesFiles (action : Act σ α) : Prop :=
  action.Leads World.SameFiles

/-- An executor that touches no file but the one that it copies to. -/
structure Executor.Confined (executor : Executor σ) : Prop where
  canExecute : ∀ job, (executor.canExecute job).LeavesFiles
  spawn : ∀ job, (executor.spawn job).LeavesFiles
  logs : ∀ handle, (executor.logs handle).LeavesFiles
  wait : ∀ handle, (executor.wait handle).LeavesFiles
  copyOut : ∀ handle source dest world,
    FileTree.Touches (world.files.target dest) world.files
      (executor.copyOut handle source dest world).2.files
  remove : ∀ handle, (executor.remove handle).LeavesFiles

/-! ## The files around a staging directory -/

namespace BuilderStage

variable (stage : BuilderStage σ) (id : RunId) (name : String)

/-- The location of a run's own staging directory. -/
def place (files : FileTree) : List String :=
  files.place stage.stagingDir id.short

theorem target_runStaging (files : FileTree) :
    files.target (stage.runStaging id) = stage.place id files :=
  FileTree.target_join id.ordinary_short

theorem target_stagedPath {name : String} (hname : HostPath.Ordinary name) (files : FileTree) :
    files.target (HostPath.join (stage.runStaging id) name) = stage.place id files ++ [name] := by
  rw [FileTree.target_join hname, target_runStaging]

/-- A location on the way to the staging directory at which a directory has been made. -/
structure Opened (start after : FileTree) (location : List String) : Prop where
  onWay : location ∈ start.way stage.stagingDir
  missing : start.get? location = none
  made : after.get? location = some .directory

/-- Nothing is staged, and nothing else has changed than the way to the staging directory. What
was below the run's own directory may have been dropped, unless artifacts are kept. -/
structure Cleared (start after : FileTree) : Prop where
  workingDir : after.workingDir = start.workingDir
  get? : ∀ location, after.get? location = start.get? location ∨
    stage.Opened start after location ∨
    stage.retain = false ∧ stage.place id start <+: location ∧ after.get? location = none

/-- The run's own directory is there, and may hold the artifact. -/
structure Staged (start after : FileTree) : Prop where
  workingDir : after.workingDir = start.workingDir
  get? : ∀ location, location ≠ stage.place id start →
    location ≠ stage.place id start ++ [name] →
    after.get? location = start.get? location ∨ stage.Opened start after location
  found : after.find (stage.runStaging id) = .ok .directory

variable {stage id name} {start after : FileTree}

theorem Cleared.refl (start : FileTree) : stage.Cleared id start start :=
  ⟨rfl, fun _ => .inl rfl⟩

theorem cleared_of_opens (h : FileTree.Opens (start.way stage.stagingDir) start after) :
    stage.Cleared id start after :=
  ⟨h.workingDir, fun location => (h.get? location).imp_right fun ⟨hmem, hmissing, hmade⟩ =>
    .inl ⟨hmem, hmissing, hmade⟩⟩

variable (name) in
/-- Making the run's own directory ends with it or without it. -/
theorem staged_of_createDirAll {result : Except FileFault Unit}
    (h : start.createDirAll (stage.runStaging id) = (after, result)) :
    (∃ fault, result = .error fault) ∧ stage.Cleared id start after ∨
      result = .ok () ∧ stage.Staged id name start after := by
  obtain ⟨opened, hopens, hend⟩ := FileTree.opens_createDirAll id.ordinary_short h
  refine hend.imp ?_ ?_
  · rintro ⟨hresult, rfl⟩
    exact ⟨hresult, cleared_of_opens hopens⟩
  · rintro ⟨hresult, hlast, hfound⟩
    refine ⟨hresult, hlast.workingDir.trans hopens.workingDir, fun location hplace _ => ?_, hfound⟩
    have hsame : after.get? location = opened.get? location :=
      hlast.unchanged (by rw [List.mem_singleton]; exact hplace)
    rw [hsame]
    exact (hopens.get? location).imp_right fun ⟨hmem, hmissing, hmade⟩ =>
      ⟨hmem, hmissing, hsame.trans hmade⟩

/-- The copy out of the container changes no more than the artifact. -/
theorem Staged.touches {copied : FileTree} (h : stage.Staged id name start after)
    (htouches : FileTree.Touches (stage.place id start ++ [name]) after copied) :
    stage.Staged id name start copied where
  workingDir := htouches.workingDir.trans h.workingDir
  get? location hplace hartifact := by
    have hsame := htouches.get? location hartifact
    rw [hsame]
    exact (h.get? location hplace hartifact).imp_right fun hopened =>
      ⟨hopened.onWay, hopened.missing, hsame.trans hopened.made⟩
  found := htouches.find_directory h.found

/-- Nothing but a directory is ever at the place of a run's own one. -/
theorem Cleared.place_not_file (h : stage.Cleared id start after)
    (hmissing : start.get? (stage.place id start) = none) (mode : Nat) (content : List UInt8) :
    after.get? (stage.place id start) ≠ some (.file mode content) := by
  intro hfile
  rcases h.get? (stage.place id start) with hsame | hopened | ⟨-, -, hnone⟩
  · rw [hsame, hmissing] at hfile
    cases hfile
  · rw [hopened.made] at hfile
    cases hfile
  · rw [hnone] at hfile
    cases hfile

theorem place_congr (h : after.workingDir = start.workingDir) :
    stage.place id after = stage.place id start := by
  rw [place, place, FileTree.place, FileTree.place, FileTree.target_congr h]

theorem discard_of_retain (hretain : stage.retain = true) (world : World σ) :
    (stage.discard id world).2 = world := by
  unfold discard
  rw [hretain, Bool.not_true, if_neg Bool.false_ne_true]
  rfl

theorem files_discard (hretain : stage.retain = false) (world : World σ) :
    (stage.discard id world).2.files =
      match world.files.removeDirAll (stage.runStaging id) with
      | .ok dropped => dropped
      | .error _ => world.files := by
  unfold discard
  rw [hretain, Bool.not_false, if_pos rfl, Act.bind_apply, Act.changeFiles_apply]
  cases world.files.removeDirAll (stage.runStaging id) <;> rfl

/-- Dropping what is staged clears it away, and the directory is not found any more. -/
theorem cleared_of_discard (hretain : stage.retain = false)
    (hmissing : start.get? (stage.place id start) = none) {world : World σ}
    (h : stage.Cleared id start world.files ∨ stage.Staged id name start world.files) :
    stage.Cleared id start (stage.discard id world).2.files ∧
      ∀ node, (stage.discard id world).2.files.find (stage.runStaging id) ≠ .ok node := by
  have hworkingDir : world.files.workingDir = start.workingDir :=
    h.elim Cleared.workingDir Staged.workingDir
  have htarget : world.files.target (stage.runStaging id) = stage.place id start := by
    rw [target_runStaging, place_congr hworkingDir]
  have hplace := start.place_ne_nil stage.stagingDir id.short
  rw [files_discard hretain]
  cases hfind : world.files.find (stage.runStaging id) with
  | error fault =>
      rw [FileTree.removeDirAll_of_missing hfind]
      refine ⟨h.resolve_right fun hstaged => ?_, fun node => by rw [hfind]; nofun⟩
      rw [hstaged.found] at hfind
      cases hfind
  | ok node =>
      cases node with
      | file mode content =>
          -- A file there would stay, but nothing has made one.
          have hnode := (FileTree.find_eq_ok_iff.mp hfind).2
          rw [htarget] at hnode
          rcases h with hcleared | hstaged
          · exact (hcleared.place_not_file hmissing mode content hnode).elim
          · rw [hstaged.found] at hfind
            cases hfind
      | directory =>
          rw [FileTree.removeDirAll_of_find hfind]
          refine ⟨⟨hworkingDir, fun location => ?_⟩,
            FileTree.find_prune_ne_ok (by rw [htarget]; exact hplace)⟩
          dsimp only
          rw [htarget]
          have hget : (world.files.prune (stage.place id start)).get? location =
              if stage.place id start <+: location then none else world.files.get? location :=
            FileTree.get?_prune hplace
          by_cases hbelow : stage.place id start <+: location
          · rw [if_pos hbelow] at hget
            exact .inr (.inr ⟨hretain, hbelow, hget⟩)
          · rw [if_neg hbelow] at hget
            rw [hget]
            have hchange : world.files.get? location = start.get? location ∨
                stage.Opened start world.files location := by
              rcases h with hcleared | hstaged
              · exact (hcleared.get? location).imp_right fun hother =>
                  hother.resolve_right fun hdropped => hbelow hdropped.2.1
              · refine hstaged.get? location ?_ ?_
                · rintro rfl
                  exact hbelow List.prefix_rfl
                · rintro rfl
                  exact hbelow (List.prefix_append _ _)
            exact hchange.imp_right fun hopened =>
              .inl ⟨hopened.onWay, hopened.missing, hget.trans hopened.made⟩

/-! ## The builder stage -/

section Stage

variable (id) {spec : BuilderSpec} (fingerprint : String) (handle : JobHandle)

/-- Once a run's own directory is there, taking the artifact out leaves it there. -/
theorem staged_of_extract (hexecutor : stage.executor.Confined)
    (hinspector : ∀ path, (stage.inspector.inspect path).LeavesFiles)
    (hname : HostPath.Ordinary spec.artifactName) {world : World σ}
    (h : stage.Staged id spec.artifactName start world.files) :
    let stagedPath := HostPath.join (stage.runStaging id) spec.artifactName
    stage.Staged id spec.artifactName start
      ((do
        let _ ← ExceptT.mk (stage.executor.copyOut handle spec.artifactPath stagedPath)
        let artifact ← ExceptT.mk (stage.verify spec stagedPath)
        pure ⟨artifact, fingerprint⟩ : ExceptT Failure (Act σ) Handoff).run world).2.files := by
  intro stagedPath
  have hcopied := hexecutor.copyOut handle spec.artifactPath stagedPath world
  rw [stage.target_stagedPath id hname, place_congr h.workingDir] at hcopied
  rw [Act.run_bind, Act.run_mk]
  rcases hcopy : stage.executor.copyOut handle spec.artifactPath stagedPath world with
    ⟨failure | size, copied⟩
  · rw [hcopy] at hcopied
    exact h.touches hcopied
  · rw [hcopy] at hcopied
    have hverified : Act.LeavesFiles
        (do
          let artifact ← ExceptT.mk (stage.verify spec stagedPath)
          pure ⟨artifact, fingerprint⟩ : ExceptT Failure (Act σ) Handoff).run :=
      .run_bind (leads_verify hinspector (fun _ => rfl) stagedPath) fun _ => .pure _
    dsimp only
    rw [hverified copied]
    exact h.touches hcopied

/-- A job is followed with the files left alone or with its own directory made. -/
theorem files_of_collect (hexecutor : stage.executor.Confined)
    (hinspector : ∀ path, (stage.inspector.inspect path).LeavesFiles)
    (hname : HostPath.Ordinary spec.artifactName) (world : World σ) :
    stage.Cleared id world.files (stage.collect handle id spec fingerprint world).2.files ∨
      stage.Staged id spec.artifactName world.files
        (stage.collect handle id spec fingerprint world).2.files := by
  have hwaited := hexecutor.wait handle world
  unfold collect
  rw [Act.run_bind, Act.run_mk]
  rcases hwait : stage.executor.wait handle world with ⟨failure | result, waited⟩
  · rw [hwait] at hwaited
    exact .inl (by rw [← hwaited]; exact .refl _)
  rw [hwait] at hwaited
  dsimp only at hwaited ⊢
  rw [← hwaited]
  cases hexit : Job.failureOfExit result.exitCode spec.artifactPath with
  | some failure => exact .inl (.refl _)
  | none =>
      dsimp only
      rw [Act.run_bind, Act.run_mk, prepare_apply]
      rcases hprepare : waited.files.createDirAll (stage.runStaging id) with ⟨prepared, fault | _⟩
      · rcases staged_of_createDirAll spec.artifactName hprepare with ⟨-, hcleared⟩ | ⟨hok, -⟩
        · exact .inl hcleared
        · cases hok
      · rcases staged_of_createDirAll spec.artifactName hprepare with
          ⟨⟨_, hfault⟩, -⟩ | ⟨-, hstaged⟩
        · cases hfault
        · exact .inr (staged_of_extract id fingerprint handle hexecutor hinspector hname hstaged)

theorem files_of_follow (hexecutor : stage.executor.Confined)
    (hinspector : ∀ path, (stage.inspector.inspect path).LeavesFiles)
    (hname : HostPath.Ordinary spec.artifactName) (world : World σ) :
    stage.Cleared id world.files (stage.follow handle id spec fingerprint world).2.files ∨
      stage.Staged id spec.artifactName world.files
        (stage.follow handle id spec fingerprint world).2.files := by
  have hlogged := hexecutor.logs handle world
  unfold follow
  rw [Act.bind_apply]
  rcases hlogs : stage.executor.logs handle world with ⟨failure | lines, logged⟩
  · rw [hlogs] at hlogged
    exact .inl (by rw [← hlogged]; exact .refl _)
  · rw [hlogs] at hlogged
    dsimp only at hlogged ⊢
    rw [← hlogged]
    exact files_of_collect id fingerprint handle hexecutor hinspector hname logged

/-- Removing the container changes no file; what a failed job has staged is dropped. -/
theorem files_of_release (hexecutor : stage.executor.Confined)
    (hmissing : start.get? (stage.place id start) = none) {world : World σ}
    (h : stage.Cleared id start world.files ∨ stage.Staged id name start world.files)
    (result : Except Failure Handoff) (lines : List LogLine) :
    let action : Act σ (Except Failure Handoff × List LogLine) := do
      let _ ← stage.executor.remove handle
      if let .error _ := result then stage.discard id
      pure (result, lines)
    stage.Cleared id start (action world).2.files ∨
      stage.Staged id name start (action world).2.files := by
  intro action
  rw [← hexecutor.remove handle world] at h
  cases result with
  | ok handoff => exact h
  | error failure =>
      change stage.Cleared id start
          (stage.discard id (stage.executor.remove handle world).2).2.files ∨
        stage.Staged id name start
          (stage.discard id (stage.executor.remove handle world).2).2.files
      cases hretain : stage.retain with
      | true =>
          rw [discard_of_retain hretain]
          exact h
      | false => exact .inl (cleared_of_discard hretain hmissing h).1

/-- Wherever a builder stage ends, the files around the staging directory are told. -/
theorem files_of_produce (hexecutor : stage.executor.Confined)
    (hinspector : ∀ path, (stage.inspector.inspect path).LeavesFiles)
    (hname : HostPath.Ordinary spec.artifactName) {world : World σ}
    (hmissing : world.files.get? (stage.place id world.files) = none) :
    stage.Cleared id world.files (stage.produce id spec fingerprint world).2.files ∨
      stage.Staged id spec.artifactName world.files
        (stage.produce id spec fingerprint world).2.files := by
  unfold produce
  rw [Act.bind_apply]
  cases hjob : Job.ofBuilder (Act.files world).1.workingPath id spec with
  | error failure => exact .inl (.refl _)
  | ok job =>
      dsimp only [Act.files]
      rw [Act.bind_apply]
      have hasked := hexecutor.canExecute job world
      rcases hask : stage.executor.canExecute job world with ⟨available, asked⟩
      rw [hask] at hasked
      dsimp only at hasked
      cases available with
      | false => exact .inl (by rw [← hasked]; exact .refl _)
      | true =>
          rw [if_pos rfl, Act.bind_apply]
          have hspawned := hexecutor.spawn job asked
          rcases hspawn : stage.executor.spawn job asked with ⟨failure | handle, spawned⟩
          · rw [hspawn] at hspawned
            exact .inl (by rw [← hasked, ← hspawned]; exact .refl _)
          · rw [hspawn] at hspawned
            dsimp only at hspawned ⊢
            have hstart : spawned.files = world.files := hspawned.trans hasked
            rw [← hstart] at hmissing ⊢
            rw [Act.bind_apply]
            exact files_of_release id handle hexecutor hmissing
              (files_of_follow id fingerprint handle hexecutor hinspector hname spawned) _ _

end Stage

/-! ## Whole runs -/

variable (stage id name) in
/-- What a run has changed on the host when it is over. -/
structure Framed (start after : FileTree) : Prop where
  /-- Without retention the run's own directory is not there, and nothing else has changed than
  the way to the staging directory. -/
  dropped : stage.retain = false →
    (∀ node, after.find (stage.runStaging id) ≠ .ok node) ∧
      ∀ location, after.get? location = start.get? location ∨
        stage.Opened start after location ∨
        stage.place id start <+: location ∧ after.get? location = none
  /-- With retention the run's own directory and the artifact in it may be there as well. -/
  kept : stage.retain = true →
    (after.get? (stage.place id start) = none ∨
      after.get? (stage.place id start) = some .directory) ∧
      ∀ location, location ≠ stage.place id start →
        location ≠ stage.place id start ++ [name] →
        after.get? location = start.get? location ∨ stage.Opened start after location

theorem Framed.refl (hmissing : start.get? (stage.place id start) = none) :
    stage.Framed id name start start where
  dropped _ := by
    refine ⟨fun node hfound => ?_, fun _ => .inl rfl⟩
    have hnode := (FileTree.find_eq_ok_iff.mp hfound).2
    rw [target_runStaging, hmissing] at hnode
    cases hnode
  kept _ := ⟨.inl hmissing, fun _ _ _ => .inl rfl⟩

/-- What is left when what was staged has been dropped, unless artifacts are kept. -/
theorem framed_of_discard (hmissing : start.get? (stage.place id start) = none) {world : World σ}
    (h : stage.Cleared id start world.files ∨ stage.Staged id name start world.files) :
    stage.Framed id name start (stage.discard id world).2.files where
  dropped hretain := by
    obtain ⟨hcleared, hgone⟩ := cleared_of_discard hretain hmissing h
    exact ⟨hgone, fun location => (hcleared.get? location).imp_right (Or.imp_right And.right)⟩
  kept hretain := by
    rw [discard_of_retain hretain]
    rcases h with hcleared | hstaged
    · have hget (location : List String) : world.files.get? location = start.get? location ∨
          stage.Opened start world.files location :=
        (hcleared.get? location).imp_right fun hother =>
          hother.resolve_right fun hdropped => by
            rw [hretain] at hdropped
            cases hdropped.1
      refine ⟨(hget (stage.place id start)).imp (fun hsame => hsame.trans hmissing) Opened.made,
        fun location _ _ => hget location⟩
    · have hplace := (FileTree.find_eq_ok_iff.mp hstaged.found).2
      rw [target_runStaging, place_congr hstaged.workingDir] at hplace
      exact ⟨.inr hplace, hstaged.get?⟩

end BuilderStage

theorem RuntimeStage.leavesFiles_package {stage : RuntimeStage σ}
    (hassembler : ∀ request, (stage.assembler.assemble request).LeavesFiles) (pipeline : String)
    (spec : RuntimeSpec) (handoff : Handoff) :
    (stage.package pipeline spec handoff).LeavesFiles := by
  refine Act.Leads.run_bind (.run_lift .files) fun files => ?_
  refine Act.Leads.run_bind (.pure _) fun _ => ?_
  refine Act.Leads.run_bind (.pure _) fun tag => ?_
  refine Act.Leads.run_bind (hassembler _) fun imageId => ?_
  exact .run_bind (.run_lift fun _ => rfl) fun createdAt => .pure _

namespace Orchestrator

variable {stage : BuilderStage σ} {runtime : RuntimeStage σ} {id : RunId}
  {definition : PipelineDefinition} {start finish : World σ} {events : List Event}
  {outcome : RunOutcome}

theorem files_of_built (hexecutor : stage.executor.Confined)
    (hinspector : ∀ path, (stage.inspector.inspect path).LeavesFiles)
    (hname : HostPath.Ordinary definition.builder.artifactName)
    (hmissing : start.files.get? (stage.place id start.files) = none)
    {result : Except Failure Handoff × List LogLine} {built : World σ}
    (h : stage.produce id definition.builder definition.fingerprint start.tick.tick =
      (result, built)) :
    stage.Cleared id start.files built.files ∨
      stage.Staged id definition.builder.artifactName start.files built.files := by
  have hplace : start.tick.tick.files.get? (stage.place id start.tick.tick.files) = none := hmissing
  have hfiles := BuilderStage.files_of_produce id definition.fingerprint hexecutor hinspector hname
    hplace
  rwa [h] at hfiles

theorem files_of_packed
    (hassembler : ∀ request, (runtime.assembler.assemble request).LeavesFiles)
    {handoff : Handoff} {result : Except Failure RuntimeImage} {built packed : World σ}
    (h : runtime.package definition.name definition.runtime handoff built.tick.tick =
      (result, packed)) : packed.files = built.files := by
  have hfiles := RuntimeStage.leavesFiles_package hassembler definition.name definition.runtime
    handoff built.tick.tick
  rw [h] at hfiles
  exact hfiles

/-- Whichever course a run takes, its own directory is dropped when it ends. -/
theorem Course.framed (hexecutor : stage.executor.Confined)
    (hinspector : ∀ path, (stage.inspector.inspect path).LeavesFiles)
    (hassembler : ∀ request, (runtime.assembler.assemble request).LeavesFiles)
    (hname : HostPath.Ordinary definition.builder.artifactName)
    (hmissing : start.files.get? (stage.place id start.files) = none)
    (h : (ofStages stage runtime).Course id definition start events outcome finish) :
    stage.Framed id definition.builder.artifactName start.files finish.files := by
  cases h with
  | refused => exact .refl hmissing
  | unbuilt _ hproduce hdiscard =>
      subst hdiscard
      exact BuilderStage.framed_of_discard hmissing
        (files_of_built hexecutor hinspector hname hmissing hproduce)
  | @unpackaged _ _ _ built packed _ _ hproduce hpackage hdiscard
  | @packaged _ _ _ built packed _ _ hproduce hpackage hdiscard =>
      subst hdiscard
      have hpacked : packed.files = built.files := files_of_packed hassembler hpackage
      apply BuilderStage.framed_of_discard hmissing
      rw [hpacked]
      exact files_of_built hexecutor hinspector hname hmissing hproduce

/-- An artifact that is kept is still the one that the image records. -/
theorem Course.artifact_kept (hexecutor : stage.executor.Confined)
    (hinspector : ∀ path, (stage.inspector.inspect path).LeavesFiles)
    (hassembler : ∀ request, (runtime.assembler.assemble request).LeavesFiles)
    (hname : HostPath.Ordinary definition.builder.artifactName)
    (hmissing : start.files.get? (stage.place id start.files) = none)
    (h : (ofStages stage runtime).Course id definition start events outcome finish)
    (hretain : stage.retain = true) {image : RuntimeImage} (himage : outcome.image = some image) :
    ∃ mode content,
      finish.files.get? (stage.place id start.files ++ [definition.builder.artifactName]) =
        some (.file mode content) ∧
      content.length = image.artifact.size ∧ Sha256.hex content = image.artifact.checksum := by
  cases h with
  | refused => cases himage
  | unbuilt => cases himage
  | unpackaged => cases himage
  | @packaged handoff _ _ built packed _ _ hproduce hpackage hdiscard =>
      cases himage
      subst hdiscard
      -- The file was checked against its record before it was packed, and is not touched later.
      obtain ⟨-, ⟨passage⟩⟩ := BuilderStage.passage_of_produce hproduce
      obtain ⟨assembly⟩ := RuntimeStage.assembly_of_package hpackage
      obtain ⟨mode, content, hfind, hsize, hchecksum⟩ :=
        Handoff.check_eq_ok_iff.mp assembly.verified
      have hbuilt := files_of_built hexecutor hinspector hname hmissing hproduce
      have hworkingDir : built.files.workingDir = start.files.workingDir :=
        hbuilt.elim BuilderStage.Cleared.workingDir BuilderStage.Staged.workingDir
      have hpath : handoff.artifact.stagedPath = stage.stagedPath id definition.builder :=
        passage.extraction.examination.describes.stagedPath
      have hnode := (FileTree.find_eq_ok_iff.mp hfind).2
      have hplace : built.tick.tick.files.target handoff.artifact.stagedPath =
          stage.place id start.files ++ [definition.builder.artifactName] := by
        rw [hpath, BuilderStage.stagedPath, stage.target_stagedPath id hname]
        exact congrArg (· ++ _) (BuilderStage.place_congr hworkingDir)
      have hpacked : packed.files = built.files := files_of_packed hassembler hpackage
      have hfinish : ((ofStages stage runtime).producer.discard id packed).2 = packed :=
        BuilderStage.discard_of_retain hretain packed
      rw [assembly.artifact]
      refine ⟨mode, content, ?_, hsize, hchecksum⟩
      rw [hfinish, ← hplace]
      exact (congrArg (FileTree.get? · _) hpacked).trans hnode

/-- A run leaves the host as it was, but for the way to the staging directory and, where artifacts
are kept, for its own directory with the artifact in it, which is then the one that its image
records. A run that the check refuses changes nothing. -/
theorem execute_frames_staging (hexecutor : stage.executor.Confined)
    (hinspector : ∀ path, (stage.inspector.inspect path).LeavesFiles)
    (hassembler : ∀ request, (runtime.assembler.assemble request).LeavesFiles)
    (hname : HostPath.Ordinary definition.builder.artifactName)
    (hmissing : start.files.get? (stage.place id start.files) = none)
    (h : (ofStages stage runtime).execute id definition start = ((events, outcome), finish)) :
    stage.Framed id definition.builder.artifactName start.files finish.files ∧
      (stage.retain = true → ∀ image, outcome.image = some image →
        ∃ mode content,
          finish.files.get? (stage.place id start.files ++ [definition.builder.artifactName]) =
            some (.file mode content) ∧
          content.length = image.artifact.size ∧
          Sha256.hex content = image.artifact.checksum) ∧
      ∀ failure, (ofStages stage runtime).precheck definition definition.fingerprint =
        .error failure → finish.files = start.files := by
  have hcourse := course_of_execute h
  refine ⟨hcourse.framed hexecutor hinspector hassembler hname hmissing,
    fun hretain _ himage => hcourse.artifact_kept hexecutor hinspector hassembler hname hmissing
      hretain himage, fun failure herror => ?_⟩
  rw [execute_apply, herror] at h
  cases h
  rfl

end Orchestrator

/-! ## Rehearsals -/

namespace Rehearsal

theorem Deposit.touches_of_place {deposit : Deposit} {dest : String} {files after : FileTree}
    (h : deposit.place dest files = .ok after) :
    FileTree.Touches (files.target dest) files after := by
  cases deposit with
  | file content =>
      obtain ⟨hdirectory, mode, rfl⟩ := FileTree.write_eq_ok h
      exact .put hdirectory
  | directory =>
      obtain ⟨hmissing, rfl⟩ := FileTree.createDir_eq_ok h
      exact .put (by rw [hmissing]; nofun)

theorem leavesFiles_record (call : BackendCall) : (record call).LeavesFiles :=
  fun _ => rfl

theorem leavesFiles_stamped (lines : List (LogStream × String)) : (stamped lines).LeavesFiles := by
  induction lines with
  | nil => exact .pure _
  | cons line rest ih =>
      obtain ⟨stream, content⟩ := line
      exact .bind (fun _ => rfl) fun _ => .bind ih fun _ => .pure _

/-- Whatever its script is, a rehearsed executor writes the file that it is to copy, and no
other. -/
theorem confined_executor (script : ExecutorScript) : (executor script).Confined where
  canExecute job := .bind (leavesFiles_record _) fun _ => .pure _
  spawn job := .bind (leavesFiles_record _) fun _ => .pure _
  logs handle := by
    apply Act.Leads.bind (leavesFiles_record _)
    intro _
    cases script.logs with
    | error failure => exact .pure _
    | ok lines => exact .bind (leavesFiles_stamped lines) fun _ => .pure _
  wait handle := .bind (leavesFiles_record _) fun _ => .pure _
  copyOut handle source dest world := by
    rcases hcopied : script.copied with failure | deposit
    · simp only [executor, hcopied]
      exact .refl _ _
    · simp only [executor, hcopied]
      rw [Act.bind_apply, Act.bind_apply, Act.changeFiles_apply]
      have hfiles : (record (.copyOut handle source dest) world).2.files = world.files := rfl
      rw [hfiles]
      cases hplace : deposit.place dest world.files with
      | error fault => exact .refl _ _
      | ok after => exact deposit.touches_of_place hplace
  remove handle := .bind (leavesFiles_record _) fun _ => .pure _

/-- The same builder stage, with its artifacts kept. -/
def keptBuilder : BuilderStage Record :=
  { smoothBuilder with retain := true }

theorem kept_run_framed :
    let ended := (Orchestrator.ofStages keptBuilder smoothRuntime).execute ⟨1⟩
      PipelineDefinition.sample emptyWorld
    let place := keptBuilder.place ⟨1⟩ emptyWorld.files
    HostPath.Ordinary PipelineDefinition.sample.builder.artifactName ∧
      emptyWorld.files.get? place = none ∧
      keptBuilder.Framed ⟨1⟩ PipelineDefinition.sample.builder.artifactName emptyWorld.files
        ended.2.files ∧
      ∃ image mode content, ended.1.2.image = some image ∧
        ended.2.files.get? (place ++ [PipelineDefinition.sample.builder.artifactName]) =
          some (.file mode content) ∧
        content.length = image.artifact.size ∧ Sha256.hex content = image.artifact.checksum := by
  intro ended place
  have hname : HostPath.Ordinary PipelineDefinition.sample.builder.artifactName := by
    decide +kernel
  have hmissing : emptyWorld.files.get? place = none := by decide +kernel
  have hpackaged : ended.1.2.image.isSome = true := by decide +kernel
  obtain ⟨image, himage⟩ := Option.isSome_iff_exists.mp hpackaged
  obtain ⟨hframed, hkept, -⟩ := Orchestrator.execute_frames_staging (confined_executor _)
    (fun _ => .bind (leavesFiles_record _) fun _ => .pure _)
    (fun _ => .bind (leavesFiles_record _) fun _ => .pure _) hname hmissing (rfl : _ = ended)
  obtain ⟨mode, content, hnode⟩ := hkept rfl image himage
  exact ⟨hname, hmissing, hframed, image, mode, content, himage, hnode⟩

end Rehearsal

end SealedBuild
