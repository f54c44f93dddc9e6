import SealedBuild.Proofs.Artifact.Handoff
import SealedBuild.Proofs.Files.Site
import SealedBuild.Proofs.Ledger

/-!
# Histories of a staged file

Between the handoff and its packaging a staged file may be written, removed and replaced by a
directory, any number of times, and the handoff may be checked as often. The check looks at what is
there now: a file that was changed and then put back is good again, and one of other content is not,
however it came there. A check does nothing to the files, and the runtime stage asks for an image
only where the check is good.

Nothing happens at other paths here, and nothing between the check of a packaging and its request.
-/

namespace SealedBuild

variable {σ : Type}

namespace FileTree.Site

variable {path : String} {location : List String} {t : FileTree}

/-- What is at the place after any number of changes is told by these, one after the other. -/
theorem holding_foldl (h : Site path location t) (changes : List PathChange) :
    (changes.foldl (PathChange.apply path) t).holding path =
      changes.foldl PathChange.effect (t.holding path) := by
  induction changes generalizing t with
  | nil => rfl
  | cons change changes ih =>
      rw [List.foldl_cons, List.foldl_cons, ih (h.apply change), h.holding_apply]

end FileTree.Site

theorem FileTree.holding_eq_file_iff {t : FileTree} {path : String} {content : List UInt8} :
    t.holding path = .file content ↔ ∃ mode, t.find path = .ok (.file mode content) := by
  unfold holding
  rcases t.find path with fault | (- | ⟨mode, found⟩) <;> simp

namespace Handoff

/-! ## One check -/

/-- A file of the recorded size and checksum is there. -/
def Good (handoff : Handoff) (held : Holding) : Prop :=
  ∃ content, held = .file content ∧ content.length = handoff.artifact.size ∧
    Sha256.hex content = handoff.artifact.checksum

theorem verify_eq_ok_iff_good {handoff : Handoff} {files : FileTree} :
    handoff.verify files = .ok () ↔ handoff.Good (files.holding handoff.artifact.stagedPath) := by
  rw [verify, mapError_eq_ok_iff, check_eq_ok_iff, Good]
  simp only [FileTree.holding_eq_file_iff]
  constructor
  · rintro ⟨mode, content, hfind, hsame⟩
    exact ⟨content, ⟨mode, hfind⟩, hsame⟩
  · rintro ⟨content, ⟨mode, hfind⟩, hsame⟩
    exact ⟨mode, content, hfind, hsame⟩

/-- A handoff that is not good is refused as one. -/
theorem artifactHandoff_of_verify {handoff : Handoff} {files : FileTree} {failure : Failure}
    (h : handoff.verify files = .error failure) : ∃ detail, failure = .artifactHandoff detail := by
  unfold verify at h
  cases hcheck : handoff.check files with
  | ok _ =>
      rw [hcheck] at h
      cases h
  | error fault =>
      rw [hcheck] at h
      cases h
      exact ⟨fault.message, rfl⟩

/-- The file that was measured for the handoff is good. -/
theorem good_of_checksum {handoff : Handoff} {files : FileTree}
    (h : checksum files handoff.artifact.stagedPath =
      .ok (handoff.artifact.size, handoff.artifact.checksum)) :
    handoff.Good (files.holding handoff.artifact.stagedPath) := by
  obtain ⟨content, hread, hmeasured⟩ := bind_eq_ok_iff.mp h
  obtain ⟨hsize, hchecksum⟩ := Prod.mk.inj (Except.ok.inj hmeasured)
  exact ⟨content, FileTree.holding_eq_file_iff.mpr (FileTree.read_eq_ok_iff.mp hread), hsize,
    hchecksum⟩

/-- The answer of a check on what is there. -/
structure Judges (handoff : Handoff) (held : Holding) (answer : Except Failure Unit) : Prop where
  accepted : answer = .ok () ↔ handoff.Good held
  refused : ∀ failure, answer = .error failure → ∃ detail, failure = .artifactHandoff detail

theorem judges_verify (handoff : Handoff) (files : FileTree) :
    handoff.Judges (files.holding handoff.artifact.stagedPath) (handoff.verify files) :=
  ⟨verify_eq_ok_iff_good, fun _ => artifactHandoff_of_verify⟩

/-! ## Any number of them -/

/-- A step in the history of a staged file: a change is tried at its path, or the handoff is
checked. -/
inductive Step where
  | change (change : PathChange)
  | check
  deriving DecidableEq, Inhabited

/-- The changes that are tried in a history, in order. -/
def changes (history : List Step) : List PathChange :=
  history.filterMap fun
    | .change change => some change
    | .check => none

/-- Checks the handoff on the files as they are. -/
def checkNow (handoff : Handoff) : Act σ (Except Failure Unit) := do
  pure (handoff.verify (← Act.files))

/-- Goes through a history, and gives the answers of its checks in order. -/
def perform (handoff : Handoff) : List Step → Act σ (List (Except Failure Unit))
  | [] => pure []
  | .change change :: history => do
    Act.setFiles (change.apply handoff.artifact.stagedPath (← Act.files))
    handoff.perform history
  | .check :: history => do
    let answer ← handoff.checkNow
    let answers ← handoff.perform history
    pure (answer :: answers)

/-- The answers of a history that starts with something at the path: each judges what the changes
before it came to. -/
inductive Answered (handoff : Handoff) :
    Holding → List Step → List (Except Failure Unit) → Prop where
  | done (held : Holding) : Answered handoff held [] []
  | change {held : Holding} {history : List Step} {answers : List (Except Failure Unit)}
      (change : PathChange) (h : Answered handoff (change.effect held) history answers) :
      Answered handoff held (.change change :: history) answers
  | check {held : Holding} {history : List Step} {answer : Except Failure Unit}
      {answers : List (Except Failure Unit)} (hanswer : handoff.Judges held answer)
      (h : Answered handoff held history answers) :
      Answered handoff held (.check :: history) (answer :: answers)

/-- A history leaves what its changes alone leave. -/
theorem perform_world (handoff : Handoff) (history : List Step) (world : World σ) :
    (handoff.perform history world).2 =
      { world with
        files := (changes history).foldl (PathChange.apply handoff.artifact.stagedPath)
          world.files } := by
  induction history generalizing world with
  | nil => rfl
  | cons step history ih =>
      cases step with
      | change change => exact ih { world with files := change.apply _ world.files }
      | check => exact ih world

/-- The checks of a history see what the changes before them came to. -/
theorem answered_perform {handoff : Handoff} {location : List String} {world : World σ}
    (hsite : FileTree.Site handoff.artifact.stagedPath location world.files)
    (history : List Step) :
    handoff.Answered (world.files.holding handoff.artifact.stagedPath) history
      (handoff.perform history world).1 := by
  induction history generalizing world with
  | nil => exact .done _
  | cons step history ih =>
      cases step with
      | change change =>
          -- The place stays one, whatever is put there, so the rest starts from what was left.
          let changed : World σ :=
            { world with files := change.apply handoff.artifact.stagedPath world.files }
          have hrest : handoff.Answered (changed.files.holding handoff.artifact.stagedPath) history
            (handoff.perform history changed).1 := ih (hsite.apply change)
          rw [hsite.holding_apply] at hrest
          exact .change change hrest
      | check => exact .check (handoff.judges_verify world.files) (ih hsite)

end Handoff

/-! ## What comes to the assembler -/

/-- What the assembler is asked for under a tag. -/
def Handoff.request (handoff : Handoff) (pipeline : String) (spec : RuntimeSpec) (tag : String) :
    AssemblyRequest :=
  .ofArtifact spec handoff.artifact tag pipeline handoff.fingerprint

/-- An assembler enters the request that it gets, with the files that it finds. -/
theorem Assembler.ledger_entered (assembler : Assembler σ) (request : AssemblyRequest)
    (world : World σ) :
    (assembler.entered.assemble request world.opened).2.ledger =
      [⟨.assemble request (assembler.assemble request world).1, world.files,
        (assembler.assemble request world).2.files⟩] := rfl

namespace RuntimeStage

variable {stage : RuntimeStage σ} {pipeline tag : String} {spec : RuntimeSpec} {handoff : Handoff}
  {world : World σ}

/-- The tag under which a handoff comes to the assembler, or why it does not come there. -/
def tagFor (stage : RuntimeStage σ) (pipeline : String) (spec : RuntimeSpec) (handoff : Handoff)
    (files : FileTree) : Except Failure String := do
  handoff.verify files
  resolveTag stage.tag pipeline spec handoff.fingerprint

/-- A handoff that does not come to the assembler leaves the world as it is. -/
theorem package_of_tagFor_error {failure : Failure}
    (h : stage.tagFor pipeline spec handoff world.files = .error failure) :
    stage.package pipeline spec handoff world = (.error failure, world) := by
  unfold tagFor at h
  unfold package
  rw [Act.run_bind, Act.run_lift]
  dsimp only [Act.files]
  rw [Act.run_bind, Act.run_mk, Act.pure_apply]
  cases hverify : handoff.verify world.files with
  | error refused =>
      rw [hverify] at h
      cases h
      rfl
  | ok _ =>
      rw [hverify] at h
      dsimp only
      rw [Act.run_bind, Act.run_mk, Act.pure_apply]
      have htag : resolveTag stage.tag pipeline spec handoff.fingerprint = .error failure := h
      rw [htag]

/-- One that does is assembled in the world in which it was checked. The clock is read once more if
that succeeds. -/
theorem world_of_tagFor_ok (h : stage.tagFor pipeline spec handoff world.files = .ok tag) :
    (stage.package pipeline spec handoff world).2 =
      let asked := stage.assembler.assemble (handoff.request pipeline spec tag) world
      if asked.1.toBool then asked.2.tick else asked.2 := by
  obtain ⟨hverify, htag⟩ := check_bind_eq_ok_iff.mp h
  unfold package
  rw [Act.run_bind, Act.run_lift]
  dsimp only [Act.files]
  rw [Act.run_bind, Act.run_mk, Act.pure_apply, hverify]
  dsimp only
  rw [Act.run_bind, Act.run_mk, Act.pure_apply, htag]
  dsimp only
  rw [Act.run_bind, Act.run_mk, ← Handoff.request]
  rcases stage.assembler.assemble _ world with ⟨failure | id, after⟩ <;> rfl

/-- The ledger of a packaging has a request exactly when the handoff comes to the assembler, and the
request finds the files that were checked. -/
theorem mem_ledger_package_iff {entry : LedgerEntry} :
    entry ∈ (stage.entered.package pipeline spec handoff world.opened).2.ledger ↔
      ∃ tag, stage.tagFor pipeline spec handoff world.files = .ok tag ∧
        let request := handoff.request pipeline spec tag
        let asked := stage.assembler.assemble request world
        entry = ⟨.assemble request asked.1, world.files, asked.2.files⟩ := by
  cases htag : stage.tagFor pipeline spec handoff world.files with
  | error failure =>
      have hrefused : stage.entered.package pipeline spec handoff world.opened =
          (.error failure, world.opened) := package_of_tagFor_error htag
      simp [hrefused]
  | ok tag =>
      have hentered : stage.entered.tagFor pipeline spec handoff world.opened.files = .ok tag :=
        htag
      have hledger : (stage.entered.package pipeline spec handoff world.opened).2.ledger =
          (stage.assembler.entered.assemble (handoff.request pipeline spec tag)
            world.opened).2.ledger := by
        rw [world_of_tagFor_ok hentered]
        dsimp only
        split <;> rfl
      rw [hledger, stage.assembler.ledger_entered, List.mem_singleton]
      simp

end RuntimeStage

/-! ## Verdicts -/

namespace Handoff

/-- A world in which something is at the path of a handoff. A check judges that and changes nothing,
and where it refuses the handoff a packaging does the same. A packaging goes as it does when its
calls are written down, and then has a request exactly when the check is good and a tag is settled;
the request finds the files that were checked. -/
structure JudgedIn (handoff : Handoff) (held : Holding) (now : World σ) : Prop where
  holding : now.files.holding handoff.artifact.stagedPath = held
  judged : handoff.Judges held (handoff.checkNow now).1
  unchanged : (handoff.checkNow now).2 = now
  refused : ∀ (stage : RuntimeStage σ) (pipeline : String) (spec : RuntimeSpec) (failure : Failure),
    (handoff.checkNow now).1 = .error failure →
      stage.package pipeline spec handoff now = (.error failure, now)
  plain : ∀ (stage : RuntimeStage σ) (pipeline : String) (spec : RuntimeSpec),
    let entered := stage.entered.package pipeline spec handoff now.opened
    stage.package pipeline spec handoff now = (entered.1, entered.2.closed)
  requested : ∀ (stage : RuntimeStage σ) (pipeline : String) (spec : RuntimeSpec)
    (entry : LedgerEntry),
    entry ∈ (stage.entered.package pipeline spec handoff now.opened).2.ledger ↔
      (handoff.checkNow now).1 = .ok () ∧
        ∃ tag, RuntimeStage.resolveTag stage.tag pipeline spec handoff.fingerprint = .ok tag ∧
          let request := handoff.request pipeline spec tag
          let asked := stage.assembler.assemble request now
          entry = ⟨.assemble request asked.1, now.files, asked.2.files⟩

theorem judgedIn (handoff : Handoff) (now : World σ) :
    handoff.JudgedIn (now.files.holding handoff.artifact.stagedPath) now where
  holding := rfl
  judged := handoff.judges_verify now.files
  unchanged := rfl
  refused stage pipeline spec failure h := by
    have hverify : handoff.verify now.files = .error failure := h
    refine RuntimeStage.package_of_tagFor_error ?_
    rw [RuntimeStage.tagFor, hverify]
    rfl
  plain stage pipeline spec := Act.Enters.package stage pipeline spec handoff now.opened
  requested stage pipeline spec entry := by
    have hcheck : (handoff.checkNow now).1 = handoff.verify now.files := rfl
    rw [RuntimeStage.mem_ledger_package_iff, hcheck]
    unfold RuntimeStage.tagFor
    simp only [check_bind_eq_ok_iff]
    constructor
    · rintro ⟨tag, ⟨hverify, htag⟩, hentry⟩
      exact ⟨hverify, tag, htag, hentry⟩
    · rintro ⟨hverify, tag, htag, hentry⟩
      exact ⟨tag, ⟨hverify, htag⟩, hentry⟩

/-- A handoff of a measured file is judged by what the changes at its path come to, at each check of
a history and after it. Where they come to what was there, the handoff is good. -/
theorem judged_through_history {handoff : Handoff} {start : World σ}
    (hgrounded : start.files.Grounded)
    (hmade : checksum start.files handoff.artifact.stagedPath =
      .ok (handoff.artifact.size, handoff.artifact.checksum))
    (history : List Step) :
    let path := handoff.artifact.stagedPath
    let made := start.files.holding path
    let held := (changes history).foldl PathChange.effect made
    let answers := (handoff.perform history start).1
    let now := (handoff.perform history start).2
    now = { start with files := (changes history).foldl (PathChange.apply path) start.files } ∧
      handoff.Answered made history answers ∧ handoff.JudgedIn held now ∧
      (held = made → (handoff.checkNow now).1 = .ok ()) := by
  intro path made held answers now
  obtain ⟨content, hfile, -⟩ := good_of_checksum hmade
  obtain ⟨mode, hfind⟩ := FileTree.holding_eq_file_iff.mp hfile
  have hsite := FileTree.site_of_find hgrounded hfind
  have hnow : now = { start with
      files := (changes history).foldl (PathChange.apply path) start.files } :=
    handoff.perform_world history start
  have hholding : now.files.holding path = held := by
    rw [hnow]
    exact hsite.holding_foldl (changes history)
  have hjudged : handoff.JudgedIn held now := hholding ▸ handoff.judgedIn now
  refine ⟨hnow, answered_perform hsite history, hjudged, fun hrestored => ?_⟩
  have hgood : handoff.Good held := hrestored ▸ good_of_checksum hmade
  exact hjudged.judged.accepted.mpr hgood

/-- A handoff of the four bytes that an executable starts with. -/
def sample : Handoff where
  artifact := {
    name := "service"
    sourcePath := "/out/service"
    stagedPath := "service"
    architecture := .x86_64
    linkage := .static
    stripped := true
    size := 4
    checksum := Sha256.hex [0x7f, 0x45, 0x4c, 0x46]
    producedAt := ⟨0, 0⟩ }
  fingerprint := "f00d"

/-- A host on which it is staged, in the working directory. -/
def sampleWorld : World Unit where
  files := {
    nodes := [(["work"], .directory),
      (["work", "service"], .file 0o755 [0x7f, 0x45, 0x4c, 0x46])]
    workingDir := ["work"] }
  clock _ := ⟨0, 0⟩
  backend := ()

/-- The file makes room for a directory and comes back. -/
def restoring : List Step :=
  [.change .remove, .check, .change .createDir, .check, .change .remove,
    .change (.write [0x7f, 0x45, 0x4c, 0x46]), .check]

/-- A directory finds no room beside the file, which is then overwritten. -/
def overwriting : List Step :=
  [.check, .change .createDir, .check, .change (.write [0x7f]), .check]

theorem sample_judged_through_history :
    sampleWorld.files.Grounded ∧
      checksum sampleWorld.files sample.artifact.stagedPath =
        .ok (sample.artifact.size, sample.artifact.checksum) ∧
      (sample.checkNow (sample.perform restoring sampleWorld).2).1 = .ok () ∧
      (sample.checkNow (sample.perform overwriting sampleWorld).2).1 ≠ .ok () ∧
      ∀ (stage : RuntimeStage Unit) (spec : RuntimeSpec),
        (stage.entered.package "service" spec sample
          (sample.perform overwriting sampleWorld).2.opened).2.ledger = [] := by
  have hgrounded : sampleWorld.files.Grounded := FileTree.grounded_of_nodes (by decide)
  have hmade : checksum sampleWorld.files sample.artifact.stagedPath =
      .ok (sample.artifact.size, sample.artifact.checksum) := by decide +kernel
  obtain ⟨-, -, -, hrestored⟩ := judged_through_history hgrounded hmade restoring
  obtain ⟨-, -, hjudged, -⟩ := judged_through_history hgrounded hmade overwriting
  have hheld : (changes overwriting).foldl PathChange.effect
      (sampleWorld.files.holding sample.artifact.stagedPath) = .file [0x7f] := by decide +kernel
  have hother : (sample.checkNow (sample.perform overwriting sampleWorld).2).1 ≠ .ok () := by
    rw [Ne, hjudged.judged.accepted, hheld]
    rintro ⟨_, ⟨⟩, hsize, -⟩
    cases hsize
  refine ⟨hgrounded, hmade, hrestored (by decide +kernel), hother, fun stage spec => ?_⟩
  rw [List.eq_nil_iff_forall_not_mem]
  intro entry hentry
  exact hother ((hjudged.requested stage "service" spec entry).mp hentry).1

end Handoff

end SealedBuild
