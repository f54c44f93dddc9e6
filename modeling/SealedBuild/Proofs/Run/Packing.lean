import Mathlib.Logic.Function.Iterate
import Mathlib.Logic.Relation
import SealedBuild.Proofs.Artifact.Handoff
import SealedBuild.Proofs.Image.Context
import SealedBuild.RuntimeStage

/-!
# Packing beside an outside process

A handoff is looked at, measured and, once the tag is settled, packed. Each of these steps reads
the staged file anew, and another process may change the files between any two of them. What is
packed is the file as the last reading finds it, while the label tells the checksum of the build.
No step compares the two again.

Only changes between steps are told. A reading itself takes the file as it is at one moment.
-/

namespace SealedBuild

namespace Handoff

/-- Whether the staged path leads to a regular file. -/
def look (handoff : Handoff) (files : FileTree) : Except Failure Unit :=
  let path := handoff.artifact.stagedPath
  match files.find path with
  | .error fault => .error (.artifactHandoff (HandoffFault.missing path fault).message)
  | .ok .directory => .error (.artifactHandoff (HandoffFault.notRegular path).message)
  | .ok (.file _ _) => .ok ()

/-- Whether the staged file has the recorded size and checksum. -/
def measure (handoff : Handoff) (files : FileTree) : Except Failure Unit :=
  let path := handoff.artifact.stagedPath
  match checksum files path with
  | .error fault => .error (.io fault)
  | .ok (size, found) =>
    if size = handoff.artifact.size ∧ found = handoff.artifact.checksum then .ok ()
    else .error (.artifactHandoff
      (HandoffFault.changed path handoff.artifact.checksum found).message)

/-- On files that stay as they are, the two are the check of a handoff. -/
theorem verify_eq (handoff : Handoff) (files : FileTree) :
    handoff.verify files = (do handoff.look files; handoff.measure files) := by
  unfold verify check look measure checksum FileTree.read
  dsimp only
  cases files.find handoff.artifact.stagedPath with
  | error fault => rfl
  | ok node =>
      cases node with
      | directory => rfl
      | file mode content =>
          dsimp only [bind, Except.bind, pure, Except.pure]
          split <;> rfl

theorem check_eq_ok_iff_steps {handoff : Handoff} {files : FileTree} :
    handoff.check files = .ok () ↔
      handoff.look files = .ok () ∧ handoff.measure files = .ok () := by
  rw [← check_bind_eq_ok_iff, ← verify_eq, verify, mapError_eq_ok_iff]

/-- What was measured is at the end of a path that leads to a regular file. -/
theorem check_of_measure {handoff : Handoff} {files : FileTree}
    (h : handoff.measure files = .ok ()) : handoff.check files = .ok () := by
  refine check_eq_ok_iff_steps.mpr ⟨?_, h⟩
  unfold measure checksum FileTree.read at h
  unfold look
  dsimp only at h ⊢
  cases hfind : files.find handoff.artifact.stagedPath with
  | error fault =>
      rw [hfind] at h
      cases h
  | ok node =>
      cases node with
      | directory =>
          rw [hfind] at h
          cases h
      | file mode content => rfl

theorem read_of_check {handoff : Handoff} {files : FileTree}
    (h : handoff.check files = .ok ()) :
    ∃ content, files.read handoff.artifact.stagedPath = .ok content ∧
      Sha256.hex content = handoff.artifact.checksum := by
  obtain ⟨mode, content, hfind, -, hchecksum⟩ := check_eq_ok_iff.mp h
  refine ⟨content, ?_, hchecksum⟩
  rw [FileTree.read, hfind]
  rfl

end Handoff

/-- What the packing of a run depends on, apart from the files. -/
structure Packing where
  pipeline : String
  spec : RuntimeSpec
  handoff : Handoff
  /-- A tag in place of the declared one. -/
  override : Option String := none

namespace Packing

/-- How far a packing has come. -/
inductive Phase where
  | handedOff
  | found
  | measured
  | tagged (tag : String)
  | packed (tag : String) (context : List UInt8)
  | failed (failure : Failure)

/-- Goes on from a success. -/
def Phase.after {α : Type} (result : Except Failure α) (next : α → Phase) : Phase :=
  match result with
  | .ok a => next a
  | .error failure => .failed failure

theorem Phase.after_bind {α β : Type} (first : Except Failure α) (second : α → Except Failure β)
    (next : β → Phase) :
    Phase.after (first >>= second) next = .after first fun a => .after (second a) next := by
  cases first <;> rfl

variable (packing : Packing)

/-- The tag that the image gets. -/
def tag : Except Failure String :=
  RuntimeStage.resolveTag packing.override packing.pipeline packing.spec
    packing.handoff.fingerprint

/-- The request under a tag. -/
def request (tag : String) : AssemblyRequest :=
  .ofArtifact packing.spec packing.handoff.artifact tag packing.pipeline
    packing.handoff.fingerprint

/-- The next step, on the files as they are at that moment. -/
def next (files : FileTree) : Phase → Phase
  | .handedOff => .after (packing.handoff.look files) fun _ => .found
  | .found => .after (packing.handoff.measure files) fun _ => .measured
  | .measured => .after packing.tag .tagged
  | .tagged tag => .after (BuildContext.pack files (packing.request tag)) (.packed tag)
  | .packed tag context => .packed tag context
  | .failed failure => .failed failure

theorem next_after {α : Type} (files : FileTree) (result : Except Failure α) (step : α → Phase) :
    packing.next files (.after result step) =
      .after result fun a => packing.next files (step a) := by
  cases result <;> rfl

/-- On files that stay as they are, the steps are the check, the choice of the tag and the
packing of a run, in this order. -/
theorem next_undisturbed (files : FileTree) :
    (packing.next files)^[4] .handedOff =
      .after (do
        packing.handoff.verify files
        let tag ← packing.tag
        let context ← BuildContext.pack files (packing.request tag)
        pure (tag, context)) fun packed => .packed packed.1 packed.2 := by
  have hlook : packing.next files .handedOff =
      .after (packing.handoff.look files) fun _ => .found := rfl
  have hmeasure : packing.next files .found =
      .after (packing.handoff.measure files) fun _ => .measured := rfl
  have htag : packing.next files .measured = .after packing.tag .tagged := rfl
  have hpack (tag : String) : packing.next files (.tagged tag) =
      .after (BuildContext.pack files (packing.request tag)) (.packed tag) := rfl
  rw [Handoff.verify_eq]
  simp only [Function.iterate_succ_apply', Function.iterate_zero_apply, hlook, hmeasure, htag,
    hpack, next_after, Phase.after_bind]
  rfl

/-- The files and the phase that a packing is in. -/
structure State where
  files : FileTree
  phase : Phase

/-- A step of the packing, or a change that another process makes to the files. `writes` says
which changes it can make. -/
inductive Step (writes : FileTree → FileTree → Prop) : State → State → Prop where
  | own (files : FileTree) (phase : Phase) :
    Step writes ⟨files, phase⟩ ⟨files, packing.next files phase⟩
  | outside {files files' : FileTree} (phase : Phase) (hwrite : writes files files') :
    Step writes ⟨files, phase⟩ ⟨files', phase⟩

/-- Any number of steps, and of changes between them. -/
abbrev Run (writes : FileTree → FileTree → Prop) : State → State → Prop :=
  Relation.ReflTransGen (packing.Step writes)

variable {packing} {writes : FileTree → FileTree → Prop}

/-! ## What is packed -/

/-- Some files passed the check, and the other process can have turned them into these. -/
def Checked (packing : Packing) (writes : FileTree → FileTree → Prop) (files : FileTree) : Prop :=
  ∃ checked, packing.handoff.check checked = .ok () ∧ Relation.ReflTransGen writes checked files

/-- What is known of a packing in a phase: from the measuring on, that some files have passed
the check, and of an archive, from which content it was written. -/
def Known (packing : Packing) (writes : FileTree → FileTree → Prop) : State → Prop
  | ⟨files, .measured⟩ => packing.Checked writes files
  | ⟨files, .tagged tag⟩ => packing.tag = .ok tag ∧ packing.Checked writes files
  | ⟨_, .packed tag context⟩ =>
    packing.tag = .ok tag ∧ ∃ files content, packing.Checked writes files ∧
      files.read packing.handoff.artifact.stagedPath = .ok content ∧
      context = BuildContext.archive (packing.request tag).containerfile content
  | _ => True

theorem known_next {files : FileTree} {phase : Phase} (h : packing.Known writes ⟨files, phase⟩) :
    packing.Known writes ⟨files, packing.next files phase⟩ := by
  cases phase with
  | handedOff =>
      rw [next]
      cases packing.handoff.look files <;> trivial
  | found =>
      rw [next]
      cases hmeasure : packing.handoff.measure files with
      | error failure => trivial
      | ok _ => exact ⟨files, Handoff.check_of_measure hmeasure, .refl⟩
  | measured =>
      rw [next]
      cases htag : packing.tag with
      | error failure => trivial
      | ok tag => exact ⟨htag, h⟩
  | tagged tag =>
      rw [next]
      cases hpack : BuildContext.pack files (packing.request tag) with
      | error failure => trivial
      | ok context =>
          obtain ⟨content, hread, hcontext⟩ := BuildContext.pack_eq_ok_iff.mp hpack
          exact ⟨h.1, files, content, h.2, hread, hcontext⟩
  | packed tag context => exact h
  | failed failure => trivial

/-- A change of the files loses nothing of it. -/
theorem known_outside {files files' : FileTree} {phase : Phase}
    (h : packing.Known writes ⟨files, phase⟩) (hwrite : writes files files') :
    packing.Known writes ⟨files', phase⟩ := by
  have hchecked : packing.Checked writes files → packing.Checked writes files' := by
    rintro ⟨checked, hcheck, hwrites⟩
    exact ⟨checked, hcheck, hwrites.tail hwrite⟩
  cases phase with
  | measured => exact hchecked h
  | tagged tag => exact ⟨h.1, hchecked h.2⟩
  | packed tag context => exact h
  | handedOff => trivial
  | found => trivial
  | failed failure => trivial

theorem known_of_run {start finish : State} (hrun : packing.Run writes start finish)
    (hstart : packing.Known writes start) : packing.Known writes finish := by
  induction hrun with
  | refl => exact hstart
  | tail _ hstep ih =>
      cases hstep with
      | own files phase => exact known_next ih
      | outside phase hwrite => exact known_outside ih hwrite

/-- Files that pass the check can be packed as whatever the other process turns them into. -/
theorem run_of_checked {checked files : FileTree} {tag : String} {content : List UInt8}
    (hcheck : packing.handoff.check checked = .ok ()) (htag : packing.tag = .ok tag)
    (hwrites : Relation.ReflTransGen writes checked files)
    (hread : files.read packing.handoff.artifact.stagedPath = .ok content) :
    packing.Run writes ⟨checked, .handedOff⟩ ⟨files, .packed tag
      (BuildContext.archive (packing.request tag).containerfile content)⟩ := by
  obtain ⟨hlook, hmeasure⟩ := Handoff.check_eq_ok_iff_steps.mp hcheck
  have hown (files : FileTree) {phase phase' : Phase} (hnext : packing.next files phase = phase') :
      packing.Run writes ⟨files, phase⟩ ⟨files, phase'⟩ := by
    rw [← hnext]
    exact .single (.own files phase)
  have hfound : packing.Run writes ⟨checked, .handedOff⟩ ⟨checked, .found⟩ :=
    hown checked (by rw [next, hlook]; rfl)
  have hmeasured : packing.Run writes ⟨checked, .found⟩ ⟨checked, .measured⟩ :=
    hown checked (by rw [next, hmeasure]; rfl)
  have hchanged : packing.Run writes ⟨checked, .measured⟩ ⟨files, .measured⟩ :=
    Relation.ReflTransGen.lift (State.mk · .measured)
      (fun _ _ hwrite => Step.outside .measured hwrite) _ _ hwrites
  have htagged : packing.Run writes ⟨files, .measured⟩ ⟨files, .tagged tag⟩ :=
    hown files (by rw [next, htag]; rfl)
  have hpack : BuildContext.pack files (packing.request tag) =
      .ok (BuildContext.archive (packing.request tag).containerfile content) :=
    BuildContext.pack_eq_ok_iff.mpr ⟨content, hread, rfl⟩
  exact hfound.trans (hmeasured.trans (hchanged.trans (htagged.trans
    (hown files (by rw [next, hpack]; rfl)))))

end Packing

/-! ## What the label tells -/

namespace AssemblyRequest

/-- A label without a line feed has a line to itself, whatever stands around it. -/
theorem labelRow_mem_linesOf {request : AssemblyRequest} {binding : String × String}
    (hmem : binding ∈ request.labels.entries) (hrow : '\n' ∉ (labelRow binding).toList) :
    labelRow binding ∈ Text.linesOf request.containerfile := by
  have hchop : Text.chopReturn (labelRow binding).toList = (labelRow binding).toList := by
    rw [Text.chopReturn_eq_self_iff, labelRow, String.toList_append, List.getLast?_append,
      Text.getLast?_quoted]
    simp
  have hline := Text.chopReturn_mem_lines_rows
    (List.mem_map_of_mem (f := String.toList) (mem_rows.mpr (.inr (.inl ⟨_, hmem, rfl⟩)))) hrow
  rw [hchop, ← containerfile_toList] at hline
  exact List.mem_map.mpr ⟨_, hline, String.ofList_toList⟩

/-- The checksum of an artifact is in the containerfile as a label of its own. -/
theorem checksum_line_mem {spec : RuntimeSpec} {artifact : CompiledArtifact}
    {tag pipeline fingerprint : String} {content : List UInt8}
    (h : Sha256.hex content = artifact.checksum) :
    "LABEL isobuild.artifact.sha256=\"" ++ artifact.checksum ++ "\"" ∈
      Text.linesOf (ofArtifact spec artifact tag pipeline fingerprint).containerfile := by
  have hplain {c : Char} (hc : c ∈ artifact.checksum.toList) :
      c ≠ '\n' ∧ c ≠ '"' ∧ c ≠ '\\' := by
    rw [← h] at hc
    exact Sha256.plain_of_mem_hex hc
  have hrow : labelRow (checksumLabel, artifact.checksum) =
      "LABEL isobuild.artifact.sha256=\"" ++ artifact.checksum ++ "\"" := by
    rw [labelRow, Text.quoted_eq_of_plain fun c hc => (hplain hc).2, ← String.toList_inj]
    simp [checksumLabel]
  have hmem : (checksumLabel, artifact.checksum) ∈
      (ofArtifact spec artifact tag pipeline fingerprint).labels.entries :=
    mem_labels_ofArtifact.mpr (by simp)
  rw [← hrow]
  refine labelRow_mem_linesOf hmem ?_
  rw [hrow]
  have hchecksum : '\n' ∉ artifact.checksum.toList := fun hc => (hplain hc).1 rfl
  simp [hchecksum]

end AssemblyRequest

/-! ## Whether the packed artifact is the checked one -/

namespace Packing

variable {packing : Packing} {writes : FileTree → FileTree → Prop}

/-- An archive of a containerfile and an artifact, where the artifact has the checksum and the
containerfile labels the image with it. -/
def Attested (checksum : String) (context : List UInt8) : Prop :=
  ∃ containerfile artifact,
    (Archive.entries context).1.map Archive.Entry.told =
      [("Containerfile", .ok 0o644, Utf8.encode containerfile),
        ("artifact", .ok 0o755, artifact)] ∧
    Sha256.hex artifact = checksum ∧
    "LABEL isobuild.artifact.sha256=\"" ++ checksum ++ "\"" ∈ Text.linesOf containerfile

theorem attested_archive_iff {tag : String} {content : List UInt8}
    (hlength : (BuildContext.archive (packing.request tag).containerfile content).length <
      Archive.sizeBound) :
    Attested packing.handoff.artifact.checksum
        (BuildContext.archive (packing.request tag).containerfile content) ↔
      Sha256.hex content = packing.handoff.artifact.checksum := by
  constructor
  · rintro ⟨containerfile, artifact, htold, hchecksum, -⟩
    rw [BuildContext.told_archive hlength] at htold
    simp only [List.cons.injEq, Prod.mk.injEq, and_true] at htold
    rw [htold.2.2.2, hchecksum]
  · intro hchecksum
    exact ⟨_, content, BuildContext.told_archive hlength, hchecksum,
      AssemblyRequest.checksum_line_mem hchecksum⟩

/-- The other process can put a file of another checksum in the place of one that passes the
check, of a size that an archive can hold. -/
def Replaceable (packing : Packing) (writes : FileTree → FileTree → Prop) : Prop :=
  ∃ tag files content, packing.tag = .ok tag ∧ packing.Checked writes files ∧
    files.read packing.handoff.artifact.stagedPath = .ok content ∧
    (BuildContext.archive (packing.request tag).containerfile content).length <
      Archive.sizeBound ∧
    Sha256.hex content ≠ packing.handoff.artifact.checksum

/-- A file that can be replaced once it has been checked is packed under the checksum of the one
that it replaces. -/
theorem exists_unattested (h : packing.Replaceable writes) :
    ∃ start finish tag context,
      packing.Run writes ⟨start, .handedOff⟩ ⟨finish, .packed tag context⟩ ∧
      context.length < Archive.sizeBound ∧
      ¬ Attested (packing.request tag).artifact.checksum context := by
  obtain ⟨tag, files, content, htag, ⟨checked, hcheck, hwrites⟩, hread, hlength, hchecksum⟩ := h
  exact ⟨checked, files, tag, _, run_of_checked hcheck htag hwrites hread, hlength,
    mt (attested_archive_iff hlength).mp hchecksum⟩

/-- Every packed artifact has the checksum of the request, which the containerfile names too,
exactly when no other process can replace the staged file between its measuring and its packing
by one of another checksum. -/
theorem attested_iff_not_replaceable (packing : Packing) (writes : FileTree → FileTree → Prop) :
    (∀ (start finish : FileTree) (tag : String) (context : List UInt8),
      packing.Run writes ⟨start, .handedOff⟩ ⟨finish, .packed tag context⟩ →
        context.length < Archive.sizeBound →
        Attested (packing.request tag).artifact.checksum context) ↔
      ¬ packing.Replaceable writes := by
  constructor
  · intro hall hreplaceable
    obtain ⟨start, finish, tag, context, hrun, hlength, hother⟩ := exists_unattested hreplaceable
    exact hother (hall start finish tag context hrun hlength)
  · intro hirreplaceable start finish tag context hrun hlength
    obtain ⟨htag, files, content, hchecked, hread, hcontext⟩ := known_of_run hrun trivial
    rw [hcontext] at hlength ⊢
    refine (attested_archive_iff hlength).mpr (not_not.mp fun hchecksum => ?_)
    exact hirreplaceable ⟨tag, files, content, htag, hchecked, hread, hlength, hchecksum⟩

/-- The packing of the sample pipeline, with the checksum of what is staged. -/
def sample : Packing where
  pipeline := "service"
  spec := PipelineDefinition.sample.runtime
  handoff := {
    artifact := {
      AssemblyRequest.sampleArtifact with
      checksum := Sha256.hex [0x7f, 0x45, 0x4c, 0x46] }
    fingerprint := "f00d" }

/-- The host of the sample artifact after the artifact was emptied. -/
def emptiedFiles : FileTree :=
  BuildContext.stagedFiles.put ["staging", "service"] (.file BuildContext.artifactMode [])

theorem replaceable_sample : sample.Replaceable fun _ _ => True := by
  have hcheck : sample.handoff.check BuildContext.stagedFiles = .ok () :=
    Handoff.check_eq_ok_iff.mpr ⟨BuildContext.artifactMode, [0x7f, 0x45, 0x4c, 0x46],
      by decide +kernel, rfl, rfl⟩
  have hread : emptiedFiles.read sample.handoff.artifact.stagedPath = .ok [] := by decide +kernel
  have hother : Sha256.hex [] ≠ sample.handoff.artifact.checksum := by decide +kernel
  exact ⟨"service:1", emptiedFiles, [], by decide +kernel,
    ⟨BuildContext.stagedFiles, hcheck, .single trivial⟩, hread,
    BuildContext.length_archive_lt ⟨by decide +kernel, by decide⟩, hother⟩

/-- A file that is emptied after it was measured is packed under its old checksum. -/
theorem sample_packs_other :
    ∃ start finish tag context,
      sample.Run (fun _ _ => True) ⟨start, .handedOff⟩ ⟨finish, .packed tag context⟩ ∧
        ¬ Attested (sample.request tag).artifact.checksum context := by
  obtain ⟨start, finish, tag, context, hrun, -, hother⟩ := exists_unattested replaceable_sample
  exact ⟨start, finish, tag, context, hrun, hother⟩

/-- Where no other process writes, nothing is replaced. -/
theorem not_replaceable_of_still (packing : Packing) : ¬ packing.Replaceable fun _ _ => False := by
  rintro ⟨tag, files, content, -, ⟨checked, hcheck, hwrites⟩, hread, -, hchecksum⟩
  obtain ⟨found, hfound, hmeasured⟩ := Handoff.read_of_check hcheck
  have hsame : files = checked := by
    rcases hwrites.cases_tail with rfl | ⟨_, _, hwrite⟩
    · rfl
    · exact hwrite.elim
  rw [hsame, hfound] at hread
  cases hread
  exact hchecksum hmeasured

end Packing

end SealedBuild
