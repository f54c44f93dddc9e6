import SealedBuild.Proofs.Archive.RoundTrip
import SealedBuild.Proofs.Files.Agreement
import SealedBuild.Proofs.Files.Placing

/-!
# What an extraction leaves

A file is written to the destination as soon as its entry is met, before anything behind it has
been read. So an extraction has only a few ends, and where it fails behind a first entry that is a
file, that file is at the destination and stays there.
-/

namespace SealedBuild

open FileTree

/-- Whether an entry is that of a regular file. -/
def Archive.Entry.IsFile (entry : Archive.Entry) : Prop :=
  entry.header.kind = .regular ∨ entry.header.kind = .contiguous

namespace Extraction

variable {t t' before after files : FileTree} {dest : String} {content : List UInt8}
  {entry : Archive.Entry}

/-- The second tree has a content at a path, with the permissions of an artifact, and is like the
first one everywhere else. -/
structure Placed (dest : String) (content : List UInt8) (before after : FileTree) : Prop where
  find : after.find dest = .ok (.file BuildContext.artifactMode content)
  touches : Touches (before.target dest) before after

theorem placed_of_write {written : FileTree} (h : t.write dest content = .ok written) :
    ∃ t', written.setMode dest BuildContext.artifactMode = .ok t' ∧ Placed dest content t t' := by
  obtain ⟨mode, hfind⟩ := find_of_write h
  obtain ⟨hlocate, hfile⟩ := find_eq_ok_iff.mp hfind
  obtain ⟨hdirectory, _, hput⟩ := write_eq_ok h
  have hwrote : Touches (t.target dest) t written := hput ▸ .put hdirectory
  have htarget : written.target dest = t.target dest := target_congr hwrote.workingDir
  have hnone : written.get? (written.target dest) ≠ some .directory := by
    rw [hfile]
    nofun
  have hset : Touches (t.target dest) written
      (written.put (written.target dest) (.file BuildContext.artifactMode content)) := by
    rw [← htarget]
    exact .put hnone
  exact ⟨_, setMode_of_find hfind, find_put hlocate hnone, hwrote.trans hset⟩

/-! ## Taking one entry -/

/-- An entry that is no file is refused, and nothing is written. -/
theorem take_of_not_isFile (h : ¬ entry.IsFile) (dest : String) (state : State) :
    ∃ fault : Fault, take dest state entry = (state, .error fault.toFailure) := by
  unfold take
  cases hkind : entry.header.kind with
  | regular => exact absurd (.inl hkind) h
  | contiguous => exact absurd (.inr hkind) h
  | _ => exact ⟨_, rfl⟩

/-- Behind a file that was written every entry is refused. -/
theorem take_of_written (dest : String) (files : FileTree) (size : Nat) (entry : Archive.Entry) :
    ∃ fault : Fault,
      take dest (files, some size) entry = ((files, some size), .error fault.toFailure) := by
  by_cases hkind : entry.IsFile
  · exact ⟨.furtherEntry entry.name, by rw [take_of_regular hkind]; rfl⟩
  · exact take_of_not_isFile hkind dest _

/-- A first file is written where the destination can be. -/
theorem take_of_writable (hkind : entry.IsFile) (hdest : files.Writable dest) :
    ∃ after, take dest (files, none) entry = ((after, some entry.content.length), .ok ()) ∧
      Placed dest entry.content files after := by
  obtain ⟨written, hwrite⟩ := hdest.exists_write entry.content
  obtain ⟨after, hset, hplaced⟩ := placed_of_write hwrite
  refine ⟨after, ?_, hplaced⟩
  rw [take_of_regular hkind]
  simp only [Option.isSome_none, Bool.false_eq_true, if_false, hwrite, hset]

theorem take_of_not_writable (hkind : entry.IsFile) (hdest : ¬ files.Writable dest) :
    ∃ fault, take dest (files, none) entry = ((files, none), .error (.io fault)) := by
  rw [take_of_regular hkind]
  cases hwrite : files.write dest entry.content with
  | ok written => exact absurd ⟨_, written, hwrite⟩ hdest
  | error fault => exact ⟨fault, rfl⟩

/-! ## Extracting -/

/-- The ends of an extraction, by what was read of the archive: how the files are left, and the
size or the failure. -/
inductive Ends (dest : String) (before : FileTree) :
    List Archive.Entry × Option Archive.Fault → FileTree → Except Failure Nat → Prop where
  /-- There is no entry to take, because of a fault or because there is none. -/
  | unread (fault : Archive.Fault) :
      Ends dest before ([], some fault) before (.error fault.toFailure)
  | empty : Ends dest before ([], none) before (.error Fault.noFile.toFailure)
  /-- The first entry is no file. -/
  | refused {entry : Archive.Entry} {rest : List Archive.Entry} {fault : Option Archive.Fault}
      (hkind : ¬ entry.IsFile) (refusal : Fault) :
      Ends dest before (entry :: rest, fault) before (.error refusal.toFailure)
  /-- It is a file, but cannot be written. -/
  | unwritten {entry : Archive.Entry} {rest : List Archive.Entry} {fault : Option Archive.Fault}
      (hkind : entry.IsFile) (hdest : ¬ before.Writable dest) (refusal : FileFault) :
      Ends dest before (entry :: rest, fault) before (.error (.io refusal))
  /-- It was written, and the archive cannot be read on behind it. -/
  | cut {entry : Archive.Entry} {after : FileTree} (hkind : entry.IsFile)
      (hdest : before.Writable dest) (hplaced : Placed dest entry.content before after)
      (fault : Archive.Fault) :
      Ends dest before ([entry], some fault) after (.error fault.toFailure)
  /-- It was written, and another entry is behind it. -/
  | crowded {entry next : Archive.Entry} {rest : List Archive.Entry}
      {fault : Option Archive.Fault} {after : FileTree} (hkind : entry.IsFile)
      (hdest : before.Writable dest) (hplaced : Placed dest entry.content before after)
      (refusal : Fault) :
      Ends dest before (entry :: next :: rest, fault) after (.error refusal.toFailure)
  /-- It was written, and nothing is behind it. -/
  | whole {entry : Archive.Entry} {after : FileTree} (hkind : entry.IsFile)
      (hdest : before.Writable dest) (hplaced : Placed dest entry.content before after) :
      Ends dest before ([entry], none) after (.ok entry.content.length)

theorem ends_extract (archive : List UInt8) (dest : String) (files : FileTree) :
    Ends dest files (Archive.entries archive) (extract archive dest files).1
      (extract archive dest files).2 := by
  unfold extract
  rcases Archive.entries archive with ⟨entries, fault⟩
  cases entries with
  | nil =>
      cases fault with
      | some fault => exact .unread fault
      | none => exact .empty
  | cons entry rest =>
      by_cases hkind : entry.IsFile
      · by_cases hdest : files.Writable dest
        · obtain ⟨after, htake, hplaced⟩ := take_of_writable hkind hdest
          cases rest with
          | nil =>
              simp only [takeAll, htake]
              cases fault with
              | some fault => exact .cut hkind hdest hplaced fault
              | none => exact .whole hkind hdest hplaced
          | cons next rest =>
              obtain ⟨refusal, hnext⟩ := take_of_written dest after entry.content.length next
              simp only [takeAll, htake, hnext]
              exact .crowded hkind hdest hplaced refusal
        · obtain ⟨refusal, htake⟩ := take_of_not_writable hkind hdest
          simp only [takeAll, htake]
          exact .unwritten hkind hdest refusal
      · obtain ⟨refusal, htake⟩ := take_of_not_isFile hkind dest (files, none)
        simp only [takeAll, htake]
        exact .refused hkind refusal

/-- A further entry behind a file that can be written makes the extraction fail, and leaves the
file there. -/
theorem extract_of_further {archive : List UInt8} {next : Archive.Entry}
    {rest : List Archive.Entry} {fault : Option Archive.Fault}
    (h : Archive.entries archive = (entry :: next :: rest, fault)) (hkind : entry.IsFile)
    (hdest : before.Writable dest) :
    ∃ after failure, extract archive dest before = (after, .error failure) ∧
      Placed dest entry.content before after := by
  have hends := ends_extract archive dest before
  rw [h] at hends
  generalize extract archive dest before = extracted at hends ⊢
  obtain ⟨after, result⟩ := extracted
  cases hends with
  | refused hother refusal => exact absurd hkind hother
  | unwritten hother hshut refusal => exact absurd hdest hshut
  | crowded hkind hdest hplaced refusal => exact ⟨after, _, rfl, hplaced⟩

/-- A failed extraction leaves the destination as it was exactly when the archive does not begin
with a file, or that file cannot be written there, or the destination was such a file before. -/
theorem destination_kept_iff {archive : List UInt8} {failure : Failure}
    (h : extract archive dest before = (after, .error failure)) :
    after.find dest = before.find dest ↔
      ∀ entry ∈ (Archive.entries archive).1.head?, entry.IsFile → before.Writable dest →
        before.find dest = .ok (.file BuildContext.artifactMode entry.content) := by
  have hends := ends_extract archive dest before
  rw [h] at hends
  generalize Archive.entries archive = reading at hends ⊢
  cases hends with
  | unread fault => simp
  | empty => simp
  | refused hkind refusal => simp [hkind]
  | unwritten hkind hdest refusal => simp [hdest]
  | cut hkind hdest hplaced fault => simp [hkind, hdest, hplaced.find, eq_comm]
  | crowded hkind hdest hplaced refusal => simp [hkind, hdest, hplaced.find, eq_comm]

/-- The files of an archive that has one file too many. -/
def pair : List Archive.NewFile :=
  [⟨"service", 0o755, [0x7f, 0x45, 0x4c, 0x46]⟩, ⟨"service.d", 0o644, []⟩]

/-- A host with an older file at the destination. -/
def olderFiles : FileTree where
  nodes := [(["out"], .file 0o644 [0x6f, 0x6c, 0x64])]
  workingDir := []

theorem entries_pair :
    Archive.entries (Archive.write pair) = (pair.map Archive.NewFile.entry, none) :=
  Archive.entries_write
    (by simp only [pair, List.forall_mem_cons]
        exact ⟨⟨by decide +kernel, by decide +kernel, by decide⟩,
          ⟨by decide +kernel, by decide +kernel, by decide⟩, nofun⟩)
    (by decide +kernel)

theorem isFile_pair : ∀ file ∈ pair, file.entry.IsFile := by
  simp only [pair, List.forall_mem_cons]
  exact ⟨.inl (by decide +kernel), .inl (by decide +kernel), nofun⟩

theorem writable_olderFiles : olderFiles.Writable "out" := by
  have hwritten : (olderFiles.write "out" []).toBool = true := by decide +kernel
  cases hwrite : olderFiles.write "out" [] with
  | ok written => exact ⟨[], written, hwrite⟩
  | error fault =>
      rw [hwrite] at hwritten
      cases hwritten

theorem extract_pair : ∃ after failure,
    extract (Archive.write pair) "out" olderFiles = (after, .error failure) ∧
      Placed "out" [0x7f, 0x45, 0x4c, 0x46] olderFiles after :=
  extract_of_further entries_pair (isFile_pair _ List.mem_cons_self) writable_olderFiles

/-- A failed extraction has replaced an older file at the destination. -/
theorem pair_replaces_older : ∃ after failure,
    extract (Archive.write pair) "out" olderFiles = (after, .error failure) ∧
      olderFiles.find "out" = .ok (.file 0o644 [0x6f, 0x6c, 0x64]) ∧
      after.find "out" = .ok (.file 0o755 [0x7f, 0x45, 0x4c, 0x46]) := by
  obtain ⟨after, failure, hfailed, hplaced⟩ := extract_pair
  exact ⟨after, failure, hfailed, by decide +kernel, hplaced.find⟩

theorem pair_destination_lost : ∃ after failure,
    extract (Archive.write pair) "out" olderFiles = (after, .error failure) ∧
      after.find "out" ≠ olderFiles.find "out" := by
  obtain ⟨after, failure, hfailed, -⟩ := extract_pair
  refine ⟨after, failure, hfailed, fun hkept => ?_⟩
  have holder := (destination_kept_iff hfailed).mp hkept
    (Archive.NewFile.entry ⟨"service", 0o755, [0x7f, 0x45, 0x4c, 0x46]⟩)
    (by rw [entries_pair]; rfl) (isFile_pair _ List.mem_cons_self) writable_olderFiles
  exact absurd holder (by decide +kernel)

end Extraction

end SealedBuild
