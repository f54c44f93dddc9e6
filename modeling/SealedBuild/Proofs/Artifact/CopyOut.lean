import SealedBuild.Engine.Containers
import SealedBuild.Proofs.Act
import SealedBuild.Proofs.Archive.Content
import SealedBuild.Proofs.Artifact.Extraction

/-!
# Copying out of a container

An engine sends an archive in parts. It is only looked at when all parts have come, so where they
were cut says nothing, and a fault among them means that nothing was written. An archive is
accepted when it is that of one regular file, and then it held the whole of that file.
-/

namespace SealedBuild

open FileTree

namespace Extraction

variable {dest : String} {before after : FileTree} {result : Except Failure Nat}

/-- What it means to extract the one file of an archive to a path. -/
structure Answers (archive : List UInt8) (dest : String) (before after : FileTree)
    (result : Except Failure Nat) : Prop where
  /-- It succeeds exactly when the archive reads as one file, which can be written. -/
  accepted : (∃ size, result = .ok size) ↔
    ∃ entry, Archive.entries archive = ([entry], none) ∧ entry.IsFile ∧ before.Writable dest
  /-- Then the archive holds the whole file, whose size is told and which is placed at the path. -/
  placed : ∀ size, result = .ok size → ∃ entry, Archive.entries archive = ([entry], none) ∧
    Archive.Holds archive entry size ∧ Placed dest entry.content before after
  /-- Otherwise the archive is to blame, unless it cannot be read or the file not be written. -/
  refused : ∀ failure, result = .error failure → (∃ reason, failure = .artifactHandoff reason) ∨
    (∃ fault, failure = .io fault) ∧
      ((Archive.entries archive).2 ≠ none ∨ ¬ before.Writable dest)

theorem holds_of_isFile {archive : List UInt8} {entry : Archive.Entry}
    (h : Archive.entries archive = ([entry], none)) (hkind : entry.IsFile) :
    Archive.Holds archive entry entry.content.length := by
  rcases hkind with hkind | hkind <;>
    exact Archive.holds_of_entries h (by rw [hkind]; nofun) (by rw [hkind]; rfl)

theorem Answers.of_error {archive : List UInt8} {failure : Failure}
    (hnone : ∀ entry, Archive.entries archive = ([entry], none) → entry.IsFile →
      ¬ before.Writable dest)
    (hblame : (∃ reason, failure = .artifactHandoff reason) ∨ (∃ fault, failure = .io fault) ∧
      ((Archive.entries archive).2 ≠ none ∨ ¬ before.Writable dest)) :
    Answers archive dest before after (.error failure) where
  accepted := ⟨nofun, fun ⟨entry, hread, hkind, hdest⟩ => (hnone entry hread hkind hdest).elim⟩
  placed := nofun
  refused := by
    rintro _ ⟨⟩
    exact hblame

theorem answers_extract {archive : List UInt8}
    (h : extract archive dest before = (after, result)) :
    Answers archive dest before after result := by
  have hends := ends_extract archive dest before
  rw [h] at hends
  generalize hreading : Archive.entries archive = reading at hends
  cases hends with
  | unread fault =>
      refine .of_error (fun entry hread => ?_) (.inr ⟨⟨_, rfl⟩, .inl ?_⟩)
      · cases hreading.symm.trans hread
      · rw [hreading]
        nofun
  | empty =>
      refine .of_error (fun entry hread => ?_) (.inl ⟨_, rfl⟩)
      cases hreading.symm.trans hread
  | refused hkind refusal =>
      refine .of_error (fun entry hread hfile => ?_) (.inl ⟨_, rfl⟩)
      cases hreading.symm.trans hread
      exact absurd hfile hkind
  | unwritten hkind hdest refusal =>
      exact .of_error (fun _ _ _ => hdest) (.inr ⟨⟨_, rfl⟩, .inr hdest⟩)
  | cut hkind hdest hplaced fault =>
      refine .of_error (fun entry hread => ?_) (.inr ⟨⟨_, rfl⟩, .inl ?_⟩)
      · cases hreading.symm.trans hread
      · rw [hreading]
        nofun
  | crowded hkind hdest hplaced refusal =>
      refine .of_error (fun entry hread => ?_) (.inl ⟨_, rfl⟩)
      cases hreading.symm.trans hread
  | whole hkind hdest hplaced =>
      refine ⟨⟨fun _ => ⟨_, hreading, hkind, hdest⟩, fun _ => ⟨_, rfl⟩⟩, ?_, nofun⟩
      rintro _ ⟨⟩
      exact ⟨_, hreading, holds_of_isFile hreading hkind, hplaced⟩

end Extraction

namespace Engine

variable {σ : Type}

/-! ## Streams -/

/-- A stream brings parts only, or parts up to a first fault. -/
theorem stream_cases {α : Type} (stream : EngineStream α) :
    (∃ parts : List α, stream = parts.map .ok) ∨
      ∃ (parts : List α) (fault : EngineFault) (rest : EngineStream α),
        stream = parts.map .ok ++ .error fault :: rest := by
  induction stream with
  | nil => exact .inl ⟨[], rfl⟩
  | cons item stream ih =>
      cases item with
      | error fault => exact .inr ⟨[], fault, stream, rfl⟩
      | ok part =>
          rcases ih with ⟨parts, rfl⟩ | ⟨parts, fault, rest, rfl⟩
          · exact .inl ⟨part :: parts, rfl⟩
          · exact .inr ⟨part :: parts, fault, rest, rfl⟩

/-- Where the parts were cut says nothing. -/
theorem collected_parts (parts : List (List UInt8)) :
    collected (parts.map .ok) = .ok parts.flatten := by
  induction parts with
  | nil => rfl
  | cons part parts ih =>
      rw [List.map_cons, collected, ih]
      rfl

theorem collected_of_fault (parts : List (List UInt8)) (fault : EngineFault)
    (rest : EngineStream (List UInt8)) :
    collected (parts.map .ok ++ .error fault :: rest) = .error fault := by
  induction parts with
  | nil => rfl
  | cons part parts ih =>
      rw [List.map_cons, List.cons_append, collected, ih]
      rfl

/-! ## Copying -/

theorem copyFailure_eq (container path : String) (fault : EngineFault) :
    ∃ reason, copyFailure container path fault = .artifactHandoff reason := by
  unfold copyFailure
  split <;> exact ⟨_, rfl⟩

theorem extractTo_apply (archive : List UInt8) (dest : String) (world : World σ) :
    extractTo archive dest world =
      ((Extraction.extract archive dest world.files).2,
        { world with files := (Extraction.extract archive dest world.files).1 }) := rfl

theorem copyOut_apply (engine : Engine σ) (handle : JobHandle) (path dest : String)
    (world : World σ) :
    engine.copyOut handle path dest world =
      let answer := engine.archive (containerName handle.id) path world
      match collected answer.1 with
      | .error fault => (.error (copyFailure (containerName handle.id) path fault), answer.2)
      | .ok archive => extractTo archive dest answer.2 := by
  unfold copyOut
  rw [Act.bind_apply]
  dsimp only
  cases collected (engine.archive (containerName handle.id) path world).1 <;> rfl

/-- A copy depends on what the engine sends only up to its first fault, and on that as a whole. A
fault ends it before anything is written; without one, the archive is extracted. -/
theorem copyOut_whole_or_refused (engine : Engine σ) (handle : JobHandle) (path dest : String)
    (world : World σ) :
    let answer := engine.archive (containerName handle.id) path world
    let copied := engine.copyOut handle path dest world
    (∃ (parts : List (List UInt8)) (fault : EngineFault) (rest : EngineStream (List UInt8))
        (reason : String),
      answer.1 = parts.map .ok ++ .error fault :: rest ∧
        copyFailure (containerName handle.id) path fault = .artifactHandoff reason ∧
        copied = (.error (.artifactHandoff reason), answer.2)) ∨
    ∃ (parts : List (List UInt8)) (after : FileTree) (result : Except Failure Nat),
      answer.1 = parts.map .ok ∧
        Extraction.extract parts.flatten dest answer.2.files = (after, result) ∧
        copied = (result, { answer.2 with files := after }) ∧
        Extraction.Answers parts.flatten dest answer.2.files after result := by
  dsimp only
  rw [copyOut_apply]
  dsimp only
  rcases engine.archive (containerName handle.id) path world with ⟨stream, asked⟩
  dsimp only
  rcases stream_cases stream with ⟨parts, rfl⟩ | ⟨parts, fault, rest, rfl⟩
  · rw [collected_parts]
    rcases hextract : Extraction.extract parts.flatten dest asked.files with ⟨after, result⟩
    refine .inr ⟨parts, after, result, rfl, hextract, ?_, Extraction.answers_extract hextract⟩
    dsimp only
    rw [extractTo_apply, hextract]
  · obtain ⟨reason, hreason⟩ := copyFailure_eq (containerName handle.id) path fault
    rw [collected_of_fault]
    exact .inl ⟨parts, fault, rest, reason, rfl, hreason, by rw [← hreason]⟩

end Engine

end SealedBuild
