import SealedBuild.Artifact
import SealedBuild.Proofs.Outcome

/-!
# Laws of checksums and handoffs

The check of a handoff looks at the files as they are now, and at nothing that happened to
them before.
-/

namespace SealedBuild

namespace Sha256

theorem digitChar_plain : ∀ digit < 16,
    Nat.digitChar digit ≠ '\n' ∧ Nat.digitChar digit ≠ '"' ∧ Nat.digitChar digit ≠ '\\' := by
  decide

/-- A checksum stands in a text as it is: it has only hexadecimal digits. -/
theorem plain_of_mem_hex {message : List UInt8} {c : Char} (hc : c ∈ (hex message).toList) :
    c ≠ '\n' ∧ c ≠ '"' ∧ c ≠ '\\' := by
  rw [hex, String.toList_ofList, List.mem_flatMap] at hc
  obtain ⟨b, -, hc⟩ := hc
  have hbound := b.toNat_lt
  simp only [hexByte, List.mem_cons, List.not_mem_nil, or_false] at hc
  rcases hc with rfl | rfl
  · exact digitChar_plain _ (by omega)
  · exact digitChar_plain _ (by omega)

end Sha256

/-- A measured file can be read, and has the size and the checksum that were given. -/
theorem checksum_eq_ok_iff {files : FileTree} {path : String} {size : Nat} {digest : String} :
    checksum files path = .ok (size, digest) ↔
      ∃ content, files.read path = .ok content ∧ content.length = size ∧
        Sha256.hex content = digest := by
  rw [checksum, bind_eq_ok_iff]
  simp [pure, Except.pure]

/-- A good handoff is a regular file of the recorded size and checksum. -/
theorem Handoff.check_eq_ok_iff {handoff : Handoff} {files : FileTree} :
    handoff.check files = .ok () ↔
      ∃ mode content, files.find handoff.artifact.stagedPath = .ok (.file mode content) ∧
        content.length = handoff.artifact.size ∧
        Sha256.hex content = handoff.artifact.checksum := by
  unfold check
  dsimp only
  rcases files.find handoff.artifact.stagedPath with fault | node
  · simp
  · cases node with
    | directory => simp
    | file mode content =>
        simp only [Except.ok.injEq, FileNode.file.injEq, ite_eq_left_iff, reduceCtorEq, imp_false,
          Decidable.not_not]
        constructor
        · intro hsame
          exact ⟨mode, content, ⟨rfl, rfl⟩, hsame⟩
        · rintro ⟨_, _, ⟨rfl, rfl⟩, hsame⟩
          exact hsame

end SealedBuild
