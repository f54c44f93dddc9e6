import SealedBuild.Text.Utf8

/-!
# Laws of UTF-8

Different texts have different bytes, and bytes below 128 are the characters of their codes.
-/

namespace SealedBuild.Utf8

theorem encode_injective : Function.Injective encode := by
  intro text text' h
  rw [encode, encode, Array.toList_inj, String.toUTF8, String.toUTF8, ← ByteArray.ext_iff,
    String.toByteArray_inj] at h
  exact h

theorem scan_of_ascii {bytes : List UInt8} (h : ∀ b ∈ bytes, b.toNat ≤ 0x7F) :
    scan bytes = bytes.map fun b => some (Char.ofNat b.toNat) := by
  unfold scan
  induction bytes with
  | nil => rfl
  | cons b bytes ih =>
      rw [List.forall_mem_cons] at h
      simp only [scanFrom, step, start, if_pos h.1, ih h.2]
      rfl

theorem decode?_of_ascii {bytes : List UInt8} (h : ∀ b ∈ bytes, b.toNat ≤ 0x7F) :
    decode? bytes = some (String.ofList (bytes.map fun b => Char.ofNat b.toNat)) := by
  have hall (bytes : List UInt8) (toChar : UInt8 → Char) :
      (bytes.map fun b => some (toChar b)).mapM id = some (bytes.map toChar) := by
    induction bytes with
    | nil => rfl
    | cons b bytes ih => simp [ih]
  rw [decode?, scan_of_ascii h, hall, Option.map_some]

end SealedBuild.Utf8
