import Mathlib.Algebra.Group.Nat.Defs
import SealedBuild.Archive.Writer
import SealedBuild.Proofs.Text.Trim
import SealedBuild.Proofs.Text.Utf8

/-!
# Numbers in header fields

A number that is written into a field is read back from it: in octal digits where they fit, and
in binary behind a set first bit where they do not.
-/

namespace SealedBuild

namespace Archive

/-- A digit of base eight. -/
def IsOctal (c : Char) : Prop :=
  '0' ≤ c ∧ c ≤ '7'

instance (c : Char) : Decidable (IsOctal c) :=
  inferInstanceAs (Decidable (_ ∧ _))

theorem isOctal_digitChar {n : Nat} (h : n < 8) : IsOctal n.digitChar := by
  revert h n
  decide

theorem isOctal_of_mem_toDigits {c : Char} {value : Nat} (h : c ∈ Nat.toDigits 8 value) :
    IsOctal c := by
  induction value using Nat.strongRecOn with
  | ind value ih =>
      rw [Nat.toDigits_eq_if (by decide)] at h
      split at h
      next hsmall =>
        rw [List.mem_singleton.mp h]
        exact isOctal_digitChar hsmall
      next hlarge =>
        rcases List.mem_append.mp h with h | h
        · exact ih (value / 8) (by omega) h
        · rw [List.mem_singleton.mp h]
          exact isOctal_digitChar (Nat.mod_lt _ (by decide))

/-- The byte of a character. -/
def byteOf (c : Char) : UInt8 := c.toNat.toUInt8

namespace IsOctal

variable {c : Char}

theorem toNat_bounds (h : IsOctal c) : 48 ≤ c.toNat ∧ c.toNat ≤ 55 := h

theorem toNat_byteOf (h : IsOctal c) : (byteOf c).toNat = c.toNat := by
  have hbounds := h.toNat_bounds
  simp only [byteOf, Nat.toUInt8, UInt8.toNat_ofNat']
  omega

theorem ofNat_byteOf (h : IsOctal c) : Char.ofNat (byteOf c).toNat = c := by
  rw [h.toNat_byteOf, Char.ofNat_toNat]

theorem isBlank_eq_false (h : IsOctal c) : Text.isBlank c = false := by
  have hbounds := h.toNat_bounds
  exact Text.isBlank_of_printed (by omega) (by omega)

end IsOctal

/-- The digits of a number, with zeros before them. -/
def octalDigits (width value : Nat) : List Char :=
  List.replicate (width - (Nat.toDigits 8 value).length) '0' ++ Nat.toDigits 8 value

theorem isOctal_of_mem_octalDigits {width value : Nat} {c : Char}
    (h : c ∈ octalDigits width value) : IsOctal c := by
  rcases List.mem_append.mp h with h | h
  · rw [List.eq_of_mem_replicate h]
    decide
  · exact isOctal_of_mem_toDigits h

theorem length_octalDigits {width value : Nat} (hwidth : 0 < width) (hvalue : value < 8 ^ width) :
    (octalDigits width value).length = width := by
  have hdigits := (Nat.length_toDigits_le_iff (by decide) hwidth).mpr hvalue
  rw [octalDigits, List.length_append, List.length_replicate]
  omega

/-- A number that fits its field stands there with all of its digits. -/
theorem octalField_eq {width value : Nat} (hwidth : 0 < width) (hvalue : value < 8 ^ width) :
    octalField (width + 1) value = (octalDigits width value).map byteOf ++ [0] := by
  have hdigits := (Nat.length_toDigits_le_iff (by decide) hwidth).mpr hvalue
  have hdrop : (Nat.toDigits 8 value).length - width = 0 := by omega
  simp [octalField, octalDigits, hdrop, byteOf]

theorem length_octalField (width : Nat) {value : Nat} (hwidth : 0 < width) (hvalue : value < 8 ^ width) :
    (octalField (width + 1) value).length = width + 1 := by
  rw [octalField_eq hwidth hvalue, List.length_append, List.length_map,
    length_octalDigits hwidth hvalue]
  rfl

theorem octalValue?_of_isOctal {text : List Char} (hne : text ≠ [])
    (hoctal : ∀ c ∈ text, IsOctal c) (hbound : Nat.ofDigitChars 8 text 0 < sizeBound) :
    octalValue? text = some (Nat.ofDigitChars 8 text 0) := by
  obtain ⟨first, rest, rfl⟩ := List.exists_cons_of_ne_nil hne
  have hplus : first ≠ '+' := by
    rintro rfl
    exact absurd (hoctal '+' List.mem_cons_self) (by decide)
  have hall : (first :: rest).all (fun c => '0' ≤ c && c ≤ '7') = true := by
    simpa [IsOctal] using hoctal
  rw [Nat.ofDigitChars_eq_foldl] at hbound ⊢
  simp only [Nat.mul_comm 8] at hbound ⊢
  rw [octalValue?]
  · simp only [hall, hbound]
    rfl
  · intro digits hsame
    exact hplus (List.cons.inj hsame).1

theorem ofDigitChars_octalDigits (width value : Nat) :
    Nat.ofDigitChars 8 (octalDigits width value) 0 = value := by
  rw [octalDigits, Nat.ofDigitChars_append, Nat.ofDigitChars_replicate_zero, Nat.mul_zero,
    Nat.ofDigitChars_toDigits (by decide) (by decide)]

/-- Octal digits with a zero byte behind them are read as their number. -/
theorem octalNumber_digits {text : List Char} (hne : text ≠ []) (hoctal : ∀ c ∈ text, IsOctal c)
    (hbound : Nat.ofDigitChars 8 text 0 < sizeBound) :
    octalNumber (text.map byteOf ++ [0]) = .ok (Nat.ofDigitChars 8 text 0) := by
  have hbytes : ∀ b ∈ text.map byteOf, 48 ≤ b.toNat ∧ b.toNat ≤ 55 := by
    intro b hb
    obtain ⟨c, hc, rfl⟩ := List.mem_map.mp hb
    rw [(hoctal c hc).toNat_byteOf]
    exact (hoctal c hc).toNat_bounds
  have hzero : ∀ b ∈ text.map byteOf, (b != 0) = true := by
    intro b hb
    have hlow := (hbytes b hb).1
    simp only [bne_iff_ne]
    rintro rfl
    exact absurd hlow (by decide)
  have hwritten : untilZero (text.map byteOf ++ [0]) = text.map byteOf := by
    rw [untilZero, List.takeWhile_append_of_pos hzero]
    simp
  have hascii : ∀ b ∈ text.map byteOf, b.toNat ≤ 0x7F := by
    intro b hb
    have hhigh := (hbytes b hb).2
    omega
  have hchars : (text.map byteOf).map (fun b => Char.ofNat b.toNat) = text := by
    rw [List.map_map]
    exact (List.map_congr_left fun c hc => (hoctal c hc).ofNat_byteOf).trans (List.map_id text)
  simp only [octalNumber, hwritten, Utf8.decode?_of_ascii hascii, hchars, String.toList_ofList,
    Text.trim_eq_self (.of_forall fun c hc => (hoctal c hc).isBlank_eq_false),
    octalValue?_of_isOctal hne hoctal hbound]

theorem toNat_le_of_mem_octalField (width : Nat) {value : Nat} (hwidth : 0 < width)
    (hvalue : value < 8 ^ width) {b : UInt8} (hb : b ∈ octalField (width + 1) value) :
    b.toNat ≤ 55 := by
  rw [octalField_eq hwidth hvalue] at hb
  rcases List.mem_append.mp hb with hb | hb
  · obtain ⟨c, hc, rfl⟩ := List.mem_map.mp hb
    have hoctal := isOctal_of_mem_octalDigits hc
    rw [hoctal.toNat_byteOf]
    exact hoctal.toNat_bounds.2
  · rw [List.mem_singleton.mp hb]
    decide

theorem octalNumber_octalField (width : Nat) {value : Nat} (hwidth : 0 < width)
    (hvalue : value < 8 ^ width) (hbound : value < sizeBound) :
    octalNumber (octalField (width + 1) value) = .ok value := by
  have hne : octalDigits width value ≠ [] := by
    simp [octalDigits, Nat.toDigits_ne_nil]
  have hread := ofDigitChars_octalDigits width value
  rw [octalField_eq hwidth hvalue,
    octalNumber_digits hne (fun c => isOctal_of_mem_octalDigits) (by rwa [hread]), hread]

/-! ## Binary numbers -/

theorem length_bigEndian (count value : Nat) : (bigEndian count value).length = count := by
  induction count generalizing value with
  | zero => rfl
  | succ count ih => rw [bigEndian, List.length_append, ih, List.length_singleton]

theorem foldl_bigEndian (count value : Nat) :
    (bigEndian count value).foldl (fun n b => n * 256 + b.toNat) 0 = value % 256 ^ count := by
  induction count generalizing value with
  | zero => simp [bigEndian, Nat.mod_one]
  | succ count ih =>
      have hbyte : value.toUInt8.toNat = value % 256 := by
        simp [Nat.toUInt8, UInt8.toNat_ofNat']
      rw [bigEndian, List.foldl_append, ih, List.foldl_cons, List.foldl_nil, hbyte, Nat.pow_succ,
        Nat.mul_comm (256 ^ count), Nat.mod_mul]
      omega

theorem length_sizeField (size : Nat) : (sizeField size).length = 12 := by
  rw [sizeField]
  split
  next hsmall => exact length_octalField 11 (by decide) hsmall
  next => simp [binaryField, zeros, length_bigEndian]

/-- Only a set first bit makes a number binary. -/
theorem sizeNumber_eq_octalNumber {bytes : List UInt8} (h : ∀ b ∈ bytes, b.toNat < 128) :
    sizeNumber bytes = octalNumber bytes := by
  cases bytes with
  | nil => rfl
  | cons first rest =>
      have hfirst := h first List.mem_cons_self
      rw [sizeNumber, if_neg (by omega)]

/-- A size below the bound of sizes is read back from its field. -/
theorem sizeNumber_sizeField {size : Nat} (h : size < sizeBound) :
    sizeNumber (sizeField size) = .ok size := by
  rw [sizeField]
  split
  next hsmall =>
    have hlow : ∀ b ∈ octalField 12 size, b.toNat < 128 := by
      intro b hb
      have hdigit := toNat_le_of_mem_octalField 11 (by decide) hsmall hb
      omega
    rw [sizeNumber_eq_octalNumber hlow]
    exact octalNumber_octalField 11 (by decide) hsmall h
  next =>
    have hdrop : (binaryField 12 size).drop ((binaryField 12 size).length - 8) =
        bigEndian 8 size := by
      simp [binaryField, zeros, length_bigEndian]
    have hfirst : binaryField 12 size = 128 :: (zeros 3 ++ bigEndian 8 size) := rfl
    have hbound : size < 256 ^ 8 := h
    have hread := foldl_bigEndian 8 size
    rw [Nat.mod_eq_of_lt hbound] at hread
    rw [hfirst] at hdrop ⊢
    simp only [sizeNumber, hdrop, hread]
    rfl

end Archive

end SealedBuild
