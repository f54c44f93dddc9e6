import SealedBuild.Proofs.Archive.Field

/-!
# Reading back headers

The header of a regular file has one block, and every field of it that a reader looks at is read
as it was written.
-/

namespace SealedBuild.Archive

theorem field_of_append (front rest : List UInt8) {header bytes : List UInt8}
    {offset length : Nat} (hheader : header = front ++ bytes ++ rest) (hoffset : front.length = offset)
    (hlength : bytes.length = length) : field header offset length = bytes := by
  subst hoffset hlength hheader
  simp [field]

@[simp] theorem length_zeros (count : Nat) : (zeros count).length = count :=
  List.length_replicate

@[simp] theorem length_textField (width : Nat) (text : List UInt8) :
    (textField width text).length = width := by
  rw [textField, List.length_append, List.length_take, length_zeros]
  omega

/-- A text that fits its field is read up to the zeros behind it. -/
theorem untilZero_textField {width : Nat} {text : List UInt8} (hlength : text.length ≤ width)
    (hzero : 0 ∉ text) : untilZero (textField width text) = text := by
  have hkept : ∀ b ∈ text, (b != 0) = true := by
    intro b hb
    simpa using ne_of_mem_of_not_mem hb hzero
  rw [untilZero, textField, List.take_of_length_le hlength, List.takeWhile_append_of_pos hkept]
  cases width - text.length <;> simp [zeros, List.replicate_succ]

/-- The part of a header before its checksum field. -/
def beforeChecksum (name : List UInt8) (mode size : Nat) : List UInt8 :=
  textField 100 name ++ octalField 8 mode ++ zeros 16 ++ sizeField size ++ octalField 12 0

/-- The part of a header behind its checksum field. -/
def afterChecksum : List UInt8 :=
  48 :: zeros 100 ++ (Utf8.encode "ustar  " ++ [0]) ++ zeros 247

theorem headerWith_eq (sum name : List UInt8) (mode size : Nat) :
    headerWith sum name mode size = beforeChecksum name mode size ++ sum ++ afterChecksum := by
  have hkind : Utf8.encode "0" = [48] := by decide +kernel
  have hzeros : zeros 248 = 0 :: zeros 247 := rfl
  simp [headerWith, beforeChecksum, afterChecksum, hkind, hzeros]

/-- The checksum that a written header states. -/
def checksumField (name : List UInt8) (mode size : Nat) : List UInt8 :=
  octalField 8 (headerWith (zeros 8) name mode size).checksum

theorem header_eq (name : List UInt8) (mode size : Nat) :
    header name mode size =
      beforeChecksum name mode size ++ checksumField name mode size ++ afterChecksum := by
  rw [header, headerWith_eq]
  rfl

theorem length_afterChecksum : afterChecksum.length = 356 := by
  have hmarks : (Utf8.encode "ustar  ").length = 7 := by decide +kernel
  simp [afterChecksum, hmarks]

/-- A written header is not taken for the end of an archive. -/
theorem header_not_zeros (name : List UInt8) (mode size : Nat) :
    (header name mode size).all (· == 0) = false := by
  rw [List.all_eq_false]
  refine ⟨48, ?_, by decide⟩
  simp [header_eq, afterChecksum]

section Fields

-- Permissions of more than seven octal digits would not fit their field.
variable (name : List UInt8) {mode : Nat} (size : Nat) (hmode : mode < 8 ^ 7)

include hmode

theorem length_modeField : (octalField 8 mode).length = 8 :=
  length_octalField 7 (by decide) hmode

theorem length_beforeChecksum : (beforeChecksum name mode size).length = 148 := by
  have htime : (octalField 12 0).length = 12 := by decide
  simp only [beforeChecksum, List.length_append, length_textField, length_zeros, length_sizeField,
    length_modeField hmode, htime]

/-! ## Checksums -/

omit hmode in
theorem foldl_bytes_le (bytes : List UInt8) (start : Nat) :
    bytes.foldl (fun n b => n + b.toNat) start ≤ start + bytes.length * 255 := by
  induction bytes generalizing start with
  | nil => simp
  | cons b bytes ih =>
      have hb : b.toNat < 256 := b.toNat_lt
      have htail := ih (start + b.toNat)
      rw [List.foldl_cons, List.length_cons]
      omega

/-- The checksum does not depend on what stands in its own field. -/
theorem checksum_headerWith {sum : List UInt8} (hsum : sum.length = 8) :
    (headerWith sum name mode size).checksum =
      (beforeChecksum name mode size ++ afterChecksum).foldl (fun n b => n + b.toNat) 0 +
        8 * 32 := by
  have hbefore := length_beforeChecksum name size hmode
  have htake : (headerWith sum name mode size).take 148 = beforeChecksum name mode size := by
    rw [headerWith_eq, List.append_assoc, List.take_left' hbefore]
  have hdrop : (headerWith sum name mode size).drop 156 = afterChecksum := by
    rw [headerWith_eq, List.drop_left' (by simp [hbefore, hsum])]
  rw [Header.checksum, htake, hdrop]

theorem checksum_lt : (headerWith (zeros 8) name mode size).checksum < 8 ^ 7 := by
  have hbytes := foldl_bytes_le (beforeChecksum name mode size ++ afterChecksum) 0
  rw [List.length_append, length_beforeChecksum name size hmode, length_afterChecksum] at hbytes
  rw [checksum_headerWith name size hmode (length_zeros 8)]
  omega

theorem length_checksumField : (checksumField name mode size).length = 8 :=
  length_octalField 7 (by decide) (checksum_lt name size hmode)

theorem length_header : (header name mode size).length = blockSize := by
  rw [header_eq, List.length_append, List.length_append, length_beforeChecksum name size hmode,
    length_checksumField name size hmode, length_afterChecksum]
  rfl

theorem statedChecksum_header :
    (header name mode size).statedChecksum = .ok (header name mode size).checksum := by
  have hlt := checksum_lt name size hmode
  have hfield : field (header name mode size) 148 8 = checksumField name mode size :=
    field_of_append (beforeChecksum name mode size) afterChecksum (header_eq name mode size)
      (length_beforeChecksum name size hmode) (length_checksumField name size hmode)
  have hread : octalNumber (checksumField name mode size) =
      .ok (headerWith (zeros 8) name mode size).checksum :=
    octalNumber_octalField 7 (by decide) hlt (Nat.lt_trans hlt (by decide))
  have hsame : (header name mode size).checksum =
      (headerWith (zeros 8) name mode size).checksum := by
    change (headerWith (checksumField name mode size) name mode size).checksum = _
    rw [checksum_headerWith name size hmode (length_checksumField name size hmode),
      checksum_headerWith name size hmode (length_zeros 8)]
  rw [Header.statedChecksum, hfield, hread, hsame]
  rfl

/-! ## The other fields -/

theorem size_header (hsize : size < sizeBound) : (header name mode size).size = .ok size := by
  have hfield : field (header name mode size) 124 12 = sizeField size := by
    apply field_of_append (textField 100 name ++ octalField 8 mode ++ zeros 16)
      (octalField 12 0 ++ checksumField name mode size ++ afterChecksum)
    · simp [header_eq, beforeChecksum]
    · simp [length_modeField hmode]
    · exact length_sizeField size
  rw [Header.size, hfield, sizeNumber_sizeField hsize]
  rfl

theorem mode_header : (header name mode size).mode = .ok mode := by
  have hfield : field (header name mode size) 100 8 = octalField 8 mode := by
    apply field_of_append (textField 100 name)
      (zeros 16 ++ sizeField size ++ octalField 12 0 ++ checksumField name mode size ++
        afterChecksum)
    · simp [header_eq, beforeChecksum]
    · exact length_textField 100 name
    · exact length_modeField hmode
  have hbound : mode < sizeBound := Nat.lt_trans hmode (by decide)
  have hword : mode % Nat.pow 2 32 = mode := Nat.mod_eq_of_lt (Nat.lt_trans hmode (by decide))
  rw [Header.mode, hfield, octalNumber_octalField 7 (by decide) hmode hbound]
  exact congrArg Except.ok hword

theorem kind_header : (header name mode size).kind = .regular := by
  have hlength : (beforeChecksum name mode size ++ checksumField name mode size).length = 156 := by
    rw [List.length_append, length_beforeChecksum name size hmode,
      length_checksumField name size hmode]
  have hbyte : (header name mode size).getD 156 0 = 48 := by
    rw [header_eq, List.getD_eq_getElem?_getD,
      List.getElem?_append_right (Nat.le_of_eq hlength), hlength]
    rfl
  rw [Header.kind, hbyte]
  rfl

theorem isPosix_header : (header name mode size).isPosix = false := by
  have hfield : field (header name mode size) 257 8 = Utf8.encode "ustar  " ++ [0] := by
    apply field_of_append (beforeChecksum name mode size ++ checksumField name mode size ++
      48 :: zeros 100) (zeros 247)
    · simp [header_eq, afterChecksum]
    · simp [length_beforeChecksum name size hmode, length_checksumField name size hmode]
    · decide +kernel
  rw [Header.isPosix, hfield]
  decide +kernel

theorem path_header (hlength : name.length ≤ 100) (hzero : 0 ∉ name) :
    (header name mode size).path = name := by
  have hfield : field (header name mode size) 0 100 = textField 100 name := by
    apply field_of_append []
      (octalField 8 mode ++ zeros 16 ++ sizeField size ++ octalField 12 0 ++
        checksumField name mode size ++ afterChecksum)
    · simp [header_eq, beforeChecksum]
    · rfl
    · exact length_textField 100 name
  rw [Header.path, isPosix_header name size hmode, hfield, untilZero_textField hlength hzero]
  rfl

end Fields

end SealedBuild.Archive
