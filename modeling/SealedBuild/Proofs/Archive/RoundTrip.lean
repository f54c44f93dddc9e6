import SealedBuild.Archive.Reader
import SealedBuild.Proofs.Archive.Header

/-!
# Reading back archives

An archive of regular files reads back as these files, in order and to the byte. The length of a
content is the header's alone to tell: zeros within it, or a last block that it fills, are not
taken for padding or for the end of the archive.
-/

namespace SealedBuild.Archive

/-- A file whose name and permissions fit their fields. -/
structure NewFile.Writable (file : NewFile) : Prop where
  nameLength : (Utf8.encode file.name).length ≤ 100
  nameZero : 0 ∉ Utf8.encode file.name
  mode : file.mode < 8 ^ 7

/-- The header that a file is written with. -/
def NewFile.header (file : NewFile) : Header :=
  Archive.header (Utf8.encode file.name) file.mode file.content.length

/-- What a file is read back as. -/
def NewFile.entry (file : NewFile) : Entry :=
  ⟨file.header, Utf8.encode file.name, file.content⟩

theorem add_padding (size : Nat) : size + padding size = paddedSize size := by
  simp only [padding, paddedSize, blockSize]
  omega

variable {file : NewFile} {rest : List UInt8} {whole : Nat}

namespace NewFile.Writable

theorem length_header (h : file.Writable) : file.header.length = blockSize :=
  Archive.length_header _ _ h.mode

theorem length_blocks (h : file.Writable) :
    file.blocks.length = blockSize + paddedSize file.content.length := by
  have hblocks : file.blocks =
      file.header ++ file.content ++ zeros (padding file.content.length) := rfl
  rw [hblocks, List.length_append, List.length_append, h.length_header, length_zeros,
    Nat.add_assoc, add_padding]

/-- The next member of an archive is the file that was written first. -/
theorem member?_blocks (h : file.Writable) (hwhole : (file.blocks ++ rest).length ≤ whole)
    (hbound : whole < sizeBound) :
    member? whole none (file.blocks ++ rest) =
      .ok (some ⟨file.header, file.content.length,
        file.content ++ zeros (padding file.content.length) ++ rest⟩) := by
  have hbytes : file.blocks ++ rest = file.header ++
      (file.content ++ zeros (padding file.content.length) ++ rest) := by
    simp [NewFile.blocks, NewFile.header]
  have htake : (file.blocks ++ rest).take blockSize = file.header := by
    rw [hbytes, List.take_left' h.length_header]
  have hdrop : (file.blocks ++ rest).drop blockSize =
      file.content ++ zeros (padding file.content.length) ++ rest := by
    rw [hbytes, List.drop_left' h.length_header]
  have hlength : (file.blocks ++ rest).length =
      blockSize + paddedSize file.content.length + rest.length := by
    rw [List.length_append, h.length_blocks]
  have hpadding := add_padding file.content.length
  have hblock : blockSize = 512 := rfl
  have hsome : (file.blocks ++ rest).isEmpty = false := by
    rw [List.isEmpty_eq_false_iff, ← List.length_pos_iff]
    omega
  have hsize : file.header.size = .ok file.content.length :=
    size_header _ _ h.mode (by omega)
  have hstated : file.header.statedChecksum = .ok file.header.checksum :=
    statedChecksum_header _ _ h.mode
  have hkind : file.header.kind = .regular := kind_header _ _ h.mode
  have hnonzero : file.header.all (· == 0) = false := header_not_zeros _ _ _
  -- The place behind the content is still within the archive.
  have hplace : ¬ (sizeBound ≤ file.content.length + (blockSize - 1) ∨
      sizeBound ≤ whole - ((file.blocks ++ rest).length - blockSize) +
        paddedSize file.content.length) := by
    omega
  have hlong : ¬ (file.blocks ++ rest).length < blockSize := by omega
  rw [member?]
  simp only [hsome, htake, hdrop, hnonzero, hstated, hsize, hkind, Bool.false_eq_true, if_false,
    if_neg hlong, bind, Except.bind, ne_eq, not_true_eq_false, EntryKind.describes,
    Option.bind_none, Option.getD_none, Bool.or_eq_true, decide_eq_true_eq, if_neg hplace]
  rfl

/-- A regular file says nothing of the entries behind it. -/
theorem add?_eq_none (h : file.Writable) (bytes : List UInt8) (size : Nat) :
    Description.add? {} ⟨file.header, size, bytes⟩ = .ok none := by
  have hkind : file.header.kind = .regular := kind_header _ _ h.mode
  simp only [Description.add?, hkind, ite_self]

theorem path_eq (h : file.Writable) :
    Description.path {} file.header = Utf8.encode file.name := by
  have hpath : file.header.path = Utf8.encode file.name :=
    path_header _ _ h.mode h.nameLength h.nameZero
  simp only [Description.path, Option.bind_none, Option.getD_none, hpath]

theorem behind_content (file : NewFile) (rest : List UInt8) :
    behind (paddedSize file.content.length)
      (file.content ++ zeros (padding file.content.length) ++ rest) = .ok rest := by
  have hlength : (file.content ++ zeros (padding file.content.length)).length =
      paddedSize file.content.length := by
    rw [List.length_append, length_zeros, add_padding]
  rw [behind, if_neg (by rw [List.length_append, hlength]; omega), List.drop_left' hlength]

/-- A file is read as its entry, and the reading goes on behind its last block. -/
theorem entriesFrom_blocks (h : file.Writable) {fuel : Nat}
    (hwhole : (file.blocks ++ rest).length ≤ whole) (hbound : whole < sizeBound) :
    entriesFrom whole (fuel + 1) {} (file.blocks ++ rest) =
      (file.entry :: (entriesFrom whole fuel {} rest).1, (entriesFrom whole fuel {} rest).2) := by
  have hkind : file.header.kind ≠ .sparse := by
    have hregular : file.header.kind = .regular := kind_header _ _ h.mode
    rw [hregular]
    decide
  have hcontent : (file.content ++ zeros (padding file.content.length) ++ rest).take
      file.content.length = file.content := by
    rw [List.append_assoc, List.take_left]
  rw [entriesFrom]
  simp only [h.member?_blocks hwhole hbound, h.add?_eq_none, if_neg hkind, h.path_eq, hcontent,
    Member.span, behind_content]
  rfl

end NewFile.Writable

/-- Two blocks of zeros end an archive. -/
theorem entriesFrom_end (whole fuel : Nat) :
    entriesFrom whole (fuel + 1) {} (zeros (2 * blockSize)) = ([], none) := by
  have hsome : (zeros (2 * blockSize)).isEmpty = false := by
    rw [List.isEmpty_eq_false_iff, ← List.length_pos_iff, length_zeros]
    decide
  have hlong : ¬ (zeros (2 * blockSize)).length < blockSize := by
    rw [length_zeros]
    decide
  have hzeros : ((zeros (2 * blockSize)).take blockSize).all (· == 0) = true := by
    simp [zeros]
  have hend : member? whole none (zeros (2 * blockSize)) = .ok none := by
    rw [member?]
    simp only [hsome, hzeros, Bool.false_eq_true, if_false, if_true, if_neg hlong]
    rfl
  rw [entriesFrom]
  simp only [hend]
  rfl

theorem write_cons (file : NewFile) (files : List NewFile) :
    write (file :: files) = file.blocks ++ write files := by
  simp [write]

theorem entriesFrom_write {files : List NewFile} (hfiles : ∀ file ∈ files, file.Writable)
    {fuel : Nat} (hfuel : files.length < fuel) (hwhole : (write files).length ≤ whole)
    (hbound : whole < sizeBound) :
    entriesFrom whole fuel {} (write files) = (files.map NewFile.entry, none) := by
  induction files generalizing fuel with
  | nil =>
      obtain ⟨fuel, rfl⟩ := Nat.exists_eq_add_of_lt hfuel
      exact entriesFrom_end whole _
  | cons file files ih =>
      rw [List.forall_mem_cons] at hfiles
      obtain ⟨fuel, rfl⟩ := Nat.exists_eq_add_of_lt hfuel
      rw [write_cons] at hwhole ⊢
      have hrest : (write files).length ≤ whole := by
        rw [List.length_append] at hwhole
        omega
      rw [hfiles.1.entriesFrom_blocks hwhole hbound, ih hfiles.2 (by simp; omega) hrest]
      rfl

/-- Every file takes up a block or more. -/
theorem length_le_length_write {files : List NewFile} (hfiles : ∀ file ∈ files, file.Writable) :
    files.length ≤ (write files).length := by
  induction files with
  | nil => exact Nat.zero_le _
  | cons file files ih =>
      rw [List.forall_mem_cons] at hfiles
      have hblock : blockSize = 512 := rfl
      have hrest := ih hfiles.2
      rw [write_cons, List.length_append, hfiles.1.length_blocks, List.length_cons]
      omega

/-- An archive below the bound of sizes reads back as the files that it was written from. -/
theorem entries_write {files : List NewFile} (hfiles : ∀ file ∈ files, file.Writable)
    (hbound : (write files).length < sizeBound) :
    entries (write files) = (files.map NewFile.entry, none) :=
  entriesFrom_write hfiles (Nat.lt_succ_of_le (length_le_length_write hfiles)) (Nat.le_refl _)
    hbound

end SealedBuild.Archive
