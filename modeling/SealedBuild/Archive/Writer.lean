import SealedBuild.Archive

/-!
# Writing archives

Regular files in the GNU form, with the time zero and no owner, so that equal contents give
equal archives. Contents are padded to whole blocks, and two blocks of zeros end the archive.
-/

namespace SealedBuild.Archive

/-- Zero bytes. -/
def zeros (count : Nat) : List UInt8 :=
  List.replicate count 0

/-- An octal number in a field: its digits behind zeros, and one zero byte. -/
def octalField (width value : Nat) : List UInt8 :=
  let digits := (Nat.toDigits 8 value).map fun c => c.toNat.toUInt8
  List.replicate (width - 1 - digits.length) 48 ++ digits.drop (digits.length - (width - 1)) ++ [0]

/-- The last bytes of a number, the most significant one first. -/
def bigEndian : Nat → Nat → List UInt8
  | 0, _ => []
  | count + 1, value => bigEndian count (value / 256) ++ [value.toUInt8]

/-- A number in the last eight bytes of a field, with the first bit of the field set. -/
def binaryField (width value : Nat) : List UInt8 :=
  128 :: zeros (width - 9) ++ bigEndian 8 value

/-- The bound of the sizes that a header states in octal digits: eight gibibytes. -/
def octalBound : Nat := Nat.pow 8 11

/-- A size in its field: octal, or binary where the digits do not fit. -/
def sizeField (size : Nat) : List UInt8 :=
  if size < octalBound then octalField 12 size else binaryField 12 size

/-- A text in a field, with zero bytes behind it. -/
def textField (width : Nat) (text : List UInt8) : List UInt8 :=
  text.take width ++ zeros (width - text.length)

/-- The header of a regular file, with a given checksum field. -/
def headerWith (checksum : List UInt8) (name : List UInt8) (mode size : Nat) : Header :=
  textField 100 name ++ octalField 8 mode ++ zeros 16 ++ sizeField size ++
    octalField 12 0 ++ checksum ++ Utf8.encode "0" ++ zeros 100 ++ Utf8.encode "ustar  " ++
    zeros 248

/-- The header of a regular file. -/
def header (name : List UInt8) (mode size : Nat) : Header :=
  let sum := (headerWith (zeros 8) name mode size).checksum
  headerWith (octalField 8 sum) name mode size

/-- The zero bytes that fill the last block of a content. -/
def padding (size : Nat) : Nat :=
  (blockSize - size % blockSize) % blockSize

/-- A regular file to be written. -/
structure NewFile where
  name : String
  mode : Nat
  content : List UInt8

/-- The blocks of one file. -/
def NewFile.blocks (file : NewFile) : List UInt8 :=
  header (Utf8.encode file.name) file.mode file.content.length ++ file.content ++
    zeros (padding file.content.length)

/-- The archive of some files. -/
def write (files : List NewFile) : List UInt8 :=
  files.flatMap NewFile.blocks ++ zeros (2 * blockSize)

end SealedBuild.Archive
