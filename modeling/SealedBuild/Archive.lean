import SealedBuild.Text.Blank
import SealedBuild.Text.Utf8

/-!
# Archives

The parts of a tape archive: headers of one block each with their fields, the kinds of
entries, and what can be wrong with them. A header is read by position; its texts end at the
first zero byte, and its numbers are octal texts, or binary where the first bit is set.
-/

namespace SealedBuild.Archive

/-- The size of a header and of the units that contents are padded to. -/
def blockSize : Nat := 512

/-- The kinds of entries, by their type byte. -/
inductive EntryKind where
  | regular
  | link
  | symlink
  | character
  | block
  | directory
  | fifo
  | contiguous
  | globalAttributes
  | attributes
  | longName
  | longLink
  | sparse
  | other (code : Nat)
  deriving DecidableEq, Inhabited

namespace EntryKind

/-- The kind that a type byte stands for. -/
def ofByte (b : UInt8) : EntryKind :=
  match Char.ofNat b.toNat with
  | '0' => regular
  | '1' => link
  | '2' => symlink
  | '3' => character
  | '4' => block
  | '5' => directory
  | '6' => fifo
  | '7' => contiguous
  | 'g' => globalAttributes
  | 'x' => attributes
  | 'L' => longName
  | 'K' => longLink
  | 'S' => sparse
  | _ => if b = 0 then regular else other b.toNat

/-- The name of a kind in messages. -/
def name : EntryKind → String
  | regular => "Regular"
  | link => "Link"
  | symlink => "Symlink"
  | character => "Char"
  | block => "Block"
  | directory => "Directory"
  | fifo => "Fifo"
  | contiguous => "Continuous"
  | globalAttributes => "XGlobalHeader"
  | attributes => "XHeader"
  | longName => "GNULongName"
  | longLink => "GNULongLink"
  | sparse => "GNUSparse"
  | other code => "__Nonexhaustive(" ++ toString code ++ ")"

/-- Whether entries of the kind say something of others and are no members themselves. -/
def describes : EntryKind → Bool
  | longName | longLink | attributes | globalAttributes => true
  | _ => false

end EntryKind

/-- Why the text of a numeric field is no number. -/
inductive NumberFault where
  | notText (shown : String)
  | notOctal (written : String)
  deriving DecidableEq, Inhabited

/-- The wording of a number fault. -/
def NumberFault.message : NumberFault → String
  | notText shown => "numeric field did not have utf-8 text: " ++ shown
  | notOctal written => "numeric field was not a number: " ++ written

/-- Why an archive cannot be read on. -/
inductive Fault where
  | incompleteBlock
  | checksumMismatch
  | badNumber (fault : NumberFault) (field owner : String)
  | badSparseNumber (fault : NumberFault) (field : String)
  /-- The archive ends before the content of an entry does. -/
  | endedInContent
  | orphanDescription
  | repeatedLongName
  | repeatedAttributes
  | sizeOverflow
  | sparseWithoutMap
  | sparseMisaligned
  | sparseOverlap
  | sparseTooLong
  | sparseOverrun
  | sparseSizeMismatch
  | sparseContentMismatch
  | noSparseExtension
  deriving DecidableEq, Inhabited

/-- The wording of an archive fault. -/
def Fault.message : Fault → String
  | incompleteBlock => "failed to read entire block"
  | checksumMismatch => "archive header checksum mismatch"
  | badNumber fault field owner =>
    fault.message ++ " when getting " ++ field ++ " for " ++ owner
  | badSparseNumber fault field =>
    fault.message ++ " when getting " ++ field ++ " from sparse header"
  | endedInContent => "unexpected EOF during skip"
  | orphanDescription => "members found describing a future member but no future member found"
  | repeatedLongName => "two long name entries describing the same member"
  | repeatedAttributes => "two pax extensions entries describing the same member"
  | sizeOverflow => "size overflow"
  | sparseWithoutMap => "sparse entry type listed but not GNU header"
  | sparseMisaligned => "previous block in sparse file was not aligned to 512-byte boundary"
  | sparseOverlap => "out of order or overlapping sparse blocks"
  | sparseTooLong => "more bytes listed in sparse file than u64 can hold"
  | sparseOverrun => "sparse file consumed more data than the header listed"
  | sparseSizeMismatch => "mismatch in sparse file chunks and size in header"
  | sparseContentMismatch => "mismatch in sparse file chunks and entry size in header"
  | noSparseExtension => "failed to read extension"

/-! ## Fields -/

/-- The bytes of a field that starts at an offset. -/
def field (header : List UInt8) (offset length : Nat) : List UInt8 :=
  (header.drop offset).take length

/-- The bytes before the first zero. -/
def untilZero (bytes : List UInt8) : List UInt8 :=
  bytes.takeWhile (· != 0)

/-- The bound of sizes in an archive. -/
def sizeBound : Nat := Nat.pow 2 64

/-- The number that octal digits name; a plus sign may stand before them. -/
def octalValue? (text : List Char) : Option Nat :=
  let digits := match text with
    | '+' :: rest => rest
    | _ => text
  if digits.isEmpty || !digits.all fun c => '0' ≤ c && c ≤ '7' then none
  else
    let value := digits.foldl (fun n c => n * 8 + (c.toNat - '0'.toNat)) 0
    if value < sizeBound then some value else none

/-- The number in an octal field; white space around it is passed over. -/
def octalNumber (bytes : List UInt8) : Except NumberFault Nat :=
  let written := untilZero bytes
  match Utf8.decode? written with
  | none => .error (.notText (Utf8.decodeLossy written))
  | some text =>
    match octalValue? (Text.trim text.toList) with
    | some value => .ok value
    | none => .error (.notOctal text)

/-- The number in a field that is octal, or binary in its last eight bytes when its first
bit is set. -/
def sizeNumber (bytes : List UInt8) : Except NumberFault Nat :=
  match bytes with
  | first :: _ =>
    if first.toNat ≥ 128 then
      .ok ((bytes.drop (bytes.length - 8)).foldl (fun n b => n * 256 + b.toNat) 0)
    else octalNumber bytes
  | [] => octalNumber bytes

/-! ## Headers -/

/-- A header, as the bytes of its block. -/
abbrev Header := List UInt8

namespace Header

/-- Whether the header has the marks of the GNU form. -/
def isGnu (h : Header) : Bool :=
  field h 257 8 == Utf8.encode "ustar  " ++ [0]

/-- Whether the header has the marks of the POSIX form. -/
def isPosix (h : Header) : Bool :=
  field h 257 8 == Utf8.encode "ustar" ++ [0] ++ Utf8.encode "00"

/-- The path in the header, which in the POSIX form may be split in two. -/
def path (h : Header) : List UInt8 :=
  let name := untilZero (field h 0 100)
  let directory := untilZero (field h 345 155)
  if h.isPosix && !directory.isEmpty then directory ++ Utf8.encode "/" ++ name else name

/-- The path in the header as it is shown. -/
def shownPath (h : Header) : String :=
  Utf8.decodeLossy h.path

/-- The kind of the entry. -/
def kind (h : Header) : EntryKind :=
  EntryKind.ofByte (h.getD 156 0)

/-- A number of the header, which names the field in a fault. -/
def number (h : Header) (name : String) (value : Except NumberFault Nat) : Except Fault Nat :=
  value.mapError fun fault => .badNumber fault name h.shownPath

/-- The permissions of the entry, as a word of thirty-two bits. -/
def mode (h : Header) : Except Fault Nat :=
  (h.number "mode" (octalNumber (field h 100 8))).map (· % Nat.pow 2 32)

/-- The size of the entry's content in the archive. -/
def size (h : Header) : Except Fault Nat :=
  h.number "size" (sizeNumber (field h 124 12))

/-- The checksum that the header states. -/
def statedChecksum (h : Header) : Except Fault Nat :=
  h.number "cksum" (octalNumber (field h 148 8))

/-- The sum of a header's bytes, with blanks in place of the checksum. -/
def checksum (h : Header) : Nat :=
  (h.take 148 ++ h.drop 156).foldl (fun n b => n + b.toNat) 0 + 8 * 32

end Header

/-- An entry of an archive. -/
structure Entry where
  header : Header
  /-- The path, which further headers may have given in place of the header's own. -/
  path : List UInt8
  /-- The content as far as the archive holds it. -/
  content : List UInt8
  deriving Inhabited

/-- The path of an entry as it is shown. -/
def Entry.name (entry : Entry) : String :=
  Utf8.decodeLossy entry.path

end SealedBuild.Archive
