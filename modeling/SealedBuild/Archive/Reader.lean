import SealedBuild.Archive
import SealedBuild.Text.Split

/-!
# Reading archives

Entries are read in order up to the end of the bytes or the first block of zeros. Long names
and attribute headers describe the entry behind them and are no entries themselves. A fault
ends the reading but not the entries before it: whoever works through the entries in order
meets the fault behind them.
-/

namespace SealedBuild.Archive

/-! ## Attribute headers -/

/-- One attribute: a key and a value. -/
structure Attribute where
  key : List UInt8
  value : List UInt8

/-- The lines of attributes. Reading stops at the first empty line. -/
def attributeLines (bytes : List UInt8) : List (List UInt8) :=
  (bytes.splitOn 10).takeWhile fun line => !line.isEmpty

/-- The number that decimal digits in bytes name; a plus sign may stand before them. -/
def decimalNumber? (bytes : List UInt8) : Option Nat := do
  let text ← Utf8.decode? bytes
  let digits := match text.toList with
    | '+' :: rest => rest
    | cs => cs
  if digits.isEmpty || !digits.all Char.isDigit then none
  else
    let value := digits.foldl (fun n c => n * 10 + (c.toNat - '0'.toNat)) 0
    if value < sizeBound then some value else none

/-- The attribute of a line: its own length, a blank, the key, an equals sign and the
value. The length counts the line end. -/
def attribute? (line : List UInt8) : Option Attribute := do
  let stated := line.takeWhile (· != 32)
  let body ← (line.drop stated.length).tail?
  let length ← decimalNumber? stated
  if line.length + 1 = length then
    let key := body.takeWhile (· != 61)
    let value ← (body.drop key.length).tail?
    pure ⟨key, value⟩
  else none

/-- The size that the first attribute of that name on some lines states. A malformed line
before it hides it. -/
def sizeAmong? : List (List UInt8) → Option Nat
  | [] => none
  | line :: rest =>
    match attribute? line with
    | none => none
    | some found =>
      if found.key = Utf8.encode "size" then decimalNumber? found.value else sizeAmong? rest

/-- The size that attributes state. -/
def statedSize? (attributes : List UInt8) : Option Nat :=
  sizeAmong? (attributeLines attributes)

/-- The path that attributes state; malformed lines are passed over. -/
def statedPath? (attributes : List UInt8) : Option (List UInt8) :=
  ((attributeLines attributes).filterMap attribute?).findSome? fun found =>
    if found.key = Utf8.encode "path" then some found.value else none

/-! ## Sparse entries -/

/-- How far the map of a sparse entry has been followed. -/
structure SparseState where
  /-- The end of the last chunk in the file. -/
  reached : Nat := 0
  /-- The content that no chunk has taken yet. -/
  remaining : Nat

/-- Follows one chunk of a sparse map: twelve bytes each for its place and its length. -/
def sparseChunk (size : Nat) (state : SparseState) (chunk : List UInt8) :
    Except Fault SparseState := do
  if chunk.head? = some 0 || (chunk.drop 12).head? = some 0 then pure state
  else
    let offset ← (sizeNumber (chunk.take 12)).mapError fun fault =>
      Fault.badSparseNumber fault "offset"
    let length ← (sizeNumber (chunk.drop 12)).mapError fun fault =>
      Fault.badSparseNumber fault "length"
    if length ≠ 0 ∧ (size - state.remaining) % blockSize ≠ 0 then throw .sparseMisaligned
    else if offset < state.reached then throw .sparseOverlap
    else if sizeBound ≤ offset + length then throw .sparseTooLong
    else if state.remaining < length then throw .sparseOverrun
    else pure ⟨offset + length, state.remaining - length⟩

/-- The chunks that start at an offset of a block. -/
def sparseChunks (block : List UInt8) (offset count : Nat) : List (List UInt8) :=
  (List.range count).map fun i => field block (offset + 24 * i) 24

/-- Follows the further blocks of a sparse map; gives the bytes behind them. `fuel` bounds
their number, which the bytes do. -/
def sparseExtensions (size : Nat) : Nat → SparseState → List UInt8 →
    Except Fault (SparseState × List UInt8)
  | 0, state, bytes => .ok (state, bytes)
  | fuel + 1, state, bytes => do
    if bytes.isEmpty then throw .noSparseExtension
    else if bytes.length < blockSize then throw .incompleteBlock
    else
      let block := bytes.take blockSize
      let state ← (sparseChunks block 0 21).foldlM (sparseChunk size) state
      if block.getD 504 0 = 1 then sparseExtensions size fuel state (bytes.drop blockSize)
      else pure (state, bytes.drop blockSize)

/-- Checks the map of a sparse entry; gives the bytes behind the map. -/
def checkSparse (h : Header) (size : Nat) (bytes : List UInt8) : Except Fault (List UInt8) := do
  if !h.isGnu then throw .sparseWithoutMap
  let state ← (sparseChunks h 386 4).foldlM (sparseChunk size) ⟨0, size⟩
  let (state, bytes) ←
    if h.getD 482 0 = 1 then sparseExtensions size (bytes.length + 1) state bytes
    else pure (state, bytes)
  let owner := Utf8.decodeLossy (untilZero (field h 297 32)) ++ ":" ++
    Utf8.decodeLossy (untilZero (field h 265 32))
  let real ← (sizeNumber (field h 483 12)).mapError fun fault =>
    Fault.badNumber fault "real_size" owner
  if state.reached ≠ real then throw .sparseSizeMismatch
  if 0 < state.remaining then throw .sparseContentMismatch
  pure bytes

/-! ## Entries -/

/-- A member as it stands in the archive, with the bytes from its content on. -/
structure Member where
  header : Header
  size : Nat
  bytes : List UInt8

/-- The length of a content with the padding behind it. -/
def paddedSize (size : Nat) : Nat :=
  (size + (blockSize - 1)) / blockSize * blockSize

/-- The content of a member and the padding behind it. -/
def Member.span (m : Member) : Nat :=
  paddedSize m.size

/-- Reads the next member of an archive of `whole` bytes from what is left of it; none at the
end of the bytes or at a block of zeros. A size among the attributes is that of the member
that they describe, and replaces the one in its header. The place behind the content has to be
one that a size can name. -/
def member? (whole : Nat) (attributes : Option (List UInt8)) (bytes : List UInt8) :
    Except Fault (Option Member) := do
  if bytes.isEmpty then pure none
  else if bytes.length < blockSize then throw .incompleteBlock
  else
    let header : Header := bytes.take blockSize
    if header.all (· == 0) then pure none
    else
      let stated ← header.statedChecksum
      if header.checksum ≠ stated then throw .checksumMismatch
      let own ← header.size
      let size :=
        if header.kind.describes then own else (attributes.bind statedSize?).getD own
      let place := whole - (bytes.length - blockSize)
      if sizeBound ≤ size + (blockSize - 1) || sizeBound ≤ place + paddedSize size then
        throw .sizeOverflow
      pure (some ⟨header, size, bytes.drop blockSize⟩)

/-- What has been said about the entry to come. -/
structure Description where
  longName : Option (List UInt8) := none
  longLink : Option (List UInt8) := none
  attributes : Option (List UInt8) := none

/-- Whether anything has been said. -/
def Description.isEmpty (d : Description) : Bool :=
  d.longName.isNone && d.longLink.isNone && d.attributes.isNone

/-- The description with what a member says; none when the member is an entry itself. Only
the two marked forms of headers describe. -/
def Description.add? (d : Description) (m : Member) : Except Fault (Option Description) :=
  let content := m.bytes.take m.size
  if !(m.header.isGnu || m.header.isPosix) then .ok none
  else
    match m.header.kind with
    | .longName =>
      if d.longName.isSome then .error .repeatedLongName
      else .ok (some { d with longName := some content })
    | .longLink =>
      if d.longLink.isSome then .error .repeatedLongName
      else .ok (some { d with longLink := some content })
    | .attributes =>
      if d.attributes.isSome then .error .repeatedAttributes
      else .ok (some { d with attributes := some content })
    | _ => .ok none

/-- The path of an entry: a long name without the zero behind it, else the path among its
attributes, else the path in its header. -/
def Description.path (d : Description) (h : Header) : List UInt8 :=
  match d.longName with
  | some name => if name.getLast? = some 0 then name.dropLast else name
  | none => ((d.attributes.bind statedPath?)).getD h.path

/-- What is behind a member, unless the archive ends within it. -/
def behind (span : Nat) (bytes : List UInt8) : Except Fault (List UInt8) :=
  if bytes.length < span then .error .endedInContent else .ok (bytes.drop span)

/-- The entries in what is left of an archive of `whole` bytes, and the fault that ended the
reading, if one did. `fuel` bounds the number of members, which the length of the bytes does. -/
def entriesFrom (whole fuel : Nat) (d : Description) (bytes : List UInt8) :
    List Entry × Option Fault :=
  match fuel with
  | 0 => ([], none)
  | fuel + 1 =>
    match member? whole d.attributes bytes with
    | .error fault => ([], some fault)
    | .ok none => ([], if d.isEmpty then none else some .orphanDescription)
    | .ok (some m) =>
      match d.add? m with
      | .error fault => ([], some fault)
      | .ok (some described) =>
        match behind m.span m.bytes with
        | .error fault => ([], some fault)
        | .ok rest => entriesFrom whole fuel described rest
      | .ok none =>
        let mapped :=
          if m.header.kind = .sparse then checkSparse m.header m.size m.bytes else .ok m.bytes
        match mapped with
        | .error fault => ([], some fault)
        | .ok content =>
          let entry : Entry := ⟨m.header, d.path m.header, content.take m.size⟩
          match behind m.span content with
          | .error fault => ([entry], some fault)
          | .ok rest =>
            let (entries, fault) := entriesFrom whole fuel {} rest
            (entry :: entries, fault)

/-- The entries of an archive and the fault that ended the reading, if one did. -/
def entries (archive : List UInt8) : List Entry × Option Fault :=
  entriesFrom archive.length (archive.length + 1) {} archive

end SealedBuild.Archive
