import SealedBuild.Engine

/-!
# Log frames

The form in which an engine sends the log of a container without a console: frames of a
header of eight bytes, which names the stream and the length, and that many bytes. Where a
frame would start with a byte that names no stream, there is the line of a console instead,
up to and with its line feed. What is not complete at the end is lost.
-/

namespace SealedBuild.LogFrame

/-- The size of a header. -/
def headerSize : Nat := 8

/-- The source that the first byte of a header names. -/
def sourceOf? (b : UInt8) : Option LogSource :=
  if b = 0 then some .stdin
  else if b = 1 then some .stdout
  else if b = 2 then some .stderr
  else none

/-- The first byte of the header of a source. -/
def byteOf : LogSource → UInt8
  | .stdin => 0
  | .stdout | .console => 1
  | .stderr => 2

/-- A length as four bytes. -/
def lengthBytes (n : Nat) : List UInt8 :=
  [(n / 16777216).toUInt8, (n / 65536).toUInt8, (n / 256).toUInt8, n.toUInt8]

/-- The length that four bytes name. -/
def lengthOf (bytes : List UInt8) : Nat :=
  bytes.foldl (fun n b => n * 256 + b.toNat) 0

/-- A chunk as a frame. -/
def encode (chunk : LogChunk) : List UInt8 :=
  byteOf chunk.source :: 0 :: 0 :: 0 :: lengthBytes chunk.bytes.length ++ chunk.bytes

/-- The first chunk of some bytes and the bytes behind it. -/
def next? (bytes : List UInt8) : Option (LogChunk × List UInt8) :=
  match bytes with
  | [] => none
  | b :: _ =>
    match sourceOf? b with
    | none =>
      let line := bytes.takeWhile (· != 10)
      if line.length < bytes.length then
        some (⟨.console, bytes.take (line.length + 1)⟩, bytes.drop (line.length + 1))
      else none
    | some source =>
      let length := lengthOf ((bytes.drop 4).take 4)
      if bytes.length < headerSize + length then none
      else
        some (⟨source, (bytes.drop headerSize).take length⟩,
          bytes.drop (headerSize + length))

theorem length_of_next? {bytes rest : List UInt8} {chunk : LogChunk}
    (h : next? bytes = some (chunk, rest)) : rest.length < bytes.length := by
  cases bytes with
  | nil => simp [next?] at h
  | cons b tail =>
    simp only [next?] at h
    split at h
    · split at h
      · simp only [Option.some.injEq, Prod.mk.injEq] at h
        obtain ⟨-, rfl⟩ := h
        simp only [List.length_drop, List.length_cons]
        omega
      · simp at h
    · split at h
      · simp at h
      · simp only [Option.some.injEq, Prod.mk.injEq] at h
        obtain ⟨-, rfl⟩ := h
        simp only [List.length_drop, List.length_cons, headerSize]
        omega

/-- The chunks of a log. -/
def decode (bytes : List UInt8) : List LogChunk :=
  match _h : next? bytes with
  | none => []
  | some (chunk, rest) => chunk :: decode rest
termination_by bytes.length
decreasing_by exact length_of_next? _h

end SealedBuild.LogFrame
