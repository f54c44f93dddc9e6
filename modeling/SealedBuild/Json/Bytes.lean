import SealedBuild.Json.Fields
import SealedBuild.RunId
import SealedBuild.Text.Utf8

/-!
# Byte strings in JSON

A byte string is a text in UTF-8 or a list of segments, each of them a text, hexadecimal
digits or a number of zeros. It is shown as hexadecimal digits, long runs of zeros by their
length.
-/

namespace SealedBuild.Json

/-- The bytes of hexadecimal digits, two each. -/
def hexBytes? : List Char → Option (List UInt8)
  | [] => some []
  | high :: low :: rest => do
    let value := (← RunId.digitValue? high) * 16 + (← RunId.digitValue? low)
    let bytes ← hexBytes? rest
    pure (value.toUInt8 :: bytes)
  | [_] => none

/-- The bytes of one segment. -/
def segment? (json : Json) : Option (List UInt8) :=
  match json.field? "text", json.field? "hex", json.field? "zeros" with
  | some (.text value), _, _ => some (Utf8.encode value)
  | _, some (.text digits), _ => hexBytes? digits.toList
  | _, _, some value => (Decoder.count value).map fun n => List.replicate n 0
  | _, _, _ => none

/-- A byte string. -/
def Decoder.bytes : Decoder (List UInt8)
  | .null => some []
  | .text value => some (Utf8.encode value)
  | .list segments => (segments.mapM segment?).map List.flatten
  | _ => none

/-- A field that holds a byte string; a missing one is empty. -/
def bytesOr (json : Json) (name : String) : Reading (List UInt8) :=
  match Decoder.bytes ((json.field? name).getD .null) with
  | some value => .ok value
  | none => .error "bytes"

/-- A field that may hold a byte string. -/
def maybeBytes (json : Json) (name : String) : Reading (Option (List UInt8)) :=
  match json.present? name with
  | none => .ok none
  | some _ => (json.bytesOr name).map some

/-- The length from which on a run of zeros is shown by its length. -/
def longRun : Nat := 32

/-- A run of zeros as it is shown. -/
def shownZeros (length : Nat) : List Char :=
  if length < longRun then List.replicate (2 * length) '0'
  else '(' :: Nat.toDigits 10 length ++ [')']

/-- Bytes as they are shown, `zeros` zeros before them; the digits so far are in reverse. -/
def shownFrom (zeros : Nat) (shown : List Char) : List UInt8 → List Char
  | [] => (shownZeros zeros).reverse ++ shown
  | b :: rest =>
    if b = 0 then shownFrom (zeros + 1) shown rest
    else
      shownFrom 0
        (Nat.digitChar (b.toNat % 16) :: Nat.digitChar (b.toNat / 16) ::
          ((shownZeros zeros).reverse ++ shown))
        rest

/-- Bytes as they are shown. -/
def shownBytes (bytes : List UInt8) : String :=
  String.ofList (shownFrom 0 [] bytes).reverse

end SealedBuild.Json
