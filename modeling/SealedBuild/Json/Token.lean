import SealedBuild.Double
import SealedBuild.Json
import SealedBuild.Json.Fault
import SealedBuild.Text.Utf8

/-!
# Tokens of JSON texts

Blanks, words, texts and numbers of RFC 8259. Whole numbers that fit a word of sixty-four bits
are exact; all others are the numbers of double precision that they are read as.
-/

namespace SealedBuild.Json

/-! ## Bytes -/

namespace Byte

@[match_pattern] def quote : UInt8 := 34
@[match_pattern] def plus : UInt8 := 43
@[match_pattern] def comma : UInt8 := 44
@[match_pattern] def minus : UInt8 := 45
@[match_pattern] def point : UInt8 := 46
@[match_pattern] def colon : UInt8 := 58
@[match_pattern] def openList : UInt8 := 91
@[match_pattern] def backslash : UInt8 := 92
@[match_pattern] def closeList : UInt8 := 93
@[match_pattern] def letterF : UInt8 := 102
@[match_pattern] def letterN : UInt8 := 110
@[match_pattern] def letterT : UInt8 := 116
@[match_pattern] def letterU : UInt8 := 117
@[match_pattern] def openObject : UInt8 := 123
@[match_pattern] def closeObject : UInt8 := 125

/-- Whether a byte is a decimal digit. -/
def isDigit (b : UInt8) : Bool :=
  48 ≤ b && b ≤ 57

/-- The value of a decimal digit. -/
def digitValue (b : UInt8) : Nat :=
  b.toNat - 48

/-- The value of a hexadecimal digit. -/
def hexValue? (b : UInt8) : Option Nat :=
  if isDigit b then some (b.toNat - 48)
  else if 97 ≤ b && b ≤ 102 then some (b.toNat - 87)
  else if 65 ≤ b && b ≤ 70 then some (b.toNat - 55)
  else none

/-- Whether a byte is one of the blanks that may stand between tokens. -/
def isBlank (b : UInt8) : Bool :=
  b == 32 || b == 10 || b == 9 || b == 13

end Byte

namespace Token

/-- The bytes behind the blanks that may stand between tokens. -/
def skipBlank : List UInt8 → List UInt8 :=
  List.dropWhile Byte.isBlank

/-- What follows the rest of a word. -/
def wordEnd : List UInt8 → List UInt8 → Except Fault (List UInt8)
  | [], rest => .ok rest
  | _ :: _, [] => .error ⟨.endedInValue, []⟩
  | b :: more, d :: rest => if b = d then wordEnd more rest else .error ⟨.expectedWord, rest⟩

/-- Reads the rest of a word that stands for a value. -/
def word (value : Json) (text : String) (bytes : List UInt8) : Step Json :=
  (wordEnd (Utf8.encode text) bytes).map fun rest => (value, rest)

/-! ## Texts -/

/-- Reads four hexadecimal digits. -/
def hexUnit : List UInt8 → Step Nat
  | a :: b :: c :: d :: rest =>
    match [a, b, c, d].mapM Byte.hexValue? with
    | some values => .ok (values.foldl (fun n v => n * 16 + v) 0, rest)
    | none => .error ⟨.invalidEscape, rest⟩
  | _ => .error ⟨.endedInText, []⟩

/-- Whether a code unit is the first one of a pair. -/
def isLeading (unit : Nat) : Bool :=
  0xD800 ≤ unit && unit ≤ 0xDBFF

/-- Whether a code unit is the second one of a pair. -/
def isTrailing (unit : Nat) : Bool :=
  0xDC00 ≤ unit && unit ≤ 0xDFFF

/-- Reads the second code unit of a character, whose first one was read. -/
def secondUnit (leading : Nat) : List UInt8 → Step Char
  | Byte.backslash :: Byte.letterU :: more =>
    match hexUnit more with
    | .error fault => .error fault
    | .ok (unit, rest) =>
      if isTrailing unit then
        .ok (Char.ofNat (0x10000 + (leading - 0xD800) * 0x400 + (unit - 0xDC00)), rest)
      else .error ⟨.loneSurrogate, rest⟩
  | Byte.backslash :: more => .error (faultOrEnd .endedInText .endedEscape more)
  | bytes => .error (faultOrEnd .endedInText .endedEscape bytes)

/-- Reads a character given by its code units, from behind the first letter u. -/
def escapedUnit (bytes : List UInt8) : Step Char :=
  match hexUnit bytes with
  | .error fault => .error fault
  | .ok (unit, rest) =>
    if isTrailing unit then .error ⟨.loneSurrogate, rest⟩
    else if isLeading unit then secondUnit unit rest
    else .ok (Char.ofNat unit, rest)

/-- The character that a letter behind a backslash stands for. -/
def shortEscape? (b : UInt8) : Option Char :=
  [(34, '"'), (92, '\\'), (47, '/'), (98, Char.ofNat 8), (102, Char.ofNat 12), (110, '\n'),
    (114, '\r'), (116, '\t')].lookup b

/-- Reads what a backslash stands for, from behind it. -/
def escape : List UInt8 → Step Char
  | [] => .error ⟨.endedInText, []⟩
  | b :: rest =>
    if b = Byte.letterU then escapedUnit rest
    else
      match shortEscape? b with
      | some c => .ok (c, rest)
      | none => .error ⟨.invalidEscape, rest⟩

/-- What follows an escape that is not looked at, from behind its backslash. Code units need
not make up characters. -/
def skipEscape : List UInt8 → Except Fault (List UInt8)
  | [] => .error ⟨.endedInText, []⟩
  | b :: rest =>
    if b = Byte.letterU then (hexUnit rest).map Prod.snd
    else
      match shortEscape? b with
      | some _ => .ok rest
      | none => .error ⟨.invalidEscape, rest⟩

theorem length_of_hexUnit {bytes rest : List UInt8} {unit : Nat}
    (h : hexUnit bytes = .ok (unit, rest)) : rest.length < bytes.length := by
  unfold hexUnit at h
  split at h
  · split at h
    · simp only [Except.ok.injEq, Prod.mk.injEq] at h
      obtain ⟨-, rfl⟩ := h
      simp only [List.length_cons]
      omega
    · simp at h
  · simp at h

theorem length_of_secondUnit {leading : Nat} {bytes rest : List UInt8} {c : Char}
    (h : secondUnit leading bytes = .ok (c, rest)) : rest.length < bytes.length := by
  unfold secondUnit at h
  split at h
  · next more =>
    split at h
    · simp at h
    · next unit behind hunit =>
      have := length_of_hexUnit hunit
      split at h
      · simp only [Except.ok.injEq, Prod.mk.injEq] at h
        obtain ⟨-, rfl⟩ := h
        simp only [List.length_cons]
        omega
      · simp at h
  · simp at h
  · simp at h

theorem length_of_escapedUnit {bytes rest : List UInt8} {c : Char}
    (h : escapedUnit bytes = .ok (c, rest)) : rest.length < bytes.length := by
  unfold escapedUnit at h
  split at h
  · simp at h
  · next unit behind hunit =>
    have := length_of_hexUnit hunit
    split at h
    · simp at h
    · split at h
      · have := length_of_secondUnit h
        omega
      · simp only [Except.ok.injEq, Prod.mk.injEq] at h
        obtain ⟨-, rfl⟩ := h
        assumption

theorem length_of_escape {bytes rest : List UInt8} {c : Char}
    (h : escape bytes = .ok (c, rest)) : rest.length < bytes.length := by
  unfold escape at h
  split at h
  · simp at h
  · split at h
    · have := length_of_escapedUnit h
      simp only [List.length_cons]
      omega
    · split at h
      · simp only [Except.ok.injEq, Prod.mk.injEq] at h
        obtain ⟨-, rfl⟩ := h
        simp
      · simp at h

theorem length_of_skipEscape {bytes rest : List UInt8} (h : skipEscape bytes = .ok rest) :
    rest.length < bytes.length := by
  unfold skipEscape at h
  split at h
  · simp at h
  · next b tail =>
    split at h
    · cases hunit : hexUnit tail with
      | error fault => simp [hunit, Except.map] at h
      | ok found =>
        have := length_of_hexUnit hunit
        simp only [hunit, Except.map, Except.ok.injEq] at h
        subst h
        simp only [List.length_cons]
        omega
    · split at h
      · simp only [Except.ok.injEq] at h
        subst h
        simp
      · simp at h

/-- Reads the rest of a text up to its closing quote; `read` holds the bytes before, last one
first. -/
def textBody (read : List UInt8) (bytes : List UInt8) : Step (List UInt8) :=
  match bytes with
  | [] => .error ⟨.endedInText, []⟩
  | Byte.quote :: rest => .ok (read.reverse, rest)
  | Byte.backslash :: rest =>
    match _h : escape rest with
    | .ok (c, behind) => textBody ((Utf8.encode (String.singleton c)).reverse ++ read) behind
    | .error fault => .error fault
  | b :: rest => if b < 32 then .error ⟨.controlCharacter, rest⟩ else textBody (b :: read) rest
termination_by bytes.length
decreasing_by
  · have := length_of_escape _h
    simp only [List.length_cons]
    omega
  · simp

/-- Reads a text from behind its opening quote. -/
def text (bytes : List UInt8) : Step String :=
  match textBody [] bytes with
  | .error fault => .error fault
  | .ok (content, rest) =>
    match Utf8.decode? content with
    | some value => .ok (value, rest)
    | none => .error ⟨.invalidCodePoint, rest⟩

/-- What follows a text that is not looked at, from behind its opening quote. -/
def skipText (bytes : List UInt8) : Except Fault (List UInt8) :=
  match bytes with
  | [] => .error ⟨.endedInText, []⟩
  | Byte.quote :: rest => .ok rest
  | Byte.backslash :: rest =>
    match _h : skipEscape rest with
    | .ok behind => skipText behind
    | .error fault => .error fault
  | b :: rest => if b < 32 then .error ⟨.controlCharacter, b :: rest⟩ else skipText rest
termination_by bytes.length
decreasing_by
  · have := length_of_skipEscape _h
    simp only [List.length_cons]
    omega
  · simp

/-! ## Numbers -/

/-- The decimal digits that some bytes start with, and the rest. -/
def digits (bytes : List UInt8) : List UInt8 × List UInt8 :=
  (bytes.takeWhile Byte.isDigit, bytes.dropWhile Byte.isDigit)

/-- Reads the whole digits of a number. They do not start with a zero unless they are one. -/
def wholeDigits (bytes : List UInt8) : Step (List UInt8) :=
  match digits bytes with
  | ([], _) => .error (faultOrEnd .endedInValue .invalidNumber bytes)
  | (48 :: _ :: _, _) => .error ⟨.invalidNumber, bytes.drop 2⟩
  | (whole, rest) => .ok (whole, rest)

/-- Reads the fraction of a number, if there is one. -/
def fractionDigits : List UInt8 → Step (List UInt8)
  | Byte.point :: rest =>
    match digits rest with
    | ([], _) => .error (faultOrEnd .endedInValue .invalidNumber rest)
    | (fraction, behind) => .ok (fraction, behind)
  | bytes => .ok ([], bytes)

/-- An exponent: its sign and its digits. -/
structure Exponent where
  negative : Bool
  digits : List UInt8

/-- Reads the exponent of a number, if there is one. -/
def exponent? : List UInt8 → Step (Option Exponent)
  | [] => .ok (none, [])
  | b :: rest =>
    if b = 101 || b = 69 then
      let (negative, unsigned) := match rest with
        | Byte.plus :: more => (false, more)
        | Byte.minus :: more => (true, more)
        | _ => (false, rest)
      match digits unsigned with
      | ([], _) => .error (faultOrEnd .endedInValue .invalidNumber unsigned)
      | (ds, behind) => .ok (some ⟨negative, ds⟩, behind)
    else .ok (none, b :: rest)

/-- The greatest value of the digits of a number; further ones only count. -/
def greatestDigits : Nat := 18446744073709551615

/-- The value of the digits of a number as far as it is kept, and the power of ten it is to
be multiplied by. Of the whole digits that are not kept the number counts; of the fraction
they are dropped. -/
def significand (whole fraction : List UInt8) : Nat × Int :=
  let (kept, _, more) := whole.foldl
    (fun (n, full, more) b =>
      let next := n * 10 + Byte.digitValue b
      if full || greatestDigits < next then (n, true, more + 1) else (next, false, more))
    ((0 : Nat), false, (0 : Int))
  let (kept, _, exponent) := fraction.foldl
    (fun (n, full, exponent) b =>
      let next := n * 10 + Byte.digitValue b
      if full || greatestDigits < next then (n, true, exponent) else (next, false, exponent - 1))
    (kept, false, more)
  (kept, exponent)

/-- The value of digits up to a bound, or those that are left behind the one that passes it. -/
def boundedValue (bound : Nat) : Nat → List UInt8 → Nat ⊕ List UInt8
  | n, [] => .inl n
  | n, b :: rest =>
    let next := n * 10 + Byte.digitValue b
    if bound < next then .inr rest else boundedValue bound next rest

/-- The greatest value of an exponent. -/
def greatestExponent : Nat := 2147483647

/-- The value of an exponent with the one from the digits, within its bounds. -/
def clampedExponent (exponent : Int) : Int :=
  max (-2147483648) (min exponent greatestExponent)

/-- The text of a number that is no whole one. -/
def decimalOf (negative : Bool) (number : Double) : Json :=
  .decimal ((if negative then "-" else "") ++ number.toText)

/-- The number of some digits times a power of ten, with the bytes behind it. -/
def scaled (negative : Bool) (kept : Nat) (exponent : Int) (rest : List UInt8) : Step Json :=
  match Double.ofDecimal? kept exponent with
  | some number => .ok (decimalOf negative number, rest)
  | none => .error ⟨.numberTooGreat, rest⟩

/-- The value of a whole number. Too great ones and a negative zero are no whole numbers. -/
def wholeNumber (negative : Bool) (size : Nat) (rest : List UInt8) : Step Json :=
  if negative then
    if 0 < size ∧ size ≤ 9223372036854775808 then .ok (.integer (-size), rest)
    else scaled negative size 0 rest
  else .ok (.integer size, rest)

/-- Reads a number from behind its sign. -/
def number (negative : Bool) (bytes : List UInt8) : Except Fault (Json × List UInt8) := do
  let (whole, rest) ← wholeDigits bytes
  let (fraction, rest) ← fractionDigits rest
  let (exponent, rest) ← exponent? rest
  let (kept, shift) := significand whole fraction
  match exponent with
  | none =>
    if fraction.isEmpty && shift == 0 then wholeNumber negative kept rest
    else scaled negative kept shift rest
  | some exponent =>
    match boundedValue greatestExponent 0 exponent.digits with
    | .inl value =>
      let power : Int := if exponent.negative then -value else value
      scaled negative kept (clampedExponent (shift + power)) rest
    | .inr left =>
      if kept ≠ 0 ∧ !exponent.negative then .error ⟨.numberTooGreat, left ++ rest⟩
      else pure (decimalOf negative .zero, rest)

/-- A fault at the first byte of some bytes, or at their end. -/
def faultAt (reason : Reason) (bytes : List UInt8) : Fault :=
  ⟨reason, bytes.drop 1⟩

/-- What follows a number that is not looked at, from behind its sign. -/
def skipNumber (bytes : List UInt8) : Except Fault (List UInt8) :=
  match digits bytes with
  | ([], _) => .error (faultAt .invalidNumber bytes)
  | (48 :: _ :: _, _) => .error ⟨.invalidNumber, bytes.drop 2⟩
  | (_, rest) =>
    let behind : Except Fault (List UInt8) := do
      let (_, rest) ← fractionDigits rest
      let (_, rest) ← exponent? rest
      pure rest
    behind.mapError fun fault => ⟨.invalidNumber, fault.behind⟩

end Token

end SealedBuild.Json
