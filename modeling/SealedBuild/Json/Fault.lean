import SealedBuild.Text.Escaped

/-!
# Faults of JSON texts

Why and where a JSON text cannot be read. Either the text ends too early, or it is no JSON, or
it is JSON of another shape than the one it was read for. Positions count lines from one and
the bytes of a line up to and with the one at fault.
-/

namespace SealedBuild.Json

/-- Why a text cannot be read. -/
inductive Reason where
  | endedInValue
  | endedInList
  | endedInObject
  | endedInText
  | expectedValue
  | expectedWord
  | expectedColon
  | expectedListEnd
  | expectedObjectEnd
  | trailingComma
  | keyNotText
  | invalidNumber
  | numberTooGreat
  | invalidEscape
  | endedEscape
  | invalidCodePoint
  | loneSurrogate
  | controlCharacter
  | trailingCharacters
  | tooDeep
  | missing (field : String)
  | repeated (field : String)
  | mistyped (found expected : String)
  | outOfRange (found expected : String)
  | wrongLength (length : Nat) (expected : String)
  /-- A text that is none of those that may stand there. -/
  | unknownName (found : String) (expected : List String)
  deriving DecidableEq

/-- What is wrong with a text. -/
inductive FaultKind where
  /-- It ends too early. -/
  | ended
  /-- It is no JSON. -/
  | malformed
  /-- It is JSON of another shape. -/
  | misshapen
  deriving DecidableEq

/-- A text between back quotes. -/
def backQuoted (text : String) : String :=
  "\x60" ++ text ++ "\x60"

/-- The wording of what may stand somewhere: one of some names. -/
def alternatives : List String → String
  | [one] => backQuoted one
  | [one, other] => backQuoted one ++ " or " ++ backQuoted other
  | names => "one of " ++ String.intercalate ", " (names.map backQuoted)

namespace Reason

/-- What a reason says of the text. -/
def kind : Reason → FaultKind
  | endedInValue | endedInList | endedInObject | endedInText => .ended
  | missing _ | repeated _ | mistyped _ _ | outOfRange _ _ | wrongLength _ _
  | unknownName _ _ => .misshapen
  | _ => .malformed

/-- The wording of a reason. -/
def message : Reason → String
  | endedInValue => "EOF while parsing a value"
  | endedInList => "EOF while parsing a list"
  | endedInObject => "EOF while parsing an object"
  | endedInText => "EOF while parsing a string"
  | expectedValue => "expected value"
  | expectedWord => "expected ident"
  | expectedColon => "expected \x60:\x60"
  | expectedListEnd => "expected \x60,\x60 or \x60]\x60"
  | expectedObjectEnd => "expected \x60,\x60 or \x60\x7d\x60"
  | trailingComma => "trailing comma"
  | keyNotText => "key must be a string"
  | invalidNumber => "invalid number"
  | numberTooGreat => "number out of range"
  | invalidEscape => "invalid escape"
  | endedEscape => "unexpected end of hex escape"
  | invalidCodePoint => "invalid unicode code point"
  | loneSurrogate => "lone leading surrogate in hex escape"
  | controlCharacter => "control character (\\u0000-\\u001F) found while parsing a string"
  | trailingCharacters => "trailing characters"
  | tooDeep => "recursion limit exceeded"
  | missing field => "missing field " ++ backQuoted field
  | repeated field => "duplicate field " ++ backQuoted field
  | mistyped found expected => "invalid type: " ++ found ++ ", expected " ++ expected
  | outOfRange found expected => "invalid value: " ++ found ++ ", expected " ++ expected
  | wrongLength length expected =>
    "invalid length " ++ toString length ++ ", expected " ++ expected
  | unknownName found expected =>
    "unknown variant " ++ backQuoted found ++ ", expected " ++ alternatives expected

end Reason

/-- A reason with the bytes that were left behind the place at fault. -/
structure Fault where
  reason : Reason
  behind : List UInt8

/-- The result of reading a part: its value and the rest, or a fault. -/
abbrev Step (α : Type) := Except Fault (α × List UInt8)

/-- A fault at the first byte of some bytes; at their end, that they ended. -/
def faultOrEnd (ended reason : Reason) : List UInt8 → Fault
  | [] => ⟨ended, []⟩
  | _ :: behind => ⟨reason, behind⟩

/-- A fault with its position in the text. -/
structure ReadFault where
  reason : Reason
  line : Nat
  column : Nat

/-- The line and the column of the last byte of some bytes. -/
def positionOf (bytes : List UInt8) : Nat × Nat :=
  bytes.foldl
    (fun (line, column) (b : UInt8) => if b = 10 then (line + 1, 0) else (line, column + 1))
    (1, 0)

/-- A fault of a text with its position. -/
def Fault.placed (fault : Fault) (text : List UInt8) : ReadFault :=
  let (line, column) := positionOf (text.take (text.length - fault.behind.length))
  ⟨fault.reason, line, column⟩

/-- The wording of a fault. -/
def ReadFault.message (fault : ReadFault) : String :=
  fault.reason.message ++ " at line " ++ toString fault.line ++ " column " ++
    toString fault.column

end SealedBuild.Json
