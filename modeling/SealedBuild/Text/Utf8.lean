/-!
# UTF-8

Reading bytes as text. `scan` marks every maximal run of bytes that starts a character but
does not complete one, and every byte that starts none; reading strictly refuses such runs,
reading leniently puts one replacement character for each.
-/

namespace SealedBuild.Utf8

/-- A character under way: its bits so far, the number of bytes it still needs, and the
range of the next one. -/
structure Partial where
  bits : Nat
  owed : Nat
  low : Nat
  high : Nat

/-- What a byte begins: a whole character, one under way, or none. -/
def start (b : UInt8) : List (Option Char) × Option Partial :=
  let n := b.toNat
  if n ≤ 0x7F then ([some (Char.ofNat n)], none)
  else if 0xC2 ≤ n ∧ n ≤ 0xDF then ([], some ⟨n - 0xC0, 1, 0x80, 0xBF⟩)
  else if n = 0xE0 then ([], some ⟨n - 0xE0, 2, 0xA0, 0xBF⟩)
  else if n = 0xED then ([], some ⟨n - 0xE0, 2, 0x80, 0x9F⟩)
  else if 0xE1 ≤ n ∧ n ≤ 0xEF then ([], some ⟨n - 0xE0, 2, 0x80, 0xBF⟩)
  else if n = 0xF0 then ([], some ⟨n - 0xF0, 3, 0x90, 0xBF⟩)
  else if 0xF1 ≤ n ∧ n ≤ 0xF3 then ([], some ⟨n - 0xF0, 3, 0x80, 0xBF⟩)
  else if n = 0xF4 then ([], some ⟨n - 0xF0, 3, 0x80, 0x8F⟩)
  else ([none], none)

/-- One byte: the characters it completes, with `none` for a run that is no character, and
the character then under way. -/
def step : Option Partial → UInt8 → List (Option Char) × Option Partial
  | none, b => start b
  | some p, b =>
    if p.low ≤ b.toNat ∧ b.toNat ≤ p.high then
      let bits := p.bits * 64 + (b.toNat - 0x80)
      if p.owed ≤ 1 then ([some (Char.ofNat bits)], none)
      else ([], some ⟨bits, p.owed - 1, 0x80, 0xBF⟩)
    else
      let (out, next) := start b
      (none :: out, next)

/-- The characters of a byte sequence; `none` stands for each run that is no character. -/
def scanFrom : Option Partial → List UInt8 → List (Option Char)
  | none, [] => []
  | some _, [] => [none]
  | p, b :: rest =>
    let (out, next) := step p b
    out ++ scanFrom next rest

/-- The characters of a byte sequence; `none` stands for each run that is no character. -/
def scan (bytes : List UInt8) : List (Option Char) :=
  scanFrom none bytes

/-- The text, with a replacement character for each run that is no character. -/
def decodeLossy (bytes : List UInt8) : String :=
  String.ofList ((scan bytes).map fun c => c.getD (Char.ofNat 0xFFFD))

/-- The text, if the bytes are UTF-8 throughout. -/
def decode? (bytes : List UInt8) : Option String :=
  ((scan bytes).mapM id).map String.ofList

/-- The bytes of a text. -/
def encode (text : String) : List UInt8 :=
  text.toUTF8.data.toList

end SealedBuild.Utf8
