import SealedBuild.Text.Split

/-!
# Run identifiers

A run is named by a UUID of 128 bits. It is written with hyphens and lower-case digits and
read in any of four spellings and any letter case; its last twelve digits name the run's
container and its staging directory.
-/

namespace SealedBuild

/-- The identifier of one run. -/
structure RunId where
  bits : BitVec 128
  deriving DecidableEq, Inhabited

namespace RunId

/-- The value of a hexadecimal digit of either case. -/
def digitValue? (c : Char) : Option Nat :=
  if '0' ≤ c ∧ c ≤ '9' then some (c.toNat - '0'.toNat)
  else if 'a' ≤ c ∧ c ≤ 'f' then some (c.toNat - 'a'.toNat + 10)
  else if 'A' ≤ c ∧ c ≤ 'F' then some (c.toNat - 'A'.toNat + 10)
  else none

/-- The thirty-two digits of the identifier. -/
def digits (id : RunId) : List Char :=
  (List.range 32).map fun i =>
    Nat.digitChar ((id.bits.toNat / Nat.pow 16 (31 - i)) % 16)

/-- The last twelve digits, enough to tell runs under way apart. -/
def short (id : RunId) : String :=
  String.ofList (id.digits.drop 20)

/-- The digits in groups of eight, four, four, four and twelve. -/
def toText (id : RunId) : String :=
  let ds := id.digits
  let group := fun start length => String.ofList ((ds.drop start).take length)
  String.intercalate "-" [group 0 8, group 8 4, group 12 4, group 16 4, group 20 12]

/-- Thirty-two digits as an identifier. -/
def ofDigits? (ds : List Char) : Option RunId :=
  if ds.length = 32 then
    (ds.mapM digitValue?).map fun values =>
      ⟨BitVec.ofNat 128 (values.foldl (fun n v => n * 16 + v) 0)⟩
  else none

/-- Digits in the five groups of the hyphenated form. -/
def ofHyphenated? (text : List Char) : Option RunId :=
  let groups := Text.splitAt '-' text
  if groups.map List.length = [8, 4, 4, 4, 12] then ofDigits? groups.flatten else none

/-- Reads an identifier: thirty-two digits, the hyphenated form, that form between braces,
or that form as a URN. -/
def parse? (text : String) : Option RunId :=
  let cs := text.toList
  match cs with
  | '{' :: rest =>
    match rest.reverse with
    | '}' :: inner => ofHyphenated? inner.reverse
    | _ => none
  | _ =>
    match Text.after? "urn:uuid:".toList (cs.map Char.toLower) with
    | some rest => ofHyphenated? rest
    | none => if cs.length = 32 then ofDigits? cs else ofHyphenated? cs

end RunId

end SealedBuild
