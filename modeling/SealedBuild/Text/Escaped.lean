import SealedBuild.Text.PlainTable
import SealedBuild.Text.Lowercase

/-!
# Escaped text

A text between double quotes in which every character is visible: the quote, the backslash
and the common controls have short escapes, and every other character that does not show
as itself is written by its code point in hexadecimal. Lists are written between square
brackets.
-/

namespace SealedBuild.Text

/-- The digits of a number in base sixteen, in lower case and without leading zeros. -/
def hexDigits (n : Nat) : List Char :=
  Nat.toDigits 16 n

/-- One character as an escaped text shows it. -/
def escapedChar (c : Char) : List Char :=
  if c = '"' then ['\\', '"']
  else if c = '\\' then ['\\', '\\']
  else if c = '\t' then ['\\', 't']
  else if c = '\r' then ['\\', 'r']
  else if c = '\n' then ['\\', 'n']
  else if c.toNat = 0 then ['\\', '0']
  else if inRanges plainRanges c.toNat then [c]
  else ['\\', 'u', '{'] ++ hexDigits c.toNat ++ ['}']

/-- A text between double quotes with every character visible. -/
def escaped (text : String) : String :=
  String.ofList ('"' :: text.toList.flatMap escapedChar ++ ['"'])

/-- A list of escaped texts between square brackets. -/
def escapedList (texts : List String) : String :=
  "[" ++ String.intercalate ", " (texts.map escaped) ++ "]"

end SealedBuild.Text
