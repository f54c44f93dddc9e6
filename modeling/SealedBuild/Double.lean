/-!
# Numbers of double precision

Finite binary numbers of sixty-four bits without their sign: the one that is nearest to a
fraction, and the shortest decimal that names one. All is computed in whole numbers.
-/

namespace SealedBuild

/-- The number `mantissa * 2 ^ exponent`. The mantissa is below `2 ^ 53`, and it is `2 ^ 52` or
more unless the exponent is the least one. -/
structure Double where
  mantissa : Nat
  exponent : Int
  deriving DecidableEq, Inhabited

namespace Double

/-- The least exponent. -/
def leastExponent : Int := -1074

/-- The greatest exponent. -/
def greatestExponent : Int := 971

def zero : Double :=
  ⟨0, leastExponent⟩

/-- A power as a fraction. -/
def power (base : Nat) (exponent : Int) : Nat × Nat :=
  (Nat.pow base exponent.toNat, Nat.pow base (-exponent).toNat)

/-- A quotient rounded to the nearest whole number, a tie to the even one. -/
def roundDiv (num den : Nat) : Nat :=
  let quotient := num / den
  let twice := 2 * (num % den)
  if twice < den then quotient
  else if den < twice then quotient + 1
  else quotient + quotient % 2

/-- The number with a mantissa that rounding may have carried one bit too far, unless it is
too great. -/
def carried? (mantissa : Nat) (exponent : Int) : Option Double :=
  let number : Double :=
    if mantissa < Nat.pow 2 53 then ⟨mantissa, exponent⟩ else ⟨mantissa / 2, exponent + 1⟩
  if number.exponent ≤ greatestExponent then some number else none

/-- The number that is nearest to a fraction, unless that is too great. -/
def nearest? (num den : Nat) : Option Double :=
  if num = 0 then some zero
  else
    let low : Int := (Nat.log2 num : Int) - Nat.log2 den - 53
    let (up, down) := power 2 low
    let fitting := if num * down < Nat.pow 2 53 * (den * up) then low else low + 1
    let exponent := max fitting leastExponent
    let (up, down) := power 2 exponent
    carried? (roundDiv (num * down) (den * up)) exponent

/-- The number as a fraction. -/
def fraction (number : Double) : Nat × Nat :=
  let (up, down) := power 2 number.exponent
  (number.mantissa * up, down)

/-- The number a product or a quotient rounds to: the number times `10 ^ exponent`, where the
power is rounded first. -/
def timesTen? (number : Double) (exponent : Int) : Option Double := do
  let ten ← nearest? (Nat.pow 10 exponent.natAbs) 1
  let (num, den) := number.fraction
  let (tenNum, tenDen) := ten.fraction
  if 0 ≤ exponent then nearest? (num * tenNum) (den * tenDen)
  else nearest? (num * tenDen) (den * tenNum)

/-- The greatest power of ten that is a number. -/
def greatestTen : Nat := 308

/-- The number that a decimal of whole `digits` times `10 ^ exponent` is read as, unless it is
too great. The digits are rounded first. Exponents far below zero are reached in steps. -/
def ofDecimal? (digits : Nat) (exponent : Int) : Option Double := do
  let number ← nearest? digits 1
  if number.mantissa = 0 then pure zero
  else if exponent.natAbs ≤ greatestTen then number.timesTen? exponent
  else if 0 ≤ exponent then none
  else
    let number ← number.timesTen? (-greatestTen)
    let exponent := exponent + greatestTen
    if exponent.natAbs ≤ greatestTen then number.timesTen? exponent else pure zero

/-! ## Shortest decimals -/

/-- Whether a fraction is closer to the number than to its neighbours; one half way between
is if the mantissa is even. -/
def isNamedBy (number : Double) (num den : Nat) : Bool :=
  let (up, down) := power 2 (number.exponent - 2)
  let below :=
    if number.mantissa = Nat.pow 2 52 ∧ leastExponent < number.exponent then 1 else 2
  let low := (4 * number.mantissa - below) * up * den
  let high := (4 * number.mantissa + 2) * up * den
  let point := num * down
  if number.mantissa % 2 = 0 then low ≤ point && point ≤ high else low < point && point < high

/-- Whether the number is `10 ^ exponent` or more. -/
def reaches (number : Double) (exponent : Int) : Bool :=
  let (num, den) := number.fraction
  let (up, down) := power 10 exponent
  up * den ≤ num * down

/-- The exponent of the first decimal digit of a number that is not zero. -/
def decimalExponent (number : Double) : Int :=
  let guess := ((number.exponent + Nat.log2 number.mantissa) * 30103) / 100000
  if number.reaches (guess + 1) then guess + 1
  else if number.reaches guess then guess
  else guess - 1

/-- The decimals of some digits next to a number: their digits as a whole number. The nearer
one comes first. -/
def neighbours (number : Double) (place : Int) : List Nat :=
  let (num, den) := number.fraction
  let (up, down) := power 10 place
  let below := num * down / (den * up)
  let nearer := roundDiv (num * down) (den * up)
  if nearer = below then [below, below + 1] else [below + 1, below]

/-- The shortest decimal that names a number that is not zero, nearest to it among those: its
digits as a whole number, and the place of the last one. Seventeen digits always do. -/
def shortest (number : Double) : Nat × Int :=
  let first := number.decimalExponent
  let found := (List.range 17).findSome? fun (more : Nat) =>
    let place : Int := first - more
    let (up, down) := power 10 place
    ((number.neighbours place).find? fun digits => number.isNamedBy (digits * up) down).map
      fun digits => (digits, place)
  found.getD ((number.neighbours (first - 16)).headD 0, first - 16)

/-- The digits of a whole number without the zeros at its end, and how many those are. -/
def significant (digits : Nat) : List Char × Nat :=
  let all := Nat.toDigits 10 digits
  let kept := (all.reverse.dropWhile (· == '0')).reverse
  (kept, all.length - kept.length)

/-- The text of a decimal whose first digit stands at an exponent. From a hundred thousandth
up to sixteen whole digits it has a point and no exponent. -/
def decimalText (digits : List Char) (exponent : Int) : List Char :=
  if -5 ≤ exponent ∧ exponent < 0 then
    '0' :: '.' :: List.replicate (-exponent - 1).toNat '0' ++ digits
  else if 0 ≤ exponent ∧ exponent ≤ 15 then
    let whole := exponent.toNat + 1
    let padded := digits ++ List.replicate (whole - digits.length) '0'
    let behind := padded.drop whole
    padded.take whole ++ '.' :: (if behind.isEmpty then ['0'] else behind)
  else
    let behind := digits.drop 1
    digits.take 1 ++ (if behind.isEmpty then [] else '.' :: behind) ++
      'e' :: (if exponent < 0 then '-' else '+') :: Nat.toDigits 10 exponent.natAbs

/-- The shortest text that names the number. -/
def toText (number : Double) : String :=
  if number.mantissa = 0 then "0.0"
  else
    let (digits, place) := number.shortest
    let (kept, zeros) := significant digits
    String.ofList (decimalText kept (place + zeros + (kept.length - 1 : Nat)))

end Double

end SealedBuild
