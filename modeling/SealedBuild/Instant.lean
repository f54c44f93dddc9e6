import SealedBuild.Text.Blank

/-!
# Points in time

Instants of Coordinated Universal Time with a resolution of nanoseconds, and their text
form of RFC 3339. Writing uses as many fraction digits as are needed, in groups of three.
Two readers differ in what they let pass: `parse?` takes the standard's form alone,
`parseLenient?` also takes blanks between the parts and numbers of fewer digits.
-/

namespace SealedBuild

/-- A point in time: seconds since the start of 1970, and nanoseconds. A count of a thousand
million nanoseconds or more lies within a leap second. -/
structure Instant where
  seconds : Int
  nanos : Nat
  deriving DecidableEq, Inhabited

namespace Instant

/-- The number of days from the start of 1970 to a date of the Gregorian calendar. -/
def daysOfDate (year : Int) (month day : Nat) : Int :=
  let y := if month ≤ 2 then year - 1 else year
  let era := Int.fdiv y 400
  let yearOfEra := y - era * 400
  let shifted : Nat := if month > 2 then month - 3 else month + 9
  let dayOfYear : Int := ((153 * shifted + 2) / 5 + day - 1 : Nat)
  era * 146097 + (yearOfEra * 365 + Int.fdiv yearOfEra 4 - Int.fdiv yearOfEra 100 + dayOfYear) -
    719468

/-- The date, as year, month and day, a number of days after the start of 1970. -/
def dateOfDays (days : Int) : Int × Nat × Nat :=
  let z := days + 719468
  let era := Int.fdiv z 146097
  let doe := (z - era * 146097).toNat
  let yearOfEra := (doe - doe / 1460 + doe / 36524 - doe / 146096) / 365
  let dayOfYear := doe - (365 * yearOfEra + yearOfEra / 4 - yearOfEra / 100)
  let shifted := (5 * dayOfYear + 2) / 153
  let day := dayOfYear - (153 * shifted + 2) / 5 + 1
  let month := if shifted < 10 then shifted + 3 else shifted - 9
  let year : Int := (yearOfEra : Int) + era * 400
  (if month ≤ 2 then year + 1 else year, month, day)

/-- Whether a year has a twenty-ninth of February. -/
def isLeapYear (year : Int) : Bool :=
  year % 4 == 0 && (year % 100 != 0 || year % 400 == 0)

/-- The number of days of a month. -/
def daysInMonth (year : Int) (month : Nat) : Nat :=
  if month = 2 then (if isLeapYear year then 29 else 28)
  else if month = 4 ∨ month = 6 ∨ month = 9 ∨ month = 11 then 30
  else 31

/-- A number with zeros in front up to a width. -/
def zeroPadded (width n : Nat) : String :=
  let digits := Nat.toDigits 10 n
  String.ofList (List.replicate (width - digits.length) '0' ++ digits)

/-- The year: four digits, with a sign when that is not enough. -/
def yearText (year : Int) : String :=
  if 0 ≤ year ∧ year ≤ 9999 then zeroPadded 4 year.toNat
  else (if year < 0 then "-" else "+") ++ zeroPadded 4 year.natAbs

/-- The fraction of a second: nothing, or as few of three, six and nine digits as are
exact. -/
def fractionText (nanos : Nat) : String :=
  if nanos = 0 then ""
  else if nanos % 1000000 = 0 then "." ++ zeroPadded 3 (nanos / 1000000)
  else if nanos % 1000 = 0 then "." ++ zeroPadded 6 (nanos / 1000)
  else "." ++ zeroPadded 9 nanos

/-- The date of an instant: year, month and day with hyphens. -/
def dateText (t : Instant) : String :=
  let (year, month, day) := dateOfDays (Int.fdiv t.seconds 86400)
  yearText year ++ "-" ++ zeroPadded 2 month ++ "-" ++ zeroPadded 2 day

/-- The RFC 3339 text of an instant, in universal time. -/
def toText (t : Instant) : String :=
  let time := (t.seconds - Int.fdiv t.seconds 86400 * 86400).toNat
  let leap := if t.nanos ≥ 1000000000 then 1 else 0
  t.dateText ++ "T" ++ zeroPadded 2 (time / 3600) ++ ":" ++ zeroPadded 2 (time / 60 % 60) ++
    ":" ++ zeroPadded 2 (time % 60 + leap) ++ fractionText (t.nanos % 1000000000) ++ "Z"

/-- A reader of one part of a text: its value and the text behind it. -/
abbrev Reader (α : Type) := List Char → Option (α × List Char)

/-- A number of at least `least` and at most `most` digits. -/
def number (least most : Nat) : Reader Nat := fun cs =>
  let digits := (cs.take most).takeWhile Char.isDigit
  if digits.length < least then none
  else some (digits.foldl (fun n c => n * 10 + (c.toNat - '0'.toNat)) 0, cs.drop digits.length)

/-- One given character. -/
def literal (c : Char) : Reader Unit
  | d :: rest => if c = d then some ((), rest) else none
  | [] => none

/-- A fraction of a second behind a point, if there is one; digits past the ninth are
dropped. -/
def fraction : Reader Nat
  | '.' :: rest => do
    let (value, behind) ← number 1 9 rest
    let read := rest.length - behind.length
    pure (value * Nat.pow 10 (9 - read), behind.dropWhile Char.isDigit)
  | cs => some (0, cs)

/-- The mark between date and time: a letter T or one blank. -/
def dateTimeMark : Reader Unit
  | c :: rest => if c = 't' ∨ c = 'T' ∨ c = ' ' then some ((), rest) else none
  | [] => none

/-- The distance from universal time in seconds: the letter Z, or a sign, hours and minutes;
`between` reads what separates the hours from the minutes. -/
def offset (between : Reader Unit) : Reader Int
  | [] => none
  | c :: rest =>
    if c = 'Z' ∨ c = 'z' then some (0, rest)
    else do
      let sign : Int ← if c = '+' then some 1
        else if c = '-' ∨ c.toNat = 0x2212 then some (-1)
        else none
      let (hours, cs) ← number 2 2 rest
      let ((), cs) ← between cs
      let (minutes, cs) ← number 2 2 cs
      if minutes < 60 then pure (sign * (hours * 3600 + minutes * 60 : Nat), cs) else none

/-- The fields of a written time, before they are checked against the calendar. -/
structure Fields where
  year : Int
  month : Nat
  day : Nat
  hour : Nat
  minute : Nat
  second : Nat
  nanos : Nat
  offset : Int

/-- The first year of the calendar. -/
def firstYear : Int := -262143

/-- The last year of the calendar. -/
def lastYear : Int := 262142

/-- Whether a number of seconds after the start of 1970 is within the years of the
calendar. -/
def isWithinCalendar (seconds : Int) : Bool :=
  daysOfDate firstYear 1 1 * 86400 ≤ seconds &&
    seconds < (daysOfDate lastYear 12 31 + 1) * 86400

/-- The instant that the fields name, if they are within the calendar and the clock, and the
instant is too. The second numbered sixty is a leap second. -/
def ofFields? (f : Fields) : Option Instant :=
  if f.month = 0 ∨ 12 < f.month ∨ f.day = 0 ∨ daysInMonth f.year f.month < f.day ∨
      23 < f.hour ∨ 59 < f.minute ∨ 60 < f.second ∨ 86400 ≤ f.offset.natAbs ∨
      f.year < firstYear ∨ lastYear < f.year then none
  else
    let second := if f.second = 60 then 59 else f.second
    let nanos := if f.second = 60 then f.nanos + 1000000000 else f.nanos
    let time : Int := (f.hour * 3600 + f.minute * 60 + second : Nat)
    let seconds := daysOfDate f.year f.month f.day * 86400 + time - f.offset
    if isWithinCalendar seconds then some ⟨seconds, nanos⟩ else none

/-- Reads the form of RFC 3339. -/
def parse? (text : String) : Option Instant := do
  let (year, cs) ← number 4 4 text.toList
  let ((), cs) ← literal '-' cs
  let (month, cs) ← number 2 2 cs
  let ((), cs) ← literal '-' cs
  let (day, cs) ← number 2 2 cs
  let ((), cs) ← dateTimeMark cs
  let (hour, cs) ← number 2 2 cs
  let ((), cs) ← literal ':' cs
  let (minute, cs) ← number 2 2 cs
  let ((), cs) ← literal ':' cs
  let (second, cs) ← number 2 2 cs
  let (nanos, cs) ← fraction cs
  let (distance, cs) ← offset (literal ':') cs
  if cs.isEmpty then ofFields? ⟨year, month, day, hour, minute, second, nanos, distance⟩
  else none

/-- A year, of any number of digits behind a sign and of at most four without one. -/
def signedYear : Reader Int
  | '-' :: rest => (number 1 rest.length rest).map fun (n, cs) => (-(n : Int), cs)
  | '+' :: rest => (number 1 rest.length rest).map fun (n, cs) => ((n : Int), cs)
  | cs => (number 1 4 cs).map fun (n, cs) => ((n : Int), cs)

/-- Reads the form of RFC 3339, also with blanks between the parts, with fewer digits, and
with the letters UTC for the offset. -/
def parseLenient? (text : String) : Option Instant := do
  let (year, cs) ← signedYear (Text.trimStart text.toList)
  let ((), cs) ← literal '-' (Text.trimStart cs)
  let (month, cs) ← number 1 2 (Text.trimStart cs)
  let ((), cs) ← literal '-' (Text.trimStart cs)
  let (day, cs) ← number 1 2 (Text.trimStart cs)
  let ((), cs) ← dateTimeMark cs
  let (hour, cs) ← number 1 2 (Text.trimStart cs)
  let ((), cs) ← literal ':' (Text.trimStart cs)
  let (minute, cs) ← number 1 2 (Text.trimStart cs)
  let ((), cs) ← literal ':' (Text.trimStart cs)
  let (second, cs) ← number 1 2 (Text.trimStart cs)
  let (nanos, cs) ← fraction cs
  let cs := Text.trimStart cs
  let colonOrBlank : Reader Unit := fun cs =>
    some ((), cs.dropWhile fun c => c = ':' || Text.isBlank c)
  let (distance, cs) ←
    if (cs.take 3).map Char.toUpper = ['U', 'T', 'C'] then some (0, cs.drop 3)
    else offset colonOrBlank cs
  if (Text.trimStart cs).isEmpty then
    ofFields? ⟨year, month, day, hour, minute, second, nanos, distance⟩
  else none

end Instant

end SealedBuild
