import SealedBuild.RunId
import SealedBuild.Text.Split
import SealedBuild.Text.Utf8

/-!
# Request targets

Where a request goes, read off one text as an address is: the segments of a path, and the
query behind it. Segments of dots are walked and never sent, a character that a path cannot
hold is sent as the bytes of its UTF-8, and nothing behind a number sign is sent at all.
-/

namespace SealedBuild

/-- The resource that a request names, and the query that it puts to it. -/
structure RequestTarget where
  segments : List String
  query : List (String × String)
  deriving DecidableEq, Inhabited

namespace RequestTarget

/-- The characters that an address passes over wherever they stand. -/
def isPassedOver (c : Char) : Bool :=
  c == '\t' || c == '\n' || c == '\r'

/-- Whether a character stands for itself in a path: those that do not are blanks, controls,
brackets, quotes and all beyond ASCII. -/
def isPlain (c : Char) : Bool :=
  32 < c.toNat && c.toNat < 127 && !"\"#<>?\x60\x7b\x7d".toList.contains c

/-- A byte as a percent sign and two digits. -/
def percentByte (b : UInt8) : List Char :=
  ['%', (Nat.digitChar (b.toNat / 16)).toUpper, (Nat.digitChar (b.toNat % 16)).toUpper]

/-- A character as it is sent in a path. -/
def sent (c : Char) : List Char :=
  if isPlain c then [c] else (Utf8.encode (String.singleton c)).flatMap percentByte

/-- Whether a segment stands for the place it is in. -/
def isHere (segment : String) : Bool :=
  [".", "%2e"].contains segment.toLower

/-- Whether a segment stands for the place above. -/
def isAbove (segment : String) : Bool :=
  ["..", ".%2e", "%2e.", "%2e%2e"].contains segment.toLower

/-- The segments that a path leads along, those so far in reverse. There is nothing above the
first place; a path that ends in dots ends in an empty segment. -/
def walk (walked : List String) : List String → List String
  | [] => walked.reverse
  | segment :: rest =>
    let place :=
      if isAbove segment then walked.tail
      else if isHere segment then walked
      else segment :: walked
    if rest.isEmpty && (isAbove segment || isHere segment) then ("" :: place).reverse
    else walk place rest

/-- The bytes that a text in a query stands for: a plus sign is a blank, and a percent sign
with two digits is the byte they spell. -/
def meantBytes : List UInt8 → List UInt8
  | [] => []
  | 37 :: high :: low :: rest =>
    match RunId.digitValue? (Char.ofNat high.toNat), RunId.digitValue? (Char.ofNat low.toNat) with
    | some h, some l => (h * 16 + l).toUInt8 :: meantBytes rest
    | _, _ => 37 :: meantBytes (high :: low :: rest)
  | b :: rest => (if b = 43 then 32 else b) :: meantBytes rest

/-- What a text in a query stands for. -/
def meant (written : List Char) : String :=
  Utf8.decodeLossy (meantBytes (Utf8.encode (String.ofList written)))

/-- The names and values of a query. -/
def readQuery (written : List Char) : List (String × String) :=
  (Text.splitAt '&' written).map fun part =>
    let (name, value) := (Text.cutFirst '=' part).getD (part, [])
    (meant name, meant value)

/-- The target that an address without its host names. -/
def ofText (text : String) : RequestTarget :=
  let kept := (text.toList.filter fun c => !isPassedOver c).takeWhile (· != '#')
  let (path, query) :=
    match Text.cutFirst '?' kept with
    | some (path, query) => (path, readQuery query)
    | none => (kept, [])
  { segments :=
      walk [] ((Text.splitAt '/' (path.drop 1)).map fun segment =>
        String.ofList (segment.flatMap sent))
    query }

/-- The target without a first segment that only says how to read the others. -/
def below (first : String) (target : RequestTarget) : RequestTarget :=
  match target.segments with
  | segment :: rest => if segment = first then { target with segments := rest } else target
  | [] => target

/-- The path of a target. -/
def path (target : RequestTarget) : String :=
  "/" ++ String.intercalate "/" target.segments

end RequestTarget

end SealedBuild
