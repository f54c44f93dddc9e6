import SealedBuild.Inspection
import SealedBuild.Text.Split

/-!
# Header listings

The text in which `readelf` lists the file header, program headers, dynamic section and
section headers of an executable. Each fact is on a line of its own form; all other lines
are passed over.
-/

namespace SealedBuild.HeaderListing

/-- Whether a text ends in another. -/
def endsIn (text ending : List Char) : Bool :=
  ending.isSuffixOf text

/-- The machine that a listing names, which stands on the first line of that form. -/
def machine? (listing : List Char) : Option Architecture :=
  ((Text.lines listing).findSome? fun line =>
      Text.after? "Machine:".toList (Text.trim line)).map fun rest =>
    let machine := Text.trim rest
    if endsIn machine "X86-64".toList then .x86_64
    else if machine = "AArch64".toList then .aarch64
    else .other (String.ofList machine)

/-- What stands between the first opening and the last closing bracket of a line. -/
def bracketed? (line : List Char) : Option (List Char) :=
  match Text.cutFirst '[' line with
  | none => none
  | some (before, behind) =>
    match Text.cutLast ']' line with
    | none => none
    | some (upTo, _) =>
      if before.length < upTo.length then some (behind.take (upTo.length - before.length - 1))
      else none

/-- The shared objects that the dynamic section requests, in order. -/
def needed (listing : List Char) : List String :=
  ((Text.lines listing).filter (Text.contains "(NEEDED)".toList)).filterMap fun line =>
    (bracketed? line).map String.ofList

/-- The text without the closing brackets that it ends in. -/
def dropClosing (text : List Char) : List Char :=
  (text.reverse.dropWhile (· == ']')).reverse

/-- The program interpreter that the program headers request. -/
def interpreter? (listing : List Char) : Option String :=
  (Text.lines listing).findSome? fun line =>
    (Text.after? "[Requesting program interpreter:".toList (Text.trim line)).map fun rest =>
      String.ofList (Text.trim (dropClosing rest))

/-- Whether a text is a decimal number of at most thirty-two bits; a plus sign may stand
before it. -/
def isIndex (text : List Char) : Bool :=
  let digits := match text with
    | '+' :: rest => rest
    | _ => text
  !digits.isEmpty && digits.all Char.isDigit &&
    digits.foldl (fun n c => n * 10 + (c.toNat - '0'.toNat)) 0 < 4294967296

/-- The section that a line of the section table names. -/
def section? (line : List Char) : Option String :=
  match Text.trimStart line with
  | '[' :: rest =>
    match Text.cutFirst ']' rest with
    | none => none
    | some (index, rest) =>
      if isIndex (Text.trim index) then
        match Text.firstWord? rest with
        | some ('.' :: name) => some (String.ofList ('.' :: name))
        | _ => none
      else none
  | _ => none

/-- The names of the sections, in order. -/
def sections (listing : List Char) : List String :=
  (Text.lines listing).filterMap section?

/-- What a listing says of an executable. A listing without a machine is refused. -/
def inspection (listing : String) : Except Failure Inspection :=
  let text := listing.toList
  match machine? text with
  | none => .error (.invariantViolation "ELF header has no machine")
  | some architecture =>
    let names := sections text
    .ok {
      architecture
      needed := needed text
      interpreter := interpreter? text
      hasSymtab := names.contains ".symtab"
      debugSections := names.filter fun name => name.startsWith ".debug" }

/-- How a program ended: its exit code, or none when a signal stopped it, and what it wrote. -/
structure ProgramOutput where
  exitCode : Option Nat
  stdout : List UInt8
  stderr : List UInt8
  deriving Inhabited

/-- The arguments that the listing program is called with. -/
def arguments (path : String) : List String :=
  ["-hldSW", path]

/-- What the end of the listing program on a path says of the executable there. -/
def ofOutput (program path : String) (outcome : Except FileFault ProgramOutput) :
    Except Failure Inspection :=
  match outcome with
  | .error fault =>
    .error (.internal
      ("failed to run " ++ program ++ " - is binutils installed? " ++ fault.message))
  | .ok output =>
    let complaint := Utf8.decodeLossy output.stderr
    if Text.contains "Not an ELF file".toList complaint.toList then
      .error (.invariantViolation (path ++ " is not an ELF executable"))
    else if output.exitCode != some 0 then
      .error (.internal (program ++ " failed on " ++ path ++ ": " ++ Text.trimmed complaint))
    else inspection (Utf8.decodeLossy output.stdout)

end SealedBuild.HeaderListing
