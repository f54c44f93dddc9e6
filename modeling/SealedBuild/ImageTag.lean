import SealedBuild.Failure
import SealedBuild.Text.Split

/-!
# Image tags

The references under which images are kept: a name, with a tag behind a colon if there is
one. The name is a path of components between slashes; its first component is a registry
host when the name has several and that one holds a point or a colon or is `localhost`.
Digests are not accepted.
-/

namespace SealedBuild

/-- Why a text is no usable image tag. -/
inductive TagFault where
  | missingName
  /-- The tag is empty, too long, or starts with a character that cannot start one. -/
  | malformedTag
  | tagCharacter
  | malformedRegistry
  | malformedComponent (component : String)
  deriving DecidableEq, Inhabited

/-- The reason that a tag fault gives. -/
def TagFault.reason : TagFault → String
  | missingName => "missing repository name"
  | malformedTag => "tag must be 1-128 characters starting with a letter, digit or '_'"
  | tagCharacter => "tag may only contain letters, digits, '_', '.' and '-'"
  | malformedRegistry => "malformed registry host"
  | malformedComponent component => "repository component '" ++ component ++ "' is malformed"

namespace ImageTag

/-- The longest tag, in bytes. -/
def longestTag : Nat := 128

/-- The characters that may start a tag. -/
def startsTag (c : Char) : Bool :=
  c.isAlphanum || c == '_'

/-- The characters that may continue a tag. -/
def inTag (c : Char) : Bool :=
  c.isAlphanum || c == '_' || c == '.' || c == '-'

/-- The characters of a registry host with its port. -/
def inRegistry (c : Char) : Bool :=
  c.isAlphanum || c == '.' || c == '-' || c == ':'

/-- The characters at either end of a name component. -/
def endsComponent (c : Char) : Bool :=
  c.isLower || c.isDigit

/-- The characters of a name component. -/
def inComponent (c : Char) : Bool :=
  endsComponent c || c == '.' || c == '_' || c == '-'

/-- The name of a reference and the tag behind the last colon of its last component. -/
def split (reference : List Char) : List Char × Option (List Char) :=
  match Text.cutLast ':' reference with
  | some (name, tag) => if tag.contains '/' then (reference, none) else (name, some tag)
  | none => (reference, none)

/-- Whether the first of several components is a registry host. -/
def isRegistry (component : List Char) : Bool :=
  component.contains '.' || component.contains ':' || component == "localhost".toList

/-- The registry of a name, if it has one, and its other components. -/
def components (name : List Char) : Option (List Char) × List (List Char) :=
  match Text.splitAt '/' name with
  | first :: second :: rest =>
    if isRegistry first then (some first, second :: rest) else (none, first :: second :: rest)
  | parts => (none, parts)

/-- Whether a component has the form of a repository name. -/
def wellFormed (component : List Char) : Bool :=
  component.head?.any endsComponent && component.getLast?.any endsComponent &&
    component.all inComponent

/-- Checks the part behind the colon. -/
def checkTag (tag : List Char) : Except TagFault Unit :=
  if !tag.head?.any startsTag || longestTag < (String.ofList tag).utf8ByteSize then
    .error .malformedTag
  else if !(tag.drop 1).all inTag then .error .tagCharacter
  else .ok ()

/-- Checks the part before the colon. -/
def checkName (name : List Char) : Except TagFault Unit :=
  let (registry, path) := components name
  if registry.any fun host => !host.all inRegistry then .error .malformedRegistry
  else
    match path.find? fun component => !wellFormed component with
    | some component => .error (.malformedComponent (String.ofList component))
    | none => .ok ()

/-- Checks that a text is a usable image tag. -/
def check (reference : String) : Except TagFault Unit := do
  let (name, tag) := split reference.toList
  if name.isEmpty then throw .missingName
  tag.forM checkTag
  checkName name

/-- The wording of a fault in a given reference. -/
def faultText (reference : String) (fault : TagFault) : String :=
  "image tag '" ++ reference ++ "' is invalid: " ++ fault.reason

/-- Checks that a text is a usable image tag, as an input of a run. -/
def validate (reference : String) : Except Failure Unit :=
  (check reference).mapError fun fault => .invalidInput (faultText reference fault)

end ImageTag

end SealedBuild
