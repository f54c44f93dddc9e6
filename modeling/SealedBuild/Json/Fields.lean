import SealedBuild.Json.Decoder

/-!
# Reading fields by name

Readers of an object's fields that say which field they failed at. A field that is null
counts as missing. A value that is no object has no fields.
-/

namespace SealedBuild.Json

/-- A value that was read, or the name of the field that could not be. -/
abbrev Reading (α : Type) := Except String α

variable {α : Type}

/-- A field that has to be there. -/
def need (json : Json) (name : String) (decode : Decoder α) : Reading α :=
  match (json.present? name).bind decode with
  | some value => .ok value
  | none => .error name

/-- A field that may be missing. -/
def maybe (json : Json) (name : String) (decode : Decoder α) : Reading (Option α) :=
  match json.present? name with
  | none => .ok none
  | some value =>
    match decode value with
    | some value => .ok (some value)
    | none => .error name

/-- A field with a value for when it is missing. -/
def fieldOr (json : Json) (name : String) (fallback : α) (decode : Decoder α) : Reading α :=
  (json.maybe name decode).map fun value => value.getD fallback

namespace Decoder

/-- Any value. -/
def whole : Decoder Json :=
  some

/-- An object. -/
def record : Decoder Json
  | .object fields => some (.object fields)
  | _ => none

/-- A natural number of sixty-four bits. -/
def count : Decoder Nat :=
  natural (Nat.pow 2 64)

/-- An integer of thirty-two bits. -/
def word : Decoder Int :=
  integer (-2147483648) 2147483648

end Decoder

/-- A field that holds an object; a missing one counts as an object without fields. -/
def recordOr (json : Json) (name : String) : Reading Json :=
  json.fieldOr name (.object []) Decoder.record

/-- A field that holds a list of texts. -/
def needTexts (json : Json) (name : String) : Reading (List String) :=
  json.need name (Decoder.listOf Decoder.text)

/-- A field that holds a list of texts; a missing one counts as the empty list. -/
def textsOr (json : Json) (name : String) (fallback : List String) : Reading (List String) :=
  json.fieldOr name fallback (Decoder.listOf Decoder.text)

/-- A field that holds a map; a missing one counts as the empty map. -/
def mapOr (json : Json) (name : String) : Reading VarMap :=
  json.fieldOr name .empty Decoder.varMap

end SealedBuild.Json
