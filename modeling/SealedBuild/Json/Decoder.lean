import SealedBuild.Collection.NameSet
import SealedBuild.Collection.VarMap
import SealedBuild.Json

/-!
# Decoding JSON

Readers of values out of JSON. A structure is an object with a field for each of its parts,
in any order and among others, or the list of its parts in order. A part that may be absent
may be null or left out of an object. A choice is the name of a case, or an object whose one
field has that name and holds what belongs to the case. The parts of a case are fields of an
object, never a list.
-/

namespace SealedBuild.Json

/-- What reads JSON values as values of a type. -/
abbrev Decoder (α : Type) := Json → Option α

namespace Decoder

variable {α : Type}

def truth : Decoder Bool
  | .bool value => some value
  | _ => none

def text : Decoder String
  | .text value => some value
  | _ => none

/-- An integer from `low` up to but not including `high`. -/
def integer (low high : Int) : Decoder Int
  | .integer value => if low ≤ value ∧ value < high then some value else none
  | _ => none

/-- A natural number below a bound. -/
def natural (bound : Nat) (json : Json) : Option Nat :=
  (integer 0 bound json).map Int.toNat

/-- A list of values. -/
def listOf (item : Decoder α) : Decoder (List α)
  | .list items => items.mapM item
  | _ => none

/-- A list of texts as a set. -/
def nameSet (json : Json) : Option NameSet :=
  (listOf text json).map NameSet.ofList

/-- An object of texts as a map. -/
def varMap : Decoder VarMap
  | .object fields =>
    (fields.mapM fun (field : String × Json) =>
      (text field.2).map fun value => (field.1, value)).map VarMap.ofList
  | _ => none

/-- The parts of a case, in the order of the given names. -/
def caseParts? (names : List String) : Json → Option (List (Option Json))
  | .object fields => some (names.map fun name => fields.reverse.lookup name)
  | _ => none

/-- The parts of a structure, in the order of the given names. -/
def parts? (names : List String) : Json → Option (List (Option Json))
  | .list items => if items.length = names.length then some (items.map some) else none
  | json => caseParts? names json

/-- A part that has to be there. -/
def required (part : Decoder α) (found : Option Json) : Option α :=
  found.bind part

/-- A part that may be left out or null. -/
def optional (part : Decoder α) : Option Json → Option (Option α)
  | none | some .null => some none
  | some json => (part json).map some

/-- The case that a choice names, and what belongs to it. -/
def case? : Json → Option (String × Option Json)
  | .text name => some (name, none)
  | .object fields =>
    match fields.getLast? with
    | some (name, value) =>
      if fields.all fun field => field.1 == name then some (name, some value) else none
    | none => none
  | _ => none

/-- Whether what belongs to a case is nothing. -/
def isNothing : Option Json → Bool
  | none | some .null => true
  | some _ => false

end Decoder

/-- A text, or null for none. -/
def textOrNull (value : Option String) : Json :=
  value.elim .null .text

/-- A list of texts. -/
def texts (values : List String) : Json :=
  .list (values.map .text)

/-- A map as an object of texts. -/
def ofVarMap (map : VarMap) : Json :=
  .object (map.entries.map fun (name, value) => (name, .text value))

end SealedBuild.Json
