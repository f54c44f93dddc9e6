import SealedBuild.Json

/-!
# Schemas of JSON texts

What a JSON text may hold in a place. A record is an object with named fields among others,
or the list of its fields' values in order.
-/

namespace SealedBuild.Json

/-- A field of a record. One that is not required may be missing. -/
structure FieldSpec (σ : Type) where
  name : String
  required : Bool
  schema : σ

/-- What may stand in a place. -/
inductive Schema where
  /-- A value that is not looked at. -/
  | ignored
  | anything
  | truth
  | text
  /-- A whole number from `low` up to but not including `high`. -/
  | whole (name : String) (low high : Int)
  /-- Null only. -/
  | nothing
  /-- Null or a value. -/
  | optional (inner : Schema)
  | list (item : Schema)
  /-- An object with any names. -/
  | map (item : Schema)
  /-- One of some names, as a text or as the name of an object's only field, which is null. -/
  | choice (names : List String)
  | record (kind : String) (fields : List (FieldSpec Schema))
  deriving Inhabited

namespace Schema

/-- A whole number of sixty-four bits. -/
def long : Schema :=
  whole "i64" (-9223372036854775808) 9223372036854775808

/-- A whole number of thirty-two bits. -/
def word : Schema :=
  whole "i32" (-2147483648) 2147483648

/-- What is called when a value of a record's kind is expected. -/
def structName (kind : String) : String :=
  "struct " ++ kind

/-- What is called when a list of a record's values is expected. -/
def structLength (kind : String) (fields : Nat) : String :=
  structName kind ++ " with " ++ toString fields ++
    (if fields = 1 then " element" else " elements")

end Schema

namespace FieldSpec

/-- A field that may be missing or null. -/
def maybe (name : String) (schema : Schema) : FieldSpec Schema :=
  ⟨name, false, .optional schema⟩

/-- A field that has to be there. -/
def needed (name : String) (schema : Schema) : FieldSpec Schema :=
  ⟨name, true, schema⟩

end FieldSpec

end SealedBuild.Json
