import SealedBuild.Json.Schema
import SealedBuild.Json.Token

/-!
# Reading JSON by schemas

A text is read from its start for a schema, so that of several faults the first one is told. A
value that has the wrong type is told behind it, or before its opening bracket. What is wrong
with a record as a whole is told behind its closing bracket. Values of fields that a record
does not name are passed over: what is inside their texts and how deep they nest does not
matter.
-/

namespace SealedBuild.Json

open Token

/-! ## Brackets -/

/-- How a list or an object goes on. -/
inductive Onward where
  /-- It is closed; `rest` follows. -/
  | closed (rest : List UInt8)
  /-- An item follows. Of a field, the opening quote of its name was read. -/
  | item (start : List UInt8)

/-- How a list goes on, before its first item or behind another one. -/
def nextItem (first : Bool) (bytes : List UInt8) : Except Fault Onward :=
  match skipBlank bytes with
  | [] => .error ⟨.endedInList, []⟩
  | Byte.closeList :: rest => .ok (.closed rest)
  | b :: rest =>
    if first then .ok (.item (b :: rest))
    else if b = Byte.comma then
      match skipBlank rest with
      | [] => .error ⟨.endedInValue, []⟩
      | Byte.closeList :: behind => .error ⟨.trailingComma, behind⟩
      | start => .ok (.item start)
    else .error ⟨.expectedListEnd, rest⟩

/-- What follows the closing bracket of a list of which no more items are read. -/
def listEnd (bytes : List UInt8) : Except Fault (List UInt8) :=
  match skipBlank bytes with
  | [] => .error ⟨.endedInList, []⟩
  | Byte.closeList :: rest => .ok rest
  | Byte.comma :: rest =>
    match skipBlank rest with
    | Byte.closeList :: behind => .error ⟨.trailingComma, behind⟩
    | start => .error (faultAt .trailingCharacters start)
  | _ :: behind => .error ⟨.trailingCharacters, behind⟩

/-- How an object goes on, before its first field or behind another one. -/
def nextField (first : Bool) (bytes : List UInt8) : Except Fault Onward :=
  match skipBlank bytes with
  | [] => .error ⟨.endedInObject, []⟩
  | Byte.closeObject :: rest => .ok (.closed rest)
  | b :: rest =>
    if first then
      if b = Byte.quote then .ok (.item rest) else .error ⟨.keyNotText, rest⟩
    else if b = Byte.comma then
      match skipBlank rest with
      | [] => .error ⟨.endedInValue, []⟩
      | Byte.quote :: start => .ok (.item start)
      | Byte.closeObject :: behind => .error ⟨.trailingComma, behind⟩
      | _ :: behind => .error ⟨.keyNotText, behind⟩
    else .error ⟨.expectedObjectEnd, rest⟩

/-- What follows the colon behind the name of a field. -/
def colonEnd (bytes : List UInt8) : Except Fault (List UInt8) :=
  match skipBlank bytes with
  | Byte.colon :: rest => .ok rest
  | start => .error (faultOrEnd .endedInObject .expectedColon start)

/-- The bytes behind blanks and, if it comes next, a closing brace. -/
def skipClosing (bytes : List UInt8) : List UInt8 :=
  match skipBlank bytes with
  | Byte.closeObject :: rest => rest
  | start => start

/-! ## Values that are passed over -/

/-- A kind of brackets. -/
inductive Bracket where
  | list
  | object
  deriving DecidableEq

namespace Bracket

def closing : Bracket → UInt8
  | list => Byte.closeList
  | object => Byte.closeObject

/-- Why bytes that end inside of brackets are at fault. -/
def ended : Bracket → Reason
  | list => .endedInList
  | object => .endedInObject

/-- Why something that neither closes brackets nor separates their items is at fault. -/
def expectedEnd : Bracket → Reason
  | list => .expectedListEnd
  | object => .expectedObjectEnd

end Bracket

/-- What follows the name of a field that is passed over, and its colon. -/
def skipName (bytes : List UInt8) : Except Fault (List UInt8) :=
  match skipBlank bytes with
  | Byte.quote :: rest => (skipText rest).bind colonEnd
  | start => .error (faultOrEnd .endedInObject .keyNotText start)

/-- What follows a word, a number or a text that is passed over, or nothing when a bracket or
none of these comes next. -/
def skipScalar? : List UInt8 → Option (Except Fault (List UInt8))
  | Byte.letterN :: rest => some (wordEnd (Utf8.encode "ull") rest)
  | Byte.letterT :: rest => some (wordEnd (Utf8.encode "rue") rest)
  | Byte.letterF :: rest => some (wordEnd (Utf8.encode "alse") rest)
  | Byte.quote :: rest => some (skipText rest)
  | Byte.minus :: rest => some (skipNumber rest)
  | b :: rest => if Byte.isDigit b then some (skipNumber (b :: rest)) else none
  | [] => none

mutual

/-- What follows a value and then the brackets that are open, the innermost first. `fuel`
bounds the number of values and brackets, which the length of the text does. -/
def skipValue (fuel : Nat) (brackets : List Bracket) (bytes : List UInt8) :
    Except Fault (List UInt8) :=
  match fuel with
  | 0 => .error ⟨.endedInValue, []⟩
  | fuel + 1 =>
    match skipBlank bytes with
    | [] => .error ⟨.endedInValue, []⟩
    | Byte.openList :: rest => skipBehind fuel false (.list :: brackets) rest
    | Byte.openObject :: rest => skipBehind fuel false (.object :: brackets) rest
    | b :: rest =>
      match skipScalar? (b :: rest) with
      | none => .error ⟨.expectedValue, rest⟩
      | some (.error fault) => .error fault
      | some (.ok behind) => skipBehind fuel true brackets behind

/-- What follows the brackets that are open, behind one of their items or, not `separated`,
before the first one. -/
def skipBehind (fuel : Nat) (separated : Bool) (brackets : List Bracket) (bytes : List UInt8) :
    Except Fault (List UInt8) :=
  match fuel, brackets with
  | 0, _ => .error ⟨.endedInValue, []⟩
  | _, [] => .ok bytes
  | fuel + 1, bracket :: outer =>
    match skipBlank bytes with
    | [] => .error ⟨bracket.ended, []⟩
    | b :: rest =>
      if b = bracket.closing then skipBehind fuel true outer rest
      else if separated && b != Byte.comma then .error ⟨bracket.expectedEnd, rest⟩
      else
        let start := if separated then rest else b :: rest
        match bracket with
        | .list => skipValue fuel brackets start
        | .object =>
          match skipName start with
          | .error fault => .error fault
          | .ok behind => skipValue fuel brackets behind

end

/-! ## Values that are read -/

/-- What a value is called in a fault. -/
def called : Json → String
  | null => "null"
  | bool value => "boolean " ++ backQuoted (if value then "true" else "false")
  | integer value => "integer " ++ backQuoted (toString value)
  | decimal written => "floating point " ++ backQuoted written
  | text value => "string " ++ Text.escaped value
  | list _ => "sequence"
  | object _ => "map"

/-- Reads a word, a number or a text. -/
def scalar : List UInt8 → Step Json
  | Byte.letterN :: rest => word .null "ull" rest
  | Byte.letterT :: rest => word (.bool true) "rue" rest
  | Byte.letterF :: rest => word (.bool false) "alse" rest
  | Byte.quote :: rest => (Token.text rest).map fun (value, behind) => (.text value, behind)
  | Byte.minus :: rest => number true rest
  | b :: rest =>
    if Byte.isDigit b then number false (b :: rest) else .error ⟨.expectedValue, rest⟩
  | [] => .error ⟨.endedInValue, []⟩

/-- The fault of a value of the wrong type. -/
def mistyped (expected : String) (start : List UInt8) : Fault :=
  match start with
  | Byte.openList :: _ => ⟨.mistyped "sequence" expected, start⟩
  | Byte.openObject :: _ => ⟨.mistyped "map" expected, start⟩
  | _ =>
    match scalar start with
    | .error fault => fault
    | .ok (value, rest) => ⟨.mistyped value.called expected, rest⟩

/-- Reads a word, a number or a text that `accept` takes; `expected` is what it takes. -/
def scalarOf (expected : String) (accept : Json → Bool) (start : List UInt8) : Step Json :=
  match start with
  | Byte.openList :: _ | Byte.openObject :: _ => .error (mistyped expected start)
  | _ =>
    match scalar start with
    | .error fault => .error fault
    | .ok (value, rest) =>
      if accept value then .ok (value, rest) else .error ⟨.mistyped value.called expected, rest⟩

/-- Reads a whole number within bounds. -/
def wholeWithin (name : String) (low high : Int) (start : List UInt8) : Step Json :=
  match scalarOf name (fun | .integer _ => true | _ => false) start with
  | .ok (.integer value, rest) =>
    if low ≤ value ∧ value < high then .ok (.integer value, rest)
    else .error ⟨.outOfRange (called (.integer value)) name, rest⟩
  | step => step

/-- Reads null. -/
def nothing : List UInt8 → Step Json :=
  scalarOf "unit" fun | .null => true | _ => false

/-- Reads a text that is one of some names, from its opening quote. -/
def nameOf (names : List String) (start : List UInt8) : Step Json :=
  match start with
  | Byte.quote :: rest =>
    match Token.text rest with
    | .error fault => .error fault
    | .ok (name, behind) =>
      if names.contains name then .ok (.text name, behind)
      else .error ⟨.unknownName name names, behind⟩
  | [] => .error ⟨.endedInValue, []⟩
  | _ => .error (mistyped "variant identifier" start)

/-- What follows null and a closing brace, from behind the name of a choice. -/
def choiceEnd (bytes : List UInt8) : Except Fault (List UInt8) := do
  let start ← colonEnd bytes
  match skipBlank start with
  | [] => .error ⟨.endedInValue, []⟩
  | start =>
    let (_, rest) ← nothing start
    match skipBlank rest with
    | [] => .error ⟨.endedInObject, []⟩
    | Byte.closeObject :: behind => pure behind
    | other => .error ⟨.expectedValue, other⟩

/-- Reads a choice. -/
def choiceOf (names : List String) (start : List UInt8) : Except Fault (Json × List UInt8) :=
  match start with
  | Byte.quote :: _ => nameOf names start
  | Byte.openObject :: rest => do
    let (name, behind) ← nameOf names (skipBlank rest)
    pure (name, ← choiceEnd behind)
  | _ => .error (faultAt .expectedValue start)

/-- The first field that has to be there and is not. -/
def missingField? (fields : List (FieldSpec Schema)) (read : List (String × Json)) :
    Option (FieldSpec Schema) :=
  fields.find? fun field => field.required && !read.any fun (name, _) => name == field.name

mutual

/-- Reads a value of a schema; lists and objects nest at most `depth` deep. `fuel` bounds the
number of steps, which the length of the text does. -/
def valueOf (fuel depth : Nat) (schema : Schema) (bytes : List UInt8) : Step Json :=
  match fuel with
  | 0 => .error ⟨.endedInValue, []⟩
  | fuel + 1 =>
    match skipBlank bytes with
    | [] => .error ⟨.endedInValue, []⟩
    | start =>
      match schema with
      | .ignored => (skipValue (2 * start.length + 2) [] start).map fun rest => (.null, rest)
      | .anything =>
        match start with
        | Byte.openList :: rest => itemsWithin fuel depth .anything rest
        | Byte.openObject :: rest => entriesWithin fuel depth .anything rest
        | _ => scalar start
      | .truth => scalarOf "a boolean" (fun | .bool _ => true | _ => false) start
      | .text => scalarOf "a string" (fun | .text _ => true | _ => false) start
      | .whole name low high => wholeWithin name low high start
      | .nothing => nothing start
      | .optional inner =>
        match start with
        | Byte.letterN :: rest => word .null "ull" rest
        | _ => valueOf fuel depth inner start
      | .list item =>
        match start with
        | Byte.openList :: rest => itemsWithin fuel depth item rest
        | _ => .error (mistyped "a sequence" start)
      | .map item =>
        match start with
        | Byte.openObject :: rest => entriesWithin fuel depth item rest
        | _ => .error (mistyped "a map" start)
      | .choice names => choiceOf names start
      | .record kind fields =>
        match start, depth with
        | Byte.openList :: rest, depth + 1 =>
          partsFrom fuel depth (Schema.structLength kind fields.length) fields [] rest
        | Byte.openObject :: rest, depth + 1 => fieldsFrom fuel depth fields true [] rest
        | Byte.openList :: rest, 0 | Byte.openObject :: rest, 0 => .error ⟨.tooDeep, rest⟩
        | _, _ => .error (mistyped (Schema.structName kind) start)

/-- Reads a list from behind its opening bracket. -/
def itemsWithin (fuel depth : Nat) (item : Schema) (bytes : List UInt8) : Step Json :=
  match fuel, depth with
  | 0, _ => .error ⟨.endedInList, []⟩
  | _, 0 => .error ⟨.tooDeep, bytes⟩
  | fuel + 1, depth + 1 => itemsFrom fuel depth item true [] bytes

/-- Reads the items of a list up to its closing bracket; `read` holds the items before, last
one first. -/
def itemsFrom (fuel depth : Nat) (item : Schema) (first : Bool) (read : List Json)
    (bytes : List UInt8) : Step Json :=
  match fuel with
  | 0 => .error ⟨.endedInList, []⟩
  | fuel + 1 =>
    match nextItem first bytes with
    | .error fault => .error fault
    | .ok (.closed rest) => .ok (.list read.reverse, rest)
    | .ok (.item start) =>
      match valueOf fuel depth item start with
      | .error fault => .error fault
      | .ok (value, rest) => itemsFrom fuel depth item false (value :: read) rest

/-- Reads an object with any names from behind its opening brace. -/
def entriesWithin (fuel depth : Nat) (item : Schema) (bytes : List UInt8) : Step Json :=
  match fuel, depth with
  | 0, _ => .error ⟨.endedInObject, []⟩
  | _, 0 => .error ⟨.tooDeep, bytes⟩
  | fuel + 1, depth + 1 => entriesFrom fuel depth item true [] bytes

/-- Reads the fields of an object with any names up to its closing brace; `read` holds the
fields before, last one first. -/
def entriesFrom (fuel depth : Nat) (item : Schema) (first : Bool)
    (read : List (String × Json)) (bytes : List UInt8) : Step Json :=
  match fuel with
  | 0 => .error ⟨.endedInObject, []⟩
  | fuel + 1 =>
    match nextField first bytes with
    | .error fault => .error fault
    | .ok (.closed rest) => .ok (.object read.reverse, rest)
    | .ok (.item start) =>
      match Token.text start with
      | .error fault => .error fault
      | .ok (name, behind) =>
        match colonEnd behind with
        | .error fault => .error fault
        | .ok start =>
          match valueOf fuel depth item start with
          | .error fault => .error fault
          | .ok (value, rest) =>
            entriesFrom fuel depth item false ((name, value) :: read) rest

/-- Reads the fields of a record up to its closing brace; `read` holds the fields before, last
one first. -/
def fieldsFrom (fuel depth : Nat) (fields : List (FieldSpec Schema)) (first : Bool)
    (read : List (String × Json)) (bytes : List UInt8) : Step Json :=
  match fuel with
  | 0 => .error ⟨.endedInObject, []⟩
  | fuel + 1 =>
    match nextField first bytes with
    | .error fault => .error fault
    | .ok (.closed rest) =>
      match missingField? fields read with
      | some field => .error ⟨.missing field.name, rest⟩
      | none => .ok (.object read.reverse, rest)
    | .ok (.item start) =>
      match Token.text start with
      | .error fault => .error fault
      | .ok (name, behind) =>
        if read.any (fun (other, _) => other == name) then
          .error ⟨.repeated name, skipClosing behind⟩
        else
          match colonEnd behind with
          | .error fault => .error fault
          | .ok start =>
            match fields.find? fun field => field.name == name with
            | none =>
              match valueOf fuel depth .ignored start with
              | .error fault => .error fault
              | .ok (_, rest) => fieldsFrom fuel depth fields false read rest
            | some field =>
              match valueOf fuel depth field.schema start with
              | .error fault => .error fault
              | .ok (value, rest) =>
                fieldsFrom fuel depth fields false ((name, value) :: read) rest

/-- Reads the values of a record's fields in order, up to the closing bracket of their list;
`read` holds the fields before, last one first. -/
def partsFrom (fuel depth : Nat) (expected : String) (fields : List (FieldSpec Schema))
    (read : List (String × Json)) (bytes : List UInt8) : Step Json :=
  match fuel, fields with
  | 0, _ => .error ⟨.endedInList, []⟩
  | _, [] => (listEnd bytes).map fun rest => (.object read.reverse, rest)
  | fuel + 1, field :: more =>
    match nextItem read.isEmpty bytes with
    | .error fault => .error fault
    | .ok (.closed rest) => .error ⟨.wrongLength read.length expected, rest⟩
    | .ok (.item start) =>
      match valueOf fuel depth field.schema start with
      | .error fault => .error fault
      | .ok (value, rest) =>
        partsFrom fuel depth expected more ((field.name, value) :: read) rest

end

/-- How deep lists and objects may nest. -/
def deepest : Nat := 127

/-- The value of a schema that some bytes hold. -/
def readAs (schema : Schema) (bytes : List UInt8) : Except ReadFault Json :=
  match valueOf (4 * bytes.length + 4) deepest schema bytes with
  | .error fault => .error (fault.placed bytes)
  | .ok (value, rest) =>
    match skipBlank rest with
    | [] => .ok value
    | _ :: behind => .error ((Fault.mk .trailingCharacters behind).placed bytes)

/-- The value of a text. -/
def parse (text : String) : Except ReadFault Json :=
  readAs .anything (Utf8.encode text)

end SealedBuild.Json
