/-!
# JSON values

Values of RFC 8259 as the engine and the run summary use them. Integers are told apart from
other numbers, of which only the shortest spelling is kept. The fields of an object keep their
order.
-/

namespace SealedBuild

/-- A JSON value. -/
inductive Json where
  | null
  | bool (value : Bool)
  | integer (value : Int)
  /-- A number that is not kept as an integer, by its shortest spelling. -/
  | decimal (written : String)
  | text (value : String)
  | list (items : List Json)
  | object (fields : List (String × Json))
  deriving Inhabited

namespace Json

/-- The value of the last field of a name. -/
def field? (json : Json) (name : String) : Option Json :=
  match json with
  | object fields => fields.reverse.lookup name
  | _ => none

/-- The value of the last field of a name, unless that is null. -/
def present? (json : Json) (name : String) : Option Json :=
  match json.field? name with
  | some null => none
  | found => found

/-- The text of a value that is one. -/
def text? : Json → Option String
  | text value => some value
  | _ => none

/-- The text in a field, if there is one. -/
def textOf? (json : Json) (name : String) : Option String :=
  match json.field? name with
  | some (text value) => some value
  | _ => none

/-- The truth in a field, if there is one. -/
def truthOf? (json : Json) (name : String) : Option Bool :=
  match json.field? name with
  | some (bool value) => some value
  | _ => none

/-- The integer in a field, if there is one. -/
def integerOf? (json : Json) (name : String) : Option Int :=
  match json.field? name with
  | some (integer value) => some value
  | _ => none

/-- Fields in the order of their names with one more; a field of the same name gives way. -/
def insertField (name : String) (value : Json) : List (String × Json) → List (String × Json)
  | [] => [(name, value)]
  | (other, held) :: rest =>
    if other = name then (name, value) :: rest
    else if name < other then (name, value) :: (other, held) :: rest
    else (other, held) :: insertField name value rest

mutual

/-- The same value with the fields of every object in the order of their names; of fields of
one name the last one stays. -/
def ordered : Json → Json
  | list items => list (orderedItems items)
  | object fields => object (orderedFields [] fields)
  | plain => plain

/-- The items of a list, each in order. -/
def orderedItems : List Json → List Json
  | [] => []
  | item :: rest => ordered item :: orderedItems rest

/-- The fields of an object in order, put among those that are. -/
def orderedFields (found : List (String × Json)) : List (String × Json) → List (String × Json)
  | [] => found
  | (name, value) :: rest => orderedFields (insertField name (ordered value) found) rest

end

/-- Four hexadecimal digits. -/
def hexFour (n : Nat) : List Char :=
  [Nat.digitChar (n / 4096 % 16), Nat.digitChar (n / 256 % 16), Nat.digitChar (n / 16 % 16),
    Nat.digitChar (n % 16)]

/-- One character of a written text. -/
def writtenChar (c : Char) : List Char :=
  if c = '"' then ['\\', '"']
  else if c = '\\' then ['\\', '\\']
  else if c = '\n' then ['\\', 'n']
  else if c = '\r' then ['\\', 'r']
  else if c = '\t' then ['\\', 't']
  else if c.toNat = 8 then ['\\', 'b']
  else if c.toNat = 12 then ['\\', 'f']
  else if c.toNat < 32 then ['\\', 'u'] ++ hexFour c.toNat
  else [c]

/-- A text between double quotes. -/
def writtenText (value : String) : String :=
  String.ofList ('"' :: value.toList.flatMap writtenChar ++ ['"'])

mutual

/-- A value on one line, without blanks. -/
def compact : Json → String
  | null => "null"
  | bool value => if value then "true" else "false"
  | integer value => toString value
  | decimal written => written
  | text value => writtenText value
  | list items => "[" ++ String.intercalate "," (compactItems items) ++ "]"
  | object fields => "\x7b" ++ String.intercalate "," (compactFields fields) ++ "\x7d"

/-- The items of a list, each on one line. -/
def compactItems : List Json → List String
  | [] => []
  | item :: rest => compact item :: compactItems rest

/-- The fields of an object, each on one line. -/
def compactFields : List (String × Json) → List String
  | [] => []
  | (name, value) :: rest => (writtenText name ++ ":" ++ compact value) :: compactFields rest

end

/-- Lines between brackets, one item a line, the items indented by two blanks more than the
brackets. No items take no lines. -/
def indented (margin opening closing : String) (items : List String) : String :=
  if items.isEmpty then opening ++ closing
  else
    opening ++ "\n" ++
      String.intercalate ",\n" (items.map fun item => margin ++ "  " ++ item) ++
      "\n" ++ margin ++ closing

mutual

/-- A value over several lines; `margin` is the indentation of the line it starts on. -/
def pretty (margin : String) : Json → String
  | list items => indented margin "[" "]" (prettyItems (margin ++ "  ") items)
  | object fields => indented margin "\x7b" "\x7d" (prettyFields (margin ++ "  ") fields)
  | null => "null"
  | bool value => if value then "true" else "false"
  | integer value => toString value
  | decimal written => written
  | text value => writtenText value

/-- The items of a list, each over several lines. -/
def prettyItems (margin : String) : List Json → List String
  | [] => []
  | item :: rest => pretty margin item :: prettyItems margin rest

/-- The fields of an object, each over several lines. -/
def prettyFields (margin : String) : List (String × Json) → List String
  | [] => []
  | (name, value) :: rest =>
    (writtenText name ++ ": " ++ pretty margin value) :: prettyFields margin rest

end

end Json

end SealedBuild
