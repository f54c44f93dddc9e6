/-!
# Quoted values

The form in which containerfiles hold a text: between double quotes, with a backslash
before each quote and each backslash. Reading starts at a quote, takes the character after
a backslash as it is, and stops at the first quote that no backslash precedes.
-/

namespace SealedBuild.Text.Quoted

/-- The characters of a quoted value between its quotes. -/
def encode : List Char → List Char
  | [] => []
  | c :: rest =>
    if c = '"' ∨ c = '\\' then '\\' :: c :: encode rest else c :: encode rest

/-- The value and what follows its closing quote, read from behind the opening quote. -/
def decode : List Char → Option (List Char × List Char)
  | [] => none
  | '"' :: rest => some ([], rest)
  | '\\' :: c :: rest => (decode rest).map fun (value, after) => (c :: value, after)
  | c :: rest => (decode rest).map fun (value, after) => (c :: value, after)

/-- Reads one quoted value at the start of a text. -/
def read? : List Char → Option (List Char × List Char)
  | '"' :: rest => decode rest
  | _ => none

end SealedBuild.Text.Quoted

namespace SealedBuild.Text

/-- A text as a quoted value. -/
def quoted (text : String) : String :=
  String.ofList ('"' :: Quoted.encode text.toList ++ ['"'])

/-- A list of quoted values between square brackets: the form of a command that runs
without a shell. -/
def execForm (args : List String) : String :=
  "[" ++ String.intercalate ", " (args.map quoted) ++ "]"

end SealedBuild.Text
