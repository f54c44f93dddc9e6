import SealedBuild.Text.Split

/-!
# Words of a command line

What a word of a command line is, seen alone: the name of an option, perhaps with its value,
a bundle of letters, a value, or the mark behind which all words are values.
-/

namespace SealedBuild.CommandLine

/-- A word of a command line. -/
inductive Word where
  /-- Two hyphens alone: only values follow. -/
  | ending
  /-- The long name of an option, with what stands behind an equals sign. -/
  | option (name : String) (value : Option String)
  /-- Options of one letter each. -/
  | letters (letters : List Char)
  /-- Any other word; a hyphen alone is one. -/
  | plain (text : String)
  deriving DecidableEq, Inhabited

/-- What a written word is. -/
def Word.ofText (written : String) : Word :=
  match written.toList with
  | ['-', '-'] => .ending
  | '-' :: '-' :: name =>
    match Text.cutFirst '=' name with
    | some (name, value) => .option (String.ofList name) (some (String.ofList value))
    | none => .option (String.ofList name) none
  | '-' :: c :: rest => .letters (c :: rest)
  | _ => .plain written

end SealedBuild.CommandLine
