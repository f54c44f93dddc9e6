/-!
# Shell words

A text as one word of a POSIX shell: between single quotes, in which every character but
the single quote stands for itself. A single quote closes the quotes, stands behind a
backslash and opens them again.
-/

namespace SealedBuild.Text.ShellWord

/-- The characters of a word between its outer quotes. -/
def encode : List Char → List Char
  | [] => []
  | c :: rest =>
    if c = '\'' then '\'' :: '\\' :: '\'' :: '\'' :: encode rest else c :: encode rest

end SealedBuild.Text.ShellWord

namespace SealedBuild.Text

/-- A text as one word of a shell command. -/
def shellWord (text : String) : String :=
  String.ofList ('\'' :: ShellWord.encode text.toList ++ ['\''])

end SealedBuild.Text
