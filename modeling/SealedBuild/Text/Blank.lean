/-!
# White space

The characters with the Unicode property `White_Space`, and what follows from them:
trimming a text, its lines and its first word. A line ends at a line feed; a carriage
return belongs to the line end only directly before a line feed.
-/

namespace SealedBuild.Text

/-- The characters with the Unicode property `White_Space`. -/
def isBlank (c : Char) : Bool :=
  let n := c.toNat
  (9 ≤ n && n ≤ 13) || n == 0x20 || n == 0x85 || n == 0xA0 || n == 0x1680 ||
    (0x2000 ≤ n && n ≤ 0x200A) || n == 0x2028 || n == 0x2029 || n == 0x202F ||
    n == 0x205F || n == 0x3000

/-- The text without the white space it starts with. -/
def trimStart (text : List Char) : List Char :=
  text.dropWhile isBlank

/-- The text without the white space it ends with. -/
def trimEnd (text : List Char) : List Char :=
  (text.reverse.dropWhile isBlank).reverse

/-- The text without the white space around it. -/
def trim (text : List Char) : List Char :=
  trimEnd (trimStart text)

/-- A string without the white space around it. -/
def trimmed (text : String) : String :=
  String.ofList (trim text.toList)

/-- A string without the white space it ends with. -/
def trimmedEnd (text : String) : String :=
  String.ofList (trimEnd text.toList)

/-- Whether a string holds white space only. -/
def allBlank (text : String) : Bool :=
  text.toList.all isBlank

/-- The lines of a text, without their ends. A text that does not end in a line feed
still has its last line; the empty text has none. -/
def lines : List Char → List (List Char)
  | [] => []
  | '\n' :: rest => [] :: lines rest
  | '\r' :: '\n' :: rest => [] :: lines rest
  | c :: rest =>
    match lines rest with
    | [] => [[c]]
    | line :: more => (c :: line) :: more

/-- The first maximal run of characters that are not white space. -/
def firstWord? (text : List Char) : Option (List Char) :=
  match (trimStart text).takeWhile (fun c => !isBlank c) with
  | [] => none
  | word => some word

end SealedBuild.Text
