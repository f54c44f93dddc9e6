import SealedBuild.Document

/-!
# The lexical level of documents

Blanks, line ends, comments, strings and numbers of KDL in its second version. Each reader
gives its value and the rest of the text, or nothing when the text does not start with what
it reads. A reader that repeats ends because the rest gets shorter.
-/

namespace SealedBuild.Document

/-- A reader of one part of a document. -/
abbrev Reader (α : Type) := List Char → Option (α × List Char)

/-- The characters that end a line. A carriage return and a line feed are one end. -/
def isLineEnd (c : Char) : Bool :=
  let n := c.toNat
  n == 0x0A || n == 0x0D || n == 0x85 || n == 0x0B || n == 0x0C || n == 0x2028 || n == 0x2029

/-- The blanks within a line. -/
def isSpace (c : Char) : Bool :=
  let n := c.toNat
  n == 0x09 || n == 0x20 || n == 0xA0 || n == 0x1680 || (0x2000 ≤ n && n ≤ 0x200A) ||
    n == 0x202F || n == 0x205F || n == 0x3000

/-- The characters that a document may hold by their escapes only. -/
def isForbidden (c : Char) : Bool :=
  let n := c.toNat
  n ≤ 0x08 || (0x0E ≤ n && n ≤ 0x1F) || n == 0x200E || n == 0x200F ||
    (0x202A ≤ n && n ≤ 0x202E) || (0x2066 ≤ n && n ≤ 0x2069) || n == 0xFEFF

/-- What follows a line end at the start of a text. -/
def lineEnd? : List Char → Option (List Char)
  | '\r' :: '\n' :: rest => some rest
  | c :: rest => if isLineEnd c then some rest else none
  | [] => none

theorem length_of_lineEnd? {cs rest : List Char} (h : lineEnd? cs = some rest) :
    rest.length < cs.length := by
  unfold lineEnd? at h
  split at h
  · simp only [Option.some.injEq] at h
    subst h
    simp only [List.length_cons]
    omega
  · split at h
    · simp only [Option.some.injEq] at h
      subst h
      simp
    · simp at h
  · simp at h

/-- What follows the end of a block comment with `depth` comments open inside it. -/
def closeComment : Nat → List Char → Option (List Char)
  | 0, '*' :: '/' :: rest => some rest
  | depth + 1, '*' :: '/' :: rest => closeComment depth rest
  | depth, '/' :: '*' :: rest => closeComment (depth + 1) rest
  | depth, _ :: rest => closeComment depth rest
  | _, [] => none

theorem length_of_closeComment {depth : Nat} {cs rest : List Char}
    (h : closeComment depth cs = some rest) : rest.length < cs.length := by
  fun_induction closeComment depth cs with
  | case1 behind =>
    simp only [Option.some.injEq] at h
    subst h
    simp only [List.length_cons]
    omega
  | case2 depth behind ih =>
    have := ih h
    simp only [List.length_cons]
    omega
  | case3 depth behind ih =>
    have := ih h
    simp only [List.length_cons]
    omega
  | case4 depth c behind _ _ _ ih =>
    have := ih h
    simp only [List.length_cons]
    omega
  | case5 => simp at h

/-- What follows one blank or one block comment. -/
def space? : List Char → Option (List Char)
  | '/' :: '*' :: rest => closeComment 0 rest
  | c :: rest => if isSpace c then some rest else none
  | [] => none

theorem length_of_space? {cs rest : List Char} (h : space? cs = some rest) :
    rest.length < cs.length := by
  unfold space? at h
  split at h
  · have := length_of_closeComment h
    simp only [List.length_cons]
    omega
  · split at h
    · simp only [Option.some.injEq] at h
      subst h
      simp
    · simp at h
  · simp at h

/-- The text behind all blanks and block comments that it starts with. -/
def skipSpaces (cs : List Char) : List Char :=
  match _h : space? cs with
  | some rest => skipSpaces rest
  | none => cs
termination_by cs.length
decreasing_by exact length_of_space? _h

theorem length_skipSpaces_le (cs : List Char) : (skipSpaces cs).length ≤ cs.length := by
  fun_induction skipSpaces cs with
  | case1 cs rest h ih => exact Nat.le_trans ih (Nat.le_of_lt (length_of_space? h))
  | case2 cs h => exact Nat.le_refl _

/-- What follows a line comment and the line end behind it, from behind its two slashes. -/
def skipLine : List Char → List Char
  | [] => []
  | c :: rest =>
    match lineEnd? (c :: rest) with
    | some behind => behind
    | none => skipLine rest

theorem length_skipLine_le (cs : List Char) : (skipLine cs).length ≤ cs.length := by
  fun_induction skipLine cs with
  | case1 => exact Nat.le_refl _
  | case2 c rest behind h => exact Nat.le_of_lt (length_of_lineEnd? h)
  | case3 c rest h ih => exact Nat.le_succ_of_le ih

/-- What follows a line comment. -/
def lineComment? : List Char → Option (List Char)
  | '/' :: '/' :: rest => some (skipLine rest)
  | _ => none

theorem length_of_lineComment? {cs rest : List Char} (h : lineComment? cs = some rest) :
    rest.length < cs.length := by
  unfold lineComment? at h
  split at h
  · next tail =>
    have := length_skipLine_le tail
    simp only [Option.some.injEq] at h
    subst h
    simp only [List.length_cons]
    omega
  · simp at h

/-- What follows a line comment or a line end. -/
def lineStop? (cs : List Char) : Option (List Char) :=
  (lineComment? cs).or (lineEnd? cs)

theorem length_of_lineStop? {cs rest : List Char} (h : lineStop? cs = some rest) :
    rest.length < cs.length := by
  unfold lineStop? at h
  rcases Option.or_eq_some_iff.1 h with h | ⟨-, h⟩
  · exact length_of_lineComment? h
  · exact length_of_lineEnd? h

/-- What follows a backslash that continues the line: blanks and a line comment may come
before the line end, and the end of the text counts as one. -/
def lineContinuation? : List Char → Option (List Char)
  | '\\' :: rest =>
    match skipSpaces rest with
    | [] => some []
    | behind => lineStop? behind
  | _ => none

theorem length_of_lineContinuation? {cs rest : List Char}
    (h : lineContinuation? cs = some rest) : rest.length < cs.length := by
  unfold lineContinuation? at h
  split at h
  · next tail =>
    have hskip := length_skipSpaces_le tail
    split at h
    · simp only [Option.some.injEq] at h
      subst h
      simp
    · have := length_of_lineStop? h
      simp only [List.length_cons]
      omega
  · simp at h

/-- The text behind all that may stand between the parts of a node. -/
def skipNodeSpace (cs : List Char) : List Char :=
  match _h : lineContinuation? (skipSpaces cs) with
  | some rest => skipNodeSpace rest
  | none => skipSpaces cs
termination_by cs.length
decreasing_by
  exact Nat.lt_of_lt_of_le (length_of_lineContinuation? _h) (length_skipSpaces_le cs)

theorem length_skipNodeSpace_le (cs : List Char) : (skipNodeSpace cs).length ≤ cs.length := by
  fun_induction skipNodeSpace cs with
  | case1 cs rest h ih =>
    have := length_of_lineContinuation? h
    have := length_skipSpaces_le cs
    omega
  | case2 cs h => exact length_skipSpaces_le cs

/-- The text behind all that may stand between nodes. -/
def skipLineSpace (cs : List Char) : List Char :=
  match _h : lineStop? (skipNodeSpace cs) with
  | some rest => skipLineSpace rest
  | none => skipNodeSpace cs
termination_by cs.length
decreasing_by exact Nat.lt_of_lt_of_le (length_of_lineStop? _h) (length_skipNodeSpace_le cs)

theorem length_skipLineSpace_le (cs : List Char) : (skipLineSpace cs).length ≤ cs.length := by
  fun_induction skipLineSpace cs with
  | case1 cs rest h ih =>
    have := length_of_lineStop? h
    have := length_skipNodeSpace_le cs
    omega
  | case2 cs h => exact length_skipNodeSpace_le cs

/-- Whether a string or a number may end here. -/
def atBoundary (cs : List Char) : Bool :=
  match cs with
  | [] => true
  | c :: _ =>
    c == '=' || c == ')' || c == '{' || c == '}' || c == ';' || isLineEnd c ||
      (space? cs).isSome || (lineComment? cs).isSome || (lineContinuation? cs).isSome

/-! ## Identifiers -/

/-- The characters of a string without quotes. -/
def inIdentifier (c : Char) : Bool :=
  !(isSpace c || isLineEnd c || isForbidden c || "\\/()\x7b\x7d[];\"#=".toList.contains c)

/-- The words that are no identifiers, so that a keyword without its mark is an error. -/
def reservedWords : List String :=
  ["true", "false", "null", "inf", "nan"]

/-- Whether a text starts like a number. -/
def startsNumber (cs : List Char) : Bool :=
  let unsigned := match cs with
    | '+' :: rest => rest
    | '-' :: rest => rest
    | _ => cs
  match unsigned with
  | '.' :: c :: _ => c.isDigit
  | c :: _ => c.isDigit
  | [] => false

/-- Reads a string without quotes. -/
def identifier : Reader String := fun cs =>
  let name := cs.takeWhile inIdentifier
  if name.isEmpty || startsNumber cs || reservedWords.contains (String.ofList name) then none
  else some (String.ofList name, cs.dropWhile inIdentifier)

/-! ## Quoted strings -/

/-- The text behind blanks and line ends. -/
def skipBlank : List Char → List Char :=
  List.dropWhile fun c => isSpace c || isLineEnd c

/-- The number that hexadecimal digits name. -/
def hexValue? (digits : List Char) : Option Nat :=
  digits.foldlM (fun n c =>
    if c.isDigit then some (n * 16 + (c.toNat - '0'.toNat))
    else if 'a' ≤ c ∧ c ≤ 'f' then some (n * 16 + (c.toNat - 'a'.toNat + 10))
    else if 'A' ≤ c ∧ c ≤ 'F' then some (n * 16 + (c.toNat - 'A'.toNat + 10))
    else none) 0

/-- Reads the code point of a character between braces, from behind the opening brace. -/
def codePoint : Reader Char := fun cs =>
  let digits := cs.takeWhile (· != '}')
  match hexValue? digits, cs.drop digits.length with
  | some n, '}' :: rest =>
    if digits.isEmpty || 6 < digits.length || !n.isValidChar then none
    else some (Char.ofNat n, rest)
  | _, _ => none

/-- Reads what a backslash stands for, from behind it: one character, or nothing for blanks
and line ends. -/
def escape : Reader (List Char)
  | '\\' :: rest => some (['\\'], rest)
  | '"' :: rest => some (['"'], rest)
  | 'b' :: rest => some ([Char.ofNat 8], rest)
  | 'f' :: rest => some ([Char.ofNat 12], rest)
  | 'n' :: rest => some (['\n'], rest)
  | 'r' :: rest => some (['\r'], rest)
  | 't' :: rest => some (['\t'], rest)
  | 's' :: rest => some ([' '], rest)
  | 'u' :: '{' :: rest => (codePoint rest).map fun (c, rest) => ([c], rest)
  | c :: rest => if isSpace c || isLineEnd c then some ([], skipBlank rest) else none
  | [] => none

theorem length_of_codePoint {cs rest : List Char} {c : Char} (h : codePoint cs = some (c, rest)) :
    rest.length ≤ cs.length := by
  unfold codePoint at h
  simp only at h
  split at h
  · next n behind _ hdrop =>
    split at h
    · simp at h
    · simp only [Option.some.injEq, Prod.mk.injEq] at h
      obtain ⟨-, rfl⟩ := h
      have := congrArg List.length hdrop
      simp only [List.length_drop, List.length_cons] at this
      omega
  · simp at h

theorem length_of_escape {cs rest out : List Char} (h : escape cs = some (out, rest)) :
    rest.length < cs.length := by
  unfold escape at h
  split at h
  case h_9 tail =>
    obtain ⟨⟨c, behind⟩, hpoint, heq⟩ := Option.map_eq_some_iff.1 h
    have := length_of_codePoint hpoint
    simp only [Prod.mk.injEq] at heq
    obtain ⟨-, rfl⟩ := heq
    simp only [List.length_cons]
    omega
  case h_10 c tail _ _ _ _ _ _ _ _ _ =>
    split at h
    · have := (List.dropWhile_sublist (fun c => isSpace c || isLineEnd c) (l := tail)).length_le
      simp only [Option.some.injEq, Prod.mk.injEq, skipBlank] at h
      obtain ⟨-, rfl⟩ := h
      simp only [List.length_cons]
      omega
    · simp at h
  case h_11 => simp at h
  all_goals
    simp only [Option.some.injEq, Prod.mk.injEq] at h
    obtain ⟨-, rfl⟩ := h
    simp

/-- Reads the rest of a string on one line; `read` holds what was read of it, last character
first. -/
def quotedBody (read : List Char) (cs : List Char) : Option (String × List Char) :=
  match cs with
  | [] => none
  | '"' :: rest => some (String.ofList read.reverse, rest)
  | '\\' :: rest =>
    match _h : escape rest with
    | some (out, behind) => quotedBody (out.reverse ++ read) behind
    | none => none
  | c :: rest => if isLineEnd c || isForbidden c then none else quotedBody (c :: read) rest
termination_by cs.length
decreasing_by
  · have := length_of_escape _h
    simp only [List.length_cons]
    omega
  · simp

/-- A character of a string of several lines: as it stands in the text, or by an escape. -/
structure LineChar where
  char : Char
  escaped : Bool
  deriving DecidableEq, Inhabited

namespace LineChar

/-- A character that stands in the text. -/
def plain (c : Char) : LineChar :=
  ⟨c, false⟩

/-- Whether a character is a blank of the text; one by an escape is none. -/
def isBlank (c : LineChar) : Bool :=
  !c.escaped && isSpace c.char

end LineChar

/-- One line of a string of several lines without its margin. A line of blanks only is
empty; any other has to start with the margin. -/
def dedentLine (margin line : List LineChar) : Option String :=
  if line.all LineChar.isBlank then some ""
  else if margin.isPrefixOf line then
    some (String.ofList ((line.drop margin.length).map LineChar.char))
  else none

/-- The content of a string of several lines, whose last line, of blanks only, shows the
margin of the others. Escapes say nothing about margins. `lines` and `margin` come last part
first. -/
def dedent (margin : List LineChar) (lines : List (List LineChar)) : Option String :=
  if margin.all LineChar.isBlank then
    (lines.reverse.mapM fun line => dedentLine margin.reverse line.reverse).map
      ("\n".intercalate ·)
  else none

/-- Reads the rest of a string of several lines. `lines` holds the lines that are complete
and `line` the one under way, both last part first. Escaped blanks and line ends are no part
of a line, so they may stand between the margin and the closing quotes. -/
def linesBody (lines : List (List LineChar)) (line : List LineChar) (cs : List Char) :
    Option (String × List Char) :=
  match cs with
  | [] => none
  | '"' :: '"' :: '"' :: rest => (dedent line lines).map fun text => (text, rest)
  | '\\' :: rest =>
    match _h : escape rest with
    | some (out, behind) => linesBody lines (out.reverse.map (⟨·, true⟩) ++ line) behind
    | none => none
  | c :: rest =>
    match _h : lineEnd? (c :: rest) with
    | some behind => linesBody (line :: lines) [] behind
    | none => if isForbidden c then none else linesBody lines (.plain c :: line) rest
termination_by cs.length
decreasing_by
  · have := length_of_escape _h
    simp only [List.length_cons]
    omega
  · exact length_of_lineEnd? _h
  · simp

/-- Reads a quoted string, on one line or on several. -/
def quoted : Reader String
  | '"' :: '"' :: '"' :: rest =>
    match lineEnd? rest with
    | some body => linesBody [] [] body
    | none => none
  | '"' :: rest => quotedBody [] rest
  | _ => none

/-! ## Raw strings -/

/-- What follows a closing mark at the start of a text. -/
def mark? (closing cs : List Char) : Option (List Char) :=
  if closing.isPrefixOf cs then some (cs.drop closing.length) else none

/-- Reads the rest of a raw string on one line, which ends at the first closing mark; `read`
holds what was read of it, last character first. -/
def rawBody (closing read : List Char) : Reader String
  | [] => none
  | c :: rest =>
    match mark? closing (c :: rest) with
    | some behind => some (String.ofList read.reverse, behind)
    | none =>
      if isLineEnd c || isForbidden c then none else rawBody closing (c :: read) rest

/-- Reads the rest of a raw string of several lines. -/
def rawLinesBody (closing : List Char) (lines : List (List LineChar)) (line : List LineChar)
    (cs : List Char) : Option (String × List Char) :=
  match cs with
  | [] => none
  | c :: rest =>
    match mark? closing (c :: rest) with
    | some behind => (dedent line lines).map fun text => (text, behind)
    | none =>
      match _h : lineEnd? (c :: rest) with
      | some behind => rawLinesBody closing (line :: lines) [] behind
      | none =>
        if isForbidden c then none else rawLinesBody closing lines (.plain c :: line) rest
termination_by cs.length
decreasing_by
  · exact length_of_lineEnd? _h
  · simp

/-- A raw string, unless it is a lone quote: on one line, that looks like the start of a string
of several lines. -/
def notLoneQuote : String × List Char → Option (String × List Char)
  | (text, rest) => if text = "\"" then none else some (text, rest)

/-- Reads a raw string: as many hash marks as it needs before and behind, and no escapes
between. -/
def raw : Reader String := fun cs =>
  let hashes := cs.takeWhile (· == '#')
  if hashes.isEmpty then none
  else
    let body := match cs.drop hashes.length with
      | '"' :: '"' :: '"' :: rest =>
        match lineEnd? rest with
        | some body => rawLinesBody ("\"\"\"".toList ++ hashes) [] [] body
        | none => rawBody ('"' :: hashes) [] ('"' :: '"' :: rest)
      | '"' :: rest => rawBody ('"' :: hashes) [] rest
      | _ => none
    body.bind notLoneQuote

/-- Reads a string in any of its forms. -/
def string : Reader String := fun cs =>
  match (identifier cs).or ((quoted cs).or (raw cs)) with
  | some (text, rest) => if atBoundary rest then some (text, rest) else none
  | none => none

/-! ## Numbers and keywords -/

/-- What follows digits of a base, which may have low lines between and behind them. Their
value, without a sign, has to fit a signed word of 128 bits. -/
def digits? (base : Nat) (cs : List Char) : Option (List Char) :=
  let isDigit (c : Char) : Bool := (hexValue? [c]).any (· < base)
  match cs with
  | [] => none
  | c :: rest =>
    if isDigit c then
      let more := rest.takeWhile fun d => isDigit d || d == '_'
      let digits := c :: more.filter (· != '_')
      let value := digits.foldl (fun n d => n * base + (hexValue? [d]).getD 0) 0
      if value < Nat.pow 2 127 then some (rest.drop more.length) else none
    else none

/-- The text behind a sign, if there is one. -/
def skipSign : List Char → List Char
  | '+' :: rest => rest
  | '-' :: rest => rest
  | cs => cs

/-- What follows a fraction, or the text itself where there is no point. -/
def fraction? : List Char → Option (List Char)
  | '.' :: rest => digits? 10 rest
  | cs => some cs

/-- What follows an exponent, or the text itself where there is none. -/
def exponent? : List Char → Option (List Char)
  | 'e' :: rest => digits? 10 (skipSign rest)
  | 'E' :: rest => digits? 10 (skipSign rest)
  | cs => some cs

/-- What follows a number written in base ten. -/
def decimal? (cs : List Char) : Option (List Char) :=
  ((digits? 10 cs).bind fraction?).bind exponent?

/-- What follows a number without its sign. -/
def magnitude? : List Char → Option (List Char)
  | '0' :: c :: rest =>
    match c with
    | 'x' | 'X' => digits? 16 rest
    | 'o' | 'O' => digits? 8 rest
    | 'b' | 'B' => digits? 2 rest
    | _ => decimal? ('0' :: c :: rest)
  | cs => decimal? cs

/-- Reads a number. -/
def number : Reader Value := fun cs =>
  match magnitude? (skipSign cs) with
  | some rest => if atBoundary rest then some (.number, rest) else none
  | none => none

/-- The keywords and what they stand for. -/
def keywords : List (String × Value) :=
  [("#true", .truth true), ("#false", .truth false), ("#null", .null), ("#inf", .number),
    ("#-inf", .number), ("#nan", .number)]

/-- Reads a keyword. -/
def keyword : Reader Value := fun cs =>
  keywords.findSome? fun (word, value) =>
    (mark? word.toList cs).map fun rest => (value, rest)

end SealedBuild.Document
