import Mathlib.Data.List.Basic
import SealedBuild.Text.ShellWord

/-!
# Reading shell words

A reader for the words of a POSIX shell, as far as a job's script has them: single quotes, in
which all is literal, double quotes around text in which nothing is expanded, a backslash outside
of quotes, and bare characters without a meaning of their own. A word goes on over its quoted
parts and ends before a blank or an operator.

Expansions are refused, so what is read is what any shell makes of the word, whatever its
variables, files and options are.
-/

namespace SealedBuild.Text.ShellReader

/-- How the next character of a word is taken. -/
inductive Quoting where
  | bare
  | escaped
  | single
  | double

/-- Whether a bare character ends the word before it. -/
def endsWord (c : Char) : Bool :=
  c ∈ [' ', '\t', '\n', ';', '&', '|', '<', '>', '(', ')']

/-- Whether a bare character stands for itself. -/
def isPlain (c : Char) : Bool :=
  c.isAlphanum || c ∈ ['/', '.', '_', '-']

/-- Whether a character stands for itself in double quotes. -/
def isFixed (c : Char) : Bool :=
  c ∉ ['"', '$', '\x60', '\\']

/-- A reading with some characters before it. -/
def prepend (front : List Char) (found : Option (List Char × List Char)) :
    Option (List Char × List Char) :=
  found.map fun (text, rest) => (front ++ text, rest)

@[simp]
theorem prepend_nil (found : Option (List Char × List Char)) : prepend [] found = found := by
  cases found <;> rfl

@[simp]
theorem prepend_some (front text rest : List Char) :
    prepend front (some (text, rest)) = some (front ++ text, rest) :=
  rfl

theorem prepend_prepend (front back : List Char) (found : Option (List Char × List Char)) :
    prepend front (prepend back found) = prepend (front ++ back) found := by
  cases found <;> simp [prepend]

theorem prepend_eq_some_iff {front text rest : List Char}
    {found : Option (List Char × List Char)} :
    prepend front found = some (text, rest) ↔
      ∃ back, found = some (back, rest) ∧ front ++ back = text := by
  cases found with
  | none => exact ⟨nofun, fun ⟨_, h, _⟩ => nomatch h⟩
  | some pair => rcases pair with ⟨back, behind⟩; simp [and_comm]

/-- What a word stands for, and the text behind it. -/
def word : Quoting → List Char → Option (List Char × List Char)
  | .bare, [] => some ([], [])
  | .escaped, [] | .single, [] | .double, [] => none
  | .bare, c :: rest =>
    if c = '\'' then word .single rest
    else if c = '"' then word .double rest
    else if c = '\\' then word .escaped rest
    else if endsWord c then some ([], c :: rest)
    else if isPlain c then prepend [c] (word .bare rest)
    else none
  | .escaped, c :: rest =>
    -- A line feed behind a backslash is no character of the word: the line goes on.
    if c = '\n' then none else prepend [c] (word .bare rest)
  | .single, c :: rest =>
    if c = '\'' then word .bare rest else prepend [c] (word .single rest)
  | .double, c :: rest =>
    if c = '"' then word .bare rest
    else if isFixed c then prepend [c] (word .double rest)
    else none

theorem word_end {c : Char} (hc : endsWord c = true) (rest : List Char) :
    word .bare (c :: rest) = some ([], c :: rest) := by
  have hquote : c ≠ '\'' := by rintro rfl; exact absurd hc (by decide)
  have hdouble : c ≠ '"' := by rintro rfl; exact absurd hc (by decide)
  have hescape : c ≠ '\\' := by rintro rfl; exact absurd hc (by decide)
  rw [word, if_neg hquote, if_neg hdouble, if_neg hescape, if_pos hc]

/-- Within single quotes, an encoded text and the closing quote read as the text. -/
theorem word_encode (text rest : List Char) :
    word .single (ShellWord.encode text ++ '\'' :: rest) = prepend text (word .bare rest) := by
  induction text with
  | nil => simp [ShellWord.encode, word]
  | cons c text ih =>
      rw [ShellWord.encode]
      by_cases hc : c = '\''
      · subst hc
        -- The quotes are closed, the quote follows its backslash, and the quotes open again.
        simp only [↓reduceIte, List.cons_append, word, Char.reduceEq, ih]
        exact prepend_prepend ['\''] text (word .bare rest)
      · rw [if_neg hc, List.cons_append, word, if_neg hc, ih]
        exact prepend_prepend [c] text (word .bare rest)

/-- A text written as a shell word reads as the text, and the word goes on behind it. -/
theorem word_shellWord (text : String) (rest : List Char) :
    word .bare ((shellWord text).toList ++ rest) = prepend text.toList (word .bare rest) := by
  rw [shellWord, String.toList_ofList, List.cons_append, List.cons_append, List.append_assoc,
    List.singleton_append, word, if_pos rfl, word_encode]

/-- Before a blank or an operator, the word is read to its end and no further. -/
theorem word_shellWord_cons (text : String) {c : Char} (hc : endsWord c = true)
    (rest : List Char) :
    word .bare ((shellWord text).toList ++ c :: rest) = some (text.toList, c :: rest) := by
  rw [word_shellWord, word_end hc, prepend_some, List.append_nil]

/-- Fixed text between double quotes reads as the text. -/
theorem word_fixed {text : List Char} (h : ∀ c ∈ text, isFixed c = true) (rest : List Char) :
    word .bare ('"' :: (text ++ '"' :: rest)) = prepend text (word .bare rest) := by
  have hinner : word .double (text ++ '"' :: rest) = prepend text (word .bare rest) := by
    induction text with
    | nil => simp [word]
    | cons c text ih =>
        rw [List.forall_mem_cons] at h
        have hc : c ≠ '"' := by rintro rfl; exact absurd h.1 (by decide)
        rw [List.cons_append, word, if_neg hc, if_pos h.1, ih h.2]
        exact prepend_prepend [c] text (word .bare rest)
  rw [word, if_neg (by decide), if_pos rfl, hinner]

/-! ## Parts of a word -/

/-- What the single quotes and the escaped characters at the front of a word stand for, and the
text behind them. A bare character, a blank, an operator and double quotes are not read. -/
def literal : Quoting → List Char → Option (List Char × List Char)
  | .bare, [] => some ([], [])
  | .escaped, [] | .single, [] | .double, _ => none
  | .bare, c :: rest =>
    if c = '\'' then literal .single rest
    else if c = '\\' then literal .escaped rest
    else some ([], c :: rest)
  | .escaped, c :: rest => if c = '\n' then none else prepend [c] (literal .bare rest)
  | .single, c :: rest =>
    if c = '\'' then literal .bare rest else prepend [c] (literal .single rest)

/-- A word is read part by part. -/
theorem word_of_literal {quoting : Quoting} {text found rest : List Char}
    (h : literal quoting text = some (found, rest)) :
    word quoting text = prepend found (word .bare rest) := by
  fun_induction literal quoting text generalizing found with
  | case1 =>
      cases h
      rfl
  | case2 | case3 | case4 | case8 => cases h
  | case5 text ih => rw [word, if_pos rfl, ih h]
  | case6 text hquote ih => rw [word, if_neg hquote, if_neg (by decide), if_pos rfl, ih h]
  | case7 c text hquote hescape =>
      cases h
      rw [prepend_nil]
  | case9 c text hc ih =>
      obtain ⟨back, hback, rfl⟩ := prepend_eq_some_iff.mp h
      rw [word, if_neg hc, ih hback, prepend_prepend]
  | case10 text ih => rw [word, if_pos rfl, ih h]
  | case11 c text hc ih =>
      obtain ⟨back, hback, rfl⟩ := prepend_eq_some_iff.mp h
      rw [word, if_neg hc, ih hback, prepend_prepend]

theorem literal_encode (text : List Char) {next : Char} (hquote : next ≠ '\'')
    (hescape : next ≠ '\\') (rest : List Char) :
    literal .single (ShellWord.encode text ++ '\'' :: next :: rest) =
      some (text, next :: rest) := by
  induction text with
  | nil => simp [ShellWord.encode, literal, hquote, hescape]
  | cons c text ih =>
      rw [ShellWord.encode]
      by_cases hc : c = '\''
      · subst hc
        simp [literal, ih]
      · rw [if_neg hc, List.cons_append, literal, if_neg hc, ih]
        rfl

/-- The part of a word that a text is written as ends where the writing does. -/
theorem literal_shellWord (text : String) {next : Char} (hquote : next ≠ '\'')
    (hescape : next ≠ '\\') (rest : List Char) :
    literal .bare ((shellWord text).toList ++ next :: rest) = some (text.toList, next :: rest) := by
  rw [shellWord, String.toList_ofList, List.cons_append, List.cons_append, List.append_assoc,
    List.singleton_append, literal, if_pos rfl, literal_encode _ hquote hescape]

/-! ## Characters of a word -/

theorem mem_encode {c : Char} (hslash : c ≠ '\\') (hquote : c ≠ '\'') (text : List Char) :
    c ∈ ShellWord.encode text ↔ c ∈ text := by
  induction text with
  | nil => rfl
  | cons d text ih =>
      rw [ShellWord.encode]
      split
      · rename_i hd
        simp [ih, hslash, hquote, hd]
      · simp [ih]

/-- The quotes and backslashes apart, a shell word has the characters of its text. -/
theorem mem_shellWord {c : Char} (hslash : c ≠ '\\') (hquote : c ≠ '\'') (text : String) :
    c ∈ (shellWord text).toList ↔ c ∈ text.toList := by
  simp [shellWord, mem_encode hslash hquote, hquote]

end SealedBuild.Text.ShellReader
