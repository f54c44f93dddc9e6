import Mathlib.Data.List.Basic
import SealedBuild.Proofs.Text.Cuts
import SealedBuild.Text.Quoted

/-!
# Reading quoted values

A quoted value tells where it ends: whatever stands behind it, the reader gives the value back and
stops right behind the closing quote. So do the forms that are made of quoted values. A list of
them is read item by item, up to the text that ends the list, and an assignment is a name up to the
first equals sign with a quoted value behind it.
-/

namespace SealedBuild.Text

/-! ## One value -/

namespace Quoted

/-- A text with another in place of each occurrence of a character. -/
def replaceEach (c : Char) (other text : List Char) : List Char :=
  text.flatMap fun d => if d = c then other else [d]

/-- Backslashes come first when the text is encoded in two steps, so that those put before quotes
are not doubled. -/
theorem encode_eq_replaceEach (text : List Char) :
    encode text = replaceEach '"' ['\\', '"'] (replaceEach '\\' ['\\', '\\'] text) := by
  induction text with
  | nil => rfl
  | cons c text ih =>
      unfold replaceEach at ih ⊢
      rw [encode, ih, List.flatMap_cons, List.flatMap_append]
      by_cases hslash : c = '\\'
      · subst hslash
        rfl
      · by_cases hquote : c = '"'
        · subst hquote
          rfl
        · simp [hslash, hquote]

/-- A character without a meaning of its own is read as it is. -/
theorem decode_cons {c : Char} (hquote : c ≠ '"') (hslash : c ≠ '\\') (rest : List Char) :
    decode (c :: rest) = (decode rest).map fun (value, after) => (c :: value, after) := by
  apply decode.eq_4
  · exact hquote
  · rintro d others rfl
    exact absurd rfl hslash

theorem decode_encode (text rest : List Char) :
    decode (encode text ++ '"' :: rest) = some (text, rest) := by
  induction text with
  | nil => rfl
  | cons c text ih =>
      rw [encode]
      by_cases hc : c = '"' ∨ c = '\\'
      · rw [if_pos hc, List.cons_append, List.cons_append, decode, ih, Option.map_some]
      · obtain ⟨hquote, hslash⟩ := not_or.mp hc
        rw [if_neg hc, List.cons_append, decode_cons hquote hslash, ih, Option.map_some]

theorem read?_quoted (text : String) (rest : List Char) :
    read? ((quoted text).toList ++ rest) = some (text.toList, rest) := by
  rw [quoted, String.toList_ofList, List.cons_append, List.cons_append, List.append_assoc,
    List.singleton_append, read?, decode_encode]

end Quoted

/-! ## Several values -/

/-- Reads one quoted value as a string. -/
def readQuoted (text : List Char) : Option (String × List Char) :=
  (Quoted.read? text).map fun (value, rest) => (String.ofList value, rest)

/-- Reads a name up to the first equals sign and a quoted value behind it. -/
def readAssignment (text : List Char) : Option ((String × String) × List Char) := do
  let (name, rest) ← cutFirst '=' text
  let (value, rest) ← readQuoted rest
  some ((String.ofList name, value), rest)

section Separated

variable {α : Type}

/-- Reads items with a separator between them, up to the text that ends the list. Every item has to
take some of the text. -/
def readSeparated (item : List Char → Option (α × List Char)) (separator terminator : List Char)
    (text : List Char) : Option (List α × List Char) :=
  match item text with
  | none => none
  | some (value, rest) =>
    match after? terminator rest with
    | some rest => some ([value], rest)
    | none =>
      match after? separator rest with
      | none => none
      | some rest =>
        if rest.length < text.length then
          (readSeparated item separator terminator rest).map fun (values, rest) =>
            (value :: values, rest)
        else none
termination_by text.length

/-- Items that tell where they end are read back, where no separator is taken for the end. -/
theorem readSeparated_intercalate {item : List Char → Option (α × List Char)}
    {separator terminator : List Char} {write : α → List Char}
    (hseparator : separator ≠ []) (hend : ∀ text, after? terminator (separator ++ text) = none)
    {values : List α} (hvalues : values ≠ [])
    (hitem : ∀ value ∈ values, ∀ rest, item (write value ++ rest) = some (value, rest))
    (rest : List Char) :
    readSeparated item separator terminator
      (separator.intercalate (values.map write) ++ (terminator ++ rest)) = some (values, rest) := by
  induction values with
  | nil => exact absurd rfl hvalues
  | cons first others ih =>
      rw [List.forall_mem_cons] at hitem
      cases others with
      | nil =>
          rw [List.map_singleton, List.intercalate_singleton, readSeparated, hitem.1]
          simp only [after?_append]
      | cons second others =>
          have hmore := ih (List.cons_ne_nil _ _) hitem.2
          rw [List.map_cons] at hmore ⊢
          rw [List.map_cons, List.intercalate_cons_cons, List.append_assoc, List.append_assoc,
            readSeparated, hitem.1]
          have hshorter : 0 < separator.length := List.length_pos_iff.mpr hseparator
          simp only [hend, after?_append]
          rw [if_pos, hmore, Option.map_some]
          simp only [List.length_append]
          omega

end Separated

/-- Reads a list of quoted values between square brackets. -/
def readExecForm (text : List Char) : Option (List String × List Char) :=
  match text with
  | '[' :: ']' :: rest => some ([], rest)
  | '[' :: rest => readSeparated readQuoted ", ".toList "]".toList rest
  | _ => none

theorem readQuoted_quoted (text : String) (rest : List Char) :
    readQuoted ((quoted text).toList ++ rest) = some (text, rest) := by
  rw [readQuoted, Quoted.read?_quoted, Option.map_some]
  simp only [String.ofList_toList]

theorem readAssignment_append {binding : String × String} (hname : '=' ∉ binding.1.toList)
    (rest : List Char) :
    readAssignment ((binding.1 ++ "=" ++ quoted binding.2).toList ++ rest) =
      some (binding, rest) := by
  have htext : (binding.1 ++ "=" ++ quoted binding.2).toList ++ rest =
      binding.1.toList ++ '=' :: ((quoted binding.2).toList ++ rest) := by simp
  rw [htext, readAssignment, cutFirst_append_cons hname]
  simp [readQuoted_quoted]

theorem readExecForm_execForm (args : List String) (rest : List Char) :
    readExecForm ((execForm args).toList ++ rest) = some (args, rest) := by
  have htext : (execForm args).toList ++ rest =
      '[' :: (", ".toList.intercalate (args.map fun arg => (quoted arg).toList) ++
        ("]".toList ++ rest)) := by
    simp [execForm, String.toList_intercalate, Function.comp_def]
  rw [htext]
  cases args with
  | nil => rfl
  | cons first others =>
      -- The first value begins with a quote, so the list is not taken for the empty one.
      obtain ⟨back, hback⟩ : ∃ back,
          ", ".toList.intercalate ((first :: others).map fun arg => (quoted arg).toList) ++
            ("]".toList ++ rest) = '"' :: back := by
        cases others <;> simp [quoted]
      have hend (text : List Char) : after? "]".toList (", ".toList ++ text) = none := rfl
      have hread := readSeparated_intercalate (show ", ".toList ≠ [] by decide) hend
        (List.cons_ne_nil first others) (fun arg _ rest => readQuoted_quoted arg rest) rest
      rw [hback] at hread ⊢
      exact hread

end SealedBuild.Text
