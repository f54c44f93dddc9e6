import Mathlib.Algebra.GroupWithZero.Nat
import Mathlib.Algebra.Order.BigOperators.Group.List
import Mathlib.Algebra.Order.Group.Nat
import Mathlib.Data.List.TakeWhile
import SealedBuild.Proofs.Text.Lines

/-!
# Instructions of containerfiles

A containerfile is read line by line. Blank lines and comments are skipped, also within an
instruction, and a line that ends in a backslash goes on with the next line that is not skipped.

A containerfile that is written row by row reads back as it was meant exactly when every row is a
line that is not skipped and that goes on only where it was meant to. Whatever a line loses on the
way, to a skip or as the mark of another row, is missing from the length of what is read.
-/

namespace SealedBuild.Containerfile

/-- Whether a line is blank or a comment. -/
def isSkipped (line : List Char) : Bool :=
  match line.dropWhile Text.isBlank with
  | [] => true
  | c :: _ => c == '#'

/-- Where a line shows a character other than white space, what follows does not matter. -/
theorem isSkipped_append {line : List Char} (h : ∃ c ∈ line, Text.isBlank c = false)
    (rest : List Char) : isSkipped (line ++ rest) = isSkipped line := by
  have hshown : line.dropWhile Text.isBlank ≠ [] := by
    rw [ne_eq, List.dropWhile_eq_nil_iff]
    simpa using h
  rw [isSkipped, isSkipped, List.dropWhile_append, if_neg (by simpa using hshown)]
  obtain ⟨c, others, heq⟩ := List.exists_cons_of_ne_nil hshown
  rw [heq]
  rfl

/-- White space in front does not matter. -/
theorem isSkipped_blank_append {front : List Char} (h : ∀ c ∈ front, Text.isBlank c = true)
    (line : List Char) : isSkipped (front ++ line) = isSkipped line := by
  rw [isSkipped, isSkipped, List.dropWhile_append_of_pos h]

/-- The instructions in some lines, the first of which goes on from what is pending. -/
def joinLines (pending : List Char) : List (List Char) → List (List Char)
  | [] => if pending = [] then [] else [pending]
  | line :: rest =>
    if isSkipped line then joinLines pending rest
    else if line.getLast? = some '\\' then joinLines (pending ++ line.dropLast) rest
    else (pending ++ line) :: joinLines [] rest

/-- The instructions of a containerfile. -/
def instructions (text : String) : List String :=
  (joinLines [] (Text.lines text.toList)).map String.ofList

section Joining

variable {line pending : List Char} {lines rest : List (List Char)}

theorem joinLines_skipped (h : isSkipped line = true) :
    joinLines pending (line :: rest) = joinLines pending rest := by
  rw [joinLines, if_pos h]

theorem joinLines_continued (h : isSkipped line = false) (hlast : line.getLast? = some '\\') :
    joinLines pending (line :: rest) = joinLines (pending ++ line.dropLast) rest := by
  rw [joinLines, if_neg (by simp [h]), if_pos hlast]

theorem joinLines_ended (h : isSkipped line = false) (hlast : line.getLast? ≠ some '\\') :
    joinLines pending (line :: rest) = (pending ++ line) :: joinLines [] rest := by
  rw [joinLines, if_neg (by simp [h]), if_neg hlast]

/-! ## Lines that tell nothing -/

/-- A line that leaves no trace: it is skipped, or it is the mark of going on and no more. -/
def Silent (line : List Char) : Prop :=
  isSkipped line = true ∨ line = ['\\']

instance (line : List Char) : Decidable (Silent line) :=
  inferInstanceAs (Decidable (_ ∨ _))

theorem joinLines_silent (h : ∀ line ∈ lines, Silent line) :
    joinLines [] (lines ++ rest) = joinLines [] rest := by
  induction lines with
  | nil => rfl
  | cons line lines ih =>
      rw [List.forall_mem_cons] at h
      rw [List.cons_append]
      rcases h.1 with hskipped | rfl
      · rw [joinLines_skipped hskipped, ih h.2]
      · rw [joinLines_continued (by decide) (by decide)]
        exact ih h.2

/-- Some lines come down to the instructions that end in them and what they leave pending. If that
is nothing at all, then nothing was pending and every line is silent. -/
theorem exists_joinLines_append (pending : List Char) (lines : List (List Char)) :
    ∃ told left, (∀ rest, joinLines pending (lines ++ rest) = told ++ joinLines left rest) ∧
      (told = [] → left = [] → pending = [] ∧ ∀ line ∈ lines, Silent line) := by
  induction lines generalizing pending with
  | nil => exact ⟨[], pending, fun rest => rfl, fun _ hleft => ⟨hleft, nofun⟩⟩
  | cons line lines ih =>
      simp only [List.cons_append, List.forall_mem_cons]
      cases hskipped : isSkipped line with
      | true =>
          obtain ⟨told, left, hjoin, hnone⟩ := ih pending
          refine ⟨told, left, fun rest => by rw [joinLines_skipped hskipped, hjoin], ?_⟩
          intro htold hleft
          obtain ⟨hpending, hlines⟩ := hnone htold hleft
          exact ⟨hpending, .inl hskipped, hlines⟩
      | false =>
          by_cases hlast : line.getLast? = some '\\'
          · obtain ⟨told, left, hjoin, hnone⟩ := ih (pending ++ line.dropLast)
            refine ⟨told, left,
              fun rest => by rw [joinLines_continued hskipped hlast, hjoin], ?_⟩
            intro htold hleft
            obtain ⟨hpending, hlines⟩ := hnone htold hleft
            obtain ⟨hbefore, hfront⟩ := List.append_eq_nil_iff.mp hpending
            obtain ⟨front, hline⟩ := List.getLast?_eq_some_iff.mp hlast
            rw [hline, List.dropLast_concat] at hfront
            exact ⟨hbefore, .inr (by rw [hline, hfront]; rfl), hlines⟩
          · obtain ⟨told, left, hjoin, -⟩ := ih []
            exact ⟨(pending ++ line) :: told, left,
              fun rest => by rw [joinLines_ended hskipped hlast, hjoin]; rfl, nofun⟩

/-- What is pending begins the next instruction. -/
theorem exists_joinLines_eq_cons (hpending : pending ≠ []) (lines : List (List Char)) :
    ∃ first others, joinLines pending lines = first :: others ∧ pending <+: first := by
  induction lines generalizing pending with
  | nil => exact ⟨pending, [], by rw [joinLines, if_neg hpending], List.prefix_rfl⟩
  | cons line lines ih =>
      cases hskipped : isSkipped line with
      | true =>
          rw [joinLines_skipped hskipped]
          exact ih hpending
      | false =>
          by_cases hlast : line.getLast? = some '\\'
          · have hlonger : pending ++ line.dropLast ≠ [] := by simp [hpending]
            obtain ⟨first, others, hjoin, hprefix⟩ := ih hlonger
            rw [joinLines_continued hskipped hlast]
            exact ⟨first, others, hjoin, (List.prefix_append _ _).trans hprefix⟩
          · rw [joinLines_ended hskipped hlast]
            exact ⟨pending ++ line, _, rfl, List.prefix_append _ _⟩

/-- A line that tells something begins an instruction. -/
theorem exists_joinLines_cons_eq (h : ¬ Silent line) (lines : List (List Char)) :
    ∃ first others, joinLines [] (line :: lines) = first :: others ∧ first.head? = line.head? := by
  obtain ⟨hkept, hmark⟩ := not_or.mp h
  have hkept : isSkipped line = false := by simpa using hkept
  by_cases hlast : line.getLast? = some '\\'
  · obtain ⟨front, rfl⟩ := List.getLast?_eq_some_iff.mp hlast
    have hfront : front ≠ [] := by
      rintro rfl
      exact hmark rfl
    rw [joinLines_continued hkept hlast, List.dropLast_concat, List.nil_append]
    obtain ⟨first, others, hjoin, hprefix⟩ := exists_joinLines_eq_cons hfront lines
    obtain ⟨c, rest, rfl⟩ := List.exists_cons_of_ne_nil hfront
    obtain ⟨more, rfl⟩ := hprefix
    exact ⟨_, others, hjoin, rfl⟩
  · rw [joinLines_ended hkept hlast]
    exact ⟨_, _, rfl, rfl⟩

/-- A skipped line may as well be absent. -/
theorem joinLines_append_skipped (lines rest : List (List Char)) (h : isSkipped line = true) :
    joinLines pending (lines ++ line :: rest) = joinLines pending (lines ++ rest) := by
  obtain ⟨told, left, hjoin, -⟩ := exists_joinLines_append pending lines
  rw [hjoin, hjoin, joinLines_skipped h]

/-- Lines without line feeds are joined to instructions without any. -/
theorem newline_not_mem_joinLines (hpending : '\n' ∉ pending) (hlines : ∀ line ∈ lines, '\n' ∉ line) :
    ∀ told ∈ joinLines pending lines, '\n' ∉ told := by
  induction lines generalizing pending with
  | nil =>
      rw [joinLines]
      split
      · nofun
      · rw [List.forall_mem_singleton]
        exact hpending
  | cons line lines ih =>
      rw [List.forall_mem_cons] at hlines
      cases hskipped : isSkipped line with
      | true =>
          rw [joinLines_skipped hskipped]
          exact ih hpending hlines.2
      | false =>
          by_cases hlast : line.getLast? = some '\\'
          · rw [joinLines_continued hskipped hlast]
            refine ih ?_ hlines.2
            rw [List.mem_append, not_or]
            exact ⟨hpending, fun hmem => hlines.1 (List.dropLast_subset _ hmem)⟩
          · rw [joinLines_ended hskipped hlast, List.forall_mem_cons]
            refine ⟨?_, ih (by simp) hlines.2⟩
            rw [List.mem_append, not_or]
            exact ⟨hpending, hlines.1⟩

end Joining

/-! ## Rows that are meant -/

/-- A row as it is meant: a part of an instruction, which the next row continues or not. -/
structure Row where
  text : List Char
  continued : Bool := false

/-- A row as it is written. -/
def Row.line (row : Row) : List Char :=
  if row.continued then row.text ++ ['\\'] else row.text

/-- The instructions that some rows are meant to be. -/
def joinRows (pending : List Char) : List Row → List (List Char)
  | [] => if pending = [] then [] else [pending]
  | row :: rest =>
    if row.continued then joinRows (pending ++ row.text) rest
    else (pending ++ row.text) :: joinRows [] rest

/-- A row that is read as it is meant. -/
structure Row.Sound (row : Row) : Prop where
  kept : isSkipped row.line = false
  whole : row.line.getLast? ≠ some '\r'
  ended : row.continued = false → row.text.getLast? ≠ some '\\'

/-- How many characters a line adds to what is read. -/
def contribution (line : List Char) : Nat :=
  if isSkipped line then 0
  else if line.getLast? = some '\\' then line.length - 1
  else line.length

theorem length_flatten_joinLines (pending : List Char) (lines : List (List Char)) :
    (joinLines pending lines).flatten.length =
      pending.length + (lines.map contribution).sum := by
  induction lines generalizing pending with
  | nil =>
      rw [joinLines]
      split
      next hnone => simp [hnone]
      next => simp
  | cons line lines ih =>
      rw [List.map_cons, List.sum_cons, contribution]
      cases hskipped : isSkipped line with
      | true =>
          rw [joinLines_skipped hskipped, ih]
          simp
      | false =>
          by_cases hlast : line.getLast? = some '\\'
          · rw [joinLines_continued hskipped hlast, ih, List.length_append, List.length_dropLast]
            simp only [Bool.false_eq_true, if_false, if_pos hlast]
            omega
          · rw [joinLines_ended hskipped hlast, List.flatten_cons, List.length_append, ih,
              List.length_append]
            simp only [Bool.false_eq_true, if_false, if_neg hlast, List.length_nil]
            omega

/-- Rows are joined without any loss. -/
theorem flatten_joinRows (pending : List Char) (rows : List Row) :
    (joinRows pending rows).flatten = pending ++ rows.flatMap Row.text := by
  induction rows generalizing pending with
  | nil =>
      rw [joinRows]
      split
      next hnone => simp [hnone]
      next => simp
  | cons row rows ih =>
      rw [joinRows]
      split
      next => rw [ih, List.flatMap_cons, List.append_assoc]
      next => rw [List.flatten_cons, ih, List.flatMap_cons, List.append_assoc, List.nil_append]

/-- A row that is an instruction of its own. -/
def Row.single (text : String) : Row where
  text := text.toList

theorem joinRows_single (texts : List String) :
    joinRows [] (texts.map Row.single) = texts.map String.toList := by
  induction texts with
  | nil => rfl
  | cons text texts ih =>
      rw [List.map_cons, joinRows, if_neg (by simp [Row.single]), ih]
      rfl

theorem contribution_le_length (line : List Char) : contribution line ≤ line.length := by
  unfold contribution
  split
  · exact Nat.zero_le _
  · split <;> omega

/-- A row never adds more than was meant, and only a sound one adds as much. -/
theorem contribution_row {row : Row} (hne : row.text ≠ []) :
    contribution (Text.chopReturn row.line) ≤ row.text.length ∧
      (contribution (Text.chopReturn row.line) = row.text.length → row.Sound) := by
  have hlength : row.text.length ≠ 0 := mt List.eq_nil_of_length_eq_zero hne
  cases hcontinued : row.continued with
  | true =>
      have hline : row.line = row.text ++ ['\\'] := if_pos hcontinued
      have hlast : row.line.getLast? = some '\\' := by rw [hline, List.getLast?_concat]
      have hwhole : row.line.getLast? ≠ some '\r' := by
        rw [hlast]
        decide
      rw [Text.chopReturn_eq_self_iff.mpr hwhole, contribution, if_pos hlast]
      cases hskipped : isSkipped row.line with
      | true => exact ⟨Nat.zero_le _, fun heq => absurd heq.symm hlength⟩
      | false =>
          refine ⟨?_, fun _ => ⟨hskipped, hwhole, by simp [hcontinued]⟩⟩
          simp [hline]
  | false =>
      have hline : row.line = row.text := if_neg (by simp [hcontinued])
      rw [hline]
      by_cases hreturn : row.text.getLast? = some '\r'
      · have hchop : (Text.chopReturn row.text).length = row.text.length - 1 := by
          rw [Text.chopReturn, if_pos hreturn, List.length_dropLast]
        have hle := contribution_le_length (Text.chopReturn row.text)
        exact ⟨by omega, fun heq => by omega⟩
      · rw [Text.chopReturn_eq_self_iff.mpr hreturn]
        refine ⟨contribution_le_length _, fun heq => ?_⟩
        rw [contribution] at heq
        cases hskipped : isSkipped row.text with
        | true =>
            rw [if_pos hskipped] at heq
            exact absurd heq.symm hlength
        | false =>
            refine ⟨by rw [hline, hskipped], by rw [hline]; exact hreturn, fun _ hlast => ?_⟩
            rw [if_neg (by simp [hskipped]), if_pos hlast] at heq
            omega

theorem joinLines_of_sound {rows : List Row} (hrows : ∀ row ∈ rows, row.Sound)
    (pending : List Char) :
    joinLines pending (rows.map fun row => Text.chopReturn row.line) = joinRows pending rows := by
  induction rows generalizing pending with
  | nil => rfl
  | cons row rows ih =>
      rw [List.forall_mem_cons] at hrows
      obtain ⟨hkept, hwhole, hended⟩ := hrows.1
      rw [List.map_cons, Text.chopReturn_eq_self_iff.mpr hwhole, joinRows]
      cases hcontinued : row.continued with
      | true =>
          have hline : row.line = row.text ++ ['\\'] := if_pos hcontinued
          rw [joinLines_continued hkept (by rw [hline, List.getLast?_concat]), ih hrows.2, hline,
            List.dropLast_concat, if_pos rfl]
      | false =>
          have hline : row.line = row.text := if_neg (by simp [hcontinued])
          rw [joinLines_ended hkept (by rw [hline]; exact hended hcontinued), ih hrows.2, hline]
          rfl

/-- Rows are read as they are meant exactly when all of them are sound. -/
theorem joinLines_rows_iff {rows : List Row} (hne : ∀ row ∈ rows, row.text ≠ []) :
    joinLines [] (rows.map fun row => Text.chopReturn row.line) = joinRows [] rows ↔
      ∀ row ∈ rows, row.Sound := by
  refine ⟨fun hsame row hrow => ?_, fun hrows => joinLines_of_sound hrows []⟩
  have hle (other : Row) (hother : other ∈ rows) := (contribution_row (hne other hother)).1
  refine (contribution_row (hne row hrow)).2 (Nat.le_antisymm (hle row hrow) ?_)
  -- One row that adds less could not be made up for by the others.
  by_contra hless
  have hsum := List.sum_lt_sum _ _ hle ⟨row, hrow, Nat.lt_of_not_le hless⟩
  have hlength := congrArg (·.flatten.length) hsame
  simp only [length_flatten_joinLines, flatten_joinRows, List.map_map, Function.comp_def,
    List.length_append, List.length_flatMap] at hlength
  omega

end SealedBuild.Containerfile
