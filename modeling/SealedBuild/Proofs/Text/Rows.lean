import Mathlib.Data.List.Basic
import Mathlib.Data.List.TakeWhile

/-!
# Rows that hold line feeds

A text of rows, each with a line feed behind it, splits at its line feeds into the parts of its
rows. Where a mark tells the first part of a row from all others, the rows can be put together
again from the parts.
-/

namespace SealedBuild.Text

theorem splitOn_newline_rows (rows : List (List Char)) :
    (rows.flatMap (· ++ ['\n'])).splitOn '\n' = rows.flatMap (·.splitOn '\n') ++ [[]] := by
  induction rows with
  | nil => simp
  | cons row rows ih =>
      rw [List.flatMap_cons, List.flatMap_cons, List.append_assoc, List.singleton_append,
        List.splitOn_append_cons_self, ih, List.append_assoc]

/-- Equal texts have the same parts. -/
theorem parts_eq_of_rows_eq {rows rows' : List (List Char)}
    (h : rows.flatMap (· ++ ['\n']) = rows'.flatMap (· ++ ['\n'])) :
    rows.flatMap (·.splitOn '\n') = rows'.flatMap (·.splitOn '\n') := by
  have hparts := congrArg (List.splitOn '\n') h
  rw [splitOn_newline_rows, splitOn_newline_rows] at hparts
  exact List.append_cancel_right hparts

/-- Rows without line feeds are the parts, with an empty one behind the last. -/
theorem splitOn_rows_of_not_mem {rows : List (List Char)} (h : ∀ row ∈ rows, '\n' ∉ row) :
    (rows.flatMap (· ++ ['\n'])).splitOn '\n' = rows ++ [[]] := by
  have hparts : rows.flatMap (·.splitOn '\n') = rows.flatMap (fun row => [row]) :=
    List.flatMap_congr fun row hrow => List.splitOn_eq_singleton (h row hrow)
  rw [splitOn_newline_rows, hparts, List.flatMap_singleton']

theorem splitOn_append_of_not_mem {front : List Char} (hfront : '\n' ∉ front) (rest : List Char) :
    (front ++ rest).splitOn '\n' = (rest.splitOn '\n').modifyHead (front ++ ·) := by
  induction front with
  | nil => exact (congrFun List.modifyHead_id _).symm
  | cons c front ih =>
      obtain ⟨hc, hfront⟩ := not_or.mp (mt List.mem_cons.mpr hfront)
      rw [List.cons_append, List.splitOn_cons_eq_if_modifyHead, if_neg (by simpa using Ne.symm hc),
        ih hfront, List.modifyHead_modifyHead]
      rfl

theorem newline_not_mem_intercalate_iff {separator : List Char} (h : '\n' ∉ separator)
    (texts : List (List Char)) :
    '\n' ∉ separator.intercalate texts ↔ ∀ text ∈ texts, '\n' ∉ text := by
  induction texts with
  | nil => simp
  | cons first rest ih =>
      cases rest with
      | nil => simp
      | cons second rest =>
          rw [List.intercalate_cons_cons, List.mem_append, List.mem_append, List.forall_mem_cons,
            ← ih]
          simp [h]

/-- Between two separators, each of the texts stands between two of them. -/
theorem infix_intercalate {α : Type} (separator : List α) {text : List α} {texts : List (List α)}
    (h : text ∈ texts) :
    separator ++ text ++ separator <:+: separator ++ separator.intercalate texts ++ separator := by
  induction texts with
  | nil => cases h
  | cons first rest ih =>
      cases rest with
      | nil =>
          obtain rfl := List.mem_singleton.mp h
          exact ⟨[], [], by simp⟩
      | cons second rest =>
          rw [List.intercalate_cons_cons]
          rcases List.mem_cons.mp h with rfl | hrest
          · exact ⟨[], separator.intercalate (second :: rest) ++ separator, by simp⟩
          · exact (ih hrest).trans ⟨separator ++ first, [], by simp⟩

/-! ## Marked groups -/

section Headed

variable {α : Type} {marked : α → Bool}

/-- The first element of a group is marked, and no other. -/
def Headed (marked : α → Bool) (group : List α) : Prop :=
  ∃ first rest, group = first :: rest ∧ marked first = true ∧ ∀ x ∈ rest, marked x = false

/-- The unmarked elements before some groups end where the groups begin. -/
theorem takeWhile_append_flatten {rest : List α} {groups : List (List α)}
    (hrest : ∀ x ∈ rest, marked x = false) (hgroups : ∀ group ∈ groups, Headed marked group) :
    (rest ++ groups.flatten).takeWhile (fun x => !marked x) = rest := by
  rw [List.takeWhile_append_of_pos (by simpa using hrest)]
  cases groups with
  | nil => simp
  | cons group groups =>
      obtain ⟨first, others, rfl, hfirst, _⟩ := hgroups group List.mem_cons_self
      simp [hfirst]

/-- Groups are known by what they are together. -/
theorem eq_of_flatten_eq {groups groups' : List (List α)}
    (hgroups : ∀ group ∈ groups, Headed marked group)
    (hgroups' : ∀ group ∈ groups', Headed marked group)
    (h : groups.flatten = groups'.flatten) : groups = groups' := by
  induction groups generalizing groups' with
  | nil =>
      cases groups' with
      | nil => rfl
      | cons group' rest' =>
          obtain ⟨first', others', rfl, _⟩ := hgroups' group' List.mem_cons_self
          cases h
  | cons group rest ih =>
      obtain ⟨first, others, rfl, _, hothers⟩ := hgroups group List.mem_cons_self
      cases groups' with
      | nil => cases h
      | cons group' rest' =>
          obtain ⟨first', others', rfl, _, hothers'⟩ := hgroups' group' List.mem_cons_self
          rw [List.forall_mem_cons] at hgroups hgroups'
          rw [List.flatten_cons, List.flatten_cons, List.cons_append, List.cons_append,
            List.cons.injEq] at h
          obtain ⟨rfl, h⟩ := h
          have hsame := congrArg (List.takeWhile fun x => !marked x) h
          rw [takeWhile_append_flatten hothers hgroups.2,
            takeWhile_append_flatten hothers' hgroups'.2] at hsame
          rw [hsame] at h ⊢
          rw [ih hgroups.2 hgroups'.2 (List.append_cancel_left h)]

end Headed

end SealedBuild.Text
