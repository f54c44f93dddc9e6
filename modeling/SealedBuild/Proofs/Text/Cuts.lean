import Mathlib.Data.List.Basic
import SealedBuild.Text.Split

/-!
# Laws of cuts

Where a text is cut at the first and at the last occurrence of a separator, what is left behind a
text that it begins with, and where a part of it can lie.
-/

namespace SealedBuild.Text

variable {separator : Char} {text before after : List Char}

theorem cutFirst_append_cons (hbefore : separator ∉ before) :
    cutFirst separator (before ++ separator :: after) = some (before, after) := by
  induction before with
  | nil => simp [cutFirst]
  | cons c before ih =>
      obtain ⟨hc, hbefore⟩ := not_or.mp (mt List.mem_cons.mpr hbefore)
      rw [List.cons_append, cutFirst, if_neg (Ne.symm hc), ih hbefore, Option.map_some]

theorem cutFirst_eq_some_iff :
    cutFirst separator text = some (before, after) ↔
      text = before ++ separator :: after ∧ separator ∉ before := by
  constructor
  · intro h
    induction text generalizing before with
    | nil => cases h
    | cons c rest ih =>
        rw [cutFirst] at h
        by_cases hc : c = separator
        · rw [if_pos hc] at h
          cases h
          exact ⟨by rw [hc, List.nil_append], List.not_mem_nil⟩
        · rw [if_neg hc] at h
          obtain ⟨⟨front, back⟩, hrest, hparts⟩ := Option.map_eq_some_iff.mp h
          cases hparts
          obtain ⟨rfl, hfront⟩ := ih hrest
          exact ⟨rfl, by simp [Ne.symm hc, hfront]⟩
  · rintro ⟨rfl, hbefore⟩
    exact cutFirst_append_cons hbefore

theorem cutFirst_eq_none_iff : cutFirst separator text = none ↔ separator ∉ text := by
  induction text with
  | nil => simp [cutFirst]
  | cons c rest ih =>
      rw [cutFirst]
      by_cases hc : c = separator
      · simp [hc]
      · rw [if_neg hc, Option.map_eq_none_iff, ih, List.mem_cons, not_or,
          and_iff_right (Ne.symm hc)]

theorem cutLast_eq_none_iff : cutLast separator text = none ↔ separator ∉ text := by
  induction text with
  | nil => simp [cutLast]
  | cons c rest ih =>
      rw [cutLast]
      cases hrest : cutLast separator rest with
      | some parts =>
          have hmem : separator ∈ rest := by
            by_contra hnot
            rw [ih.mpr hnot] at hrest
            cases hrest
          simp [hmem]
      | none =>
          have hnot := ih.mp hrest
          by_cases hc : c = separator
          · simp [hc]
          · simp [hc, hnot, Ne.symm hc]

theorem cutLast_append_cons (hafter : separator ∉ after) :
    cutLast separator (before ++ separator :: after) = some (before, after) := by
  induction before with
  | nil => simp [cutLast, cutLast_eq_none_iff.mpr hafter]
  | cons c before ih => simp [cutLast, ih]

theorem cutLast_eq_some_iff :
    cutLast separator text = some (before, after) ↔
      text = before ++ separator :: after ∧ separator ∉ after := by
  constructor
  · intro h
    induction text generalizing before with
    | nil => simp [cutLast] at h
    | cons c rest ih =>
        rw [cutLast] at h
        cases hrest : cutLast separator rest with
        | some parts =>
            obtain ⟨front, back⟩ := parts
            simp only [hrest, Option.some.injEq, Prod.mk.injEq] at h
            obtain ⟨rfl, rfl⟩ := h
            obtain ⟨rfl, hback⟩ := ih hrest
            exact ⟨rfl, hback⟩
        | none =>
            simp only [hrest] at h
            split at h
            · next hc =>
              simp only [Option.some.injEq, Prod.mk.injEq] at h
              obtain ⟨rfl, rfl⟩ := h
              exact ⟨by rw [hc, List.nil_append], cutLast_eq_none_iff.mp hrest⟩
            · cases h
  · rintro ⟨rfl, hafter⟩
    exact cutLast_append_cons hafter

theorem after?_eq_some_iff {start rest : List Char} :
    after? start text = some rest ↔ text = start ++ rest := by
  induction start generalizing text with
  | nil => simp [after?]
  | cons s start ih =>
      cases text with
      | nil => simp [after?]
      | cons c text =>
          rw [after?]
          by_cases hc : s = c
          · rw [if_pos hc, ih, hc, List.cons_append, List.cons.injEq, and_iff_right rfl]
          · rw [if_neg hc, List.cons_append, List.cons.injEq]
            exact iff_of_false nofun fun h => hc h.1.symm

theorem after?_append (start rest : List Char) : after? start (start ++ rest) = some rest :=
  after?_eq_some_iff.mpr rfl

/-! ## Parts of a text -/

theorem contains_iff {part : List Char} : contains part text = true ↔ part <:+: text := by
  induction text with
  | nil => simp [contains]
  | cons c rest ih =>
      rw [contains, Bool.or_eq_true, ih, List.isPrefixOf_iff_prefix, List.infix_cons_iff]

section Infix

variable {c : Char} {part front back : List Char}

/-- A part begins where its first character can be. -/
theorem cons_infix_of_not_mem (hc : c ∉ front) (h : c :: part <:+: front ++ back) :
    c :: part <:+: back := by
  obtain ⟨lead, tail, hparts⟩ := h
  rw [List.append_assoc] at hparts
  rcases List.append_eq_append_iff.mp hparts with ⟨more, hfront, hmore⟩ | ⟨more, -, hback⟩
  · cases more with
    | nil => exact ⟨[], tail, hmore⟩
    | cons d more =>
        rw [List.cons_append, List.cons_append, List.cons.injEq] at hmore
        exact absurd (by simp [hfront, hmore.1]) hc
  · exact ⟨more, tail, by rw [hback, List.append_assoc]⟩

/-- A part ends where its last character can be. -/
theorem concat_infix_of_not_mem (hc : c ∉ back) (h : part ++ [c] <:+: front ++ back) :
    part ++ [c] <:+: front := by
  have hreverse := List.reverse_infix.mpr h
  rw [List.reverse_append, List.reverse_append, List.reverse_singleton, List.singleton_append]
    at hreverse
  have hfront := cons_infix_of_not_mem (by simpa using hc) hreverse
  rw [← List.reverse_infix, List.reverse_append, List.reverse_singleton, List.singleton_append]
  exact hfront

/-- A part without a character lies on one side of it. -/
theorem infix_or_infix_of_not_mem (hc : c ∉ part) (h : part <:+: front ++ c :: back) :
    part <:+: front ∨ part <:+: back := by
  obtain ⟨lead, tail, hparts⟩ := h
  rw [List.append_assoc] at hparts
  rcases List.append_eq_append_iff.mp hparts with ⟨more, hfront, hmore⟩ | ⟨more, hlead, hback⟩
  · rcases List.append_eq_append_iff.mp hmore with ⟨gap, hgap, -⟩ | ⟨gap, hgap, hrest⟩
    · exact .inl ⟨lead, gap, by rw [hfront, hgap, List.append_assoc]⟩
    · cases gap with
      | nil => exact .inl ⟨lead, [], by simp [hfront, hgap]⟩
      | cons d gap =>
          rw [List.cons_append, List.cons.injEq] at hrest
          exact absurd (by simp [hgap, hrest.1]) hc
  · cases more with
    | nil =>
        cases part with
        | nil => exact .inl (List.nil_infix)
        | cons d part =>
            rw [List.nil_append, List.cons_append, List.cons.injEq] at hback
            exact absurd (by simp [hback.1]) hc
    | cons d more =>
        rw [List.cons_append, List.cons.injEq] at hback
        exact .inr ⟨more, tail, by rw [hback.2, List.append_assoc]⟩

end Infix

end SealedBuild.Text
