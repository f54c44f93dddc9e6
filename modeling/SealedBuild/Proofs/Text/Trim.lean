import Mathlib.Data.List.TakeWhile
import SealedBuild.Text.Blank

/-!
# Laws of trimming

Trimming takes white space from the ends of a text and nothing else, so that a text between gaps
is found again where it has no white space at its own ends. The first word of a text is known by
the gap before it and the blank behind it.
-/

namespace SealedBuild.Text

/-- White space alone. -/
def IsGap (gap : List Char) : Prop :=
  ∀ c ∈ gap, isBlank c = true

/-- No white space at either end. -/
structure IsTrimmed (text : List Char) : Prop where
  first : ∀ c ∈ text.head?, isBlank c = false
  last : ∀ c ∈ text.getLast?, isBlank c = false

/-- A run of characters other than white space. -/
structure IsWord (word : List Char) : Prop where
  nonempty : word ≠ []
  shown : ∀ c ∈ word, isBlank c = false

variable {text gap word rest : List Char} {c : Char}

/-- The printed characters of ASCII are not blank. -/
theorem isBlank_of_printed (hlow : 0x21 ≤ c.toNat) (hhigh : c.toNat ≤ 0x7E) :
    isBlank c = false := by
  simp only [isBlank, Bool.or_eq_false_iff, Bool.and_eq_false_iff, decide_eq_false_iff_not,
    beq_eq_false_iff_ne]
  omega

theorem IsTrimmed.of_forall (h : ∀ c ∈ text, isBlank c = false) : IsTrimmed text where
  first c hc := h c (List.mem_of_mem_head? hc)
  last c hc := h c (List.mem_of_getLast? hc)

theorem isGap_nil : IsGap [] :=
  List.forall_mem_nil _

theorem isGap_singleton (h : isBlank c = true) : IsGap [c] := by
  simpa [IsGap] using h

theorem IsGap.reverse (h : IsGap gap) : IsGap gap.reverse :=
  fun c hc => h c (List.mem_reverse.mp hc)

/-- A character that is not blank is in no gap. -/
theorem IsGap.not_mem (h : IsGap gap) (hc : isBlank c = false) : c ∉ gap := by
  intro hmem
  rw [h c hmem] at hc
  cases hc

/-- What stands before a character that is not blank is no part of a gap behind it. -/
theorem IsGap.exists_of_append_eq {front : List Char} (hgap : IsGap gap) (hc : isBlank c = false)
    (h : text ++ gap = front ++ c :: rest) :
    ∃ more, text = front ++ c :: more ∧ rest = more ++ gap := by
  rcases List.append_eq_append_iff.mp h with ⟨more, -, hmore⟩ | ⟨more, htext, hmore⟩
  · exact absurd (show c ∈ gap by simp [hmore]) (hgap.not_mem hc)
  · cases more with
    | nil =>
        rw [List.nil_append] at hmore
        exact absurd (hmore ▸ List.mem_cons_self) (hgap.not_mem hc)
    | cons d more =>
        rw [List.cons_append, List.cons.injEq] at hmore
        exact ⟨more, by rw [htext, hmore.1], hmore.2⟩

theorem trimStart_gap_append (h : IsGap gap) (text : List Char) :
    trimStart (gap ++ text) = trimStart text :=
  List.dropWhile_append_of_pos h

theorem trimStart_cons (hc : isBlank c = false) (rest : List Char) :
    trimStart (c :: rest) = c :: rest := by
  rw [trimStart, List.dropWhile_cons, hc]
  rfl

theorem trimStart_gap_cons (h : IsGap gap) (hc : isBlank c = false) (rest : List Char) :
    trimStart (gap ++ c :: rest) = c :: rest := by
  rw [trimStart_gap_append h, trimStart_cons hc]

/-- What begins behind a gap is known with the whole text. -/
theorem IsGap.cons_eq_cons {gap' rest' : List Char} {d : Char} (hgap : IsGap gap)
    (hgap' : IsGap gap') (hc : isBlank c = false) (hd : isBlank d = false)
    (h : gap ++ c :: rest = gap' ++ d :: rest') : c = d ∧ rest = rest' := by
  rw [← List.cons.injEq, ← trimStart_gap_cons hgap hc, h, trimStart_gap_cons hgap' hd]

theorem trimStart_eq_self (h : ∀ c ∈ text.head?, isBlank c = false) : trimStart text = text := by
  cases text with
  | nil => rfl
  | cons c rest => exact trimStart_cons (h c rfl) rest

/-- What is left begins behind a gap, and not with white space. -/
theorem exists_gap_append_trimStart (text : List Char) :
    ∃ gap, IsGap gap ∧ text = gap ++ trimStart text :=
  ⟨text.takeWhile isBlank, fun _ hc => List.mem_takeWhile_imp hc,
    List.takeWhile_append_dropWhile.symm⟩

theorem trimEnd_append_gap (text : List Char) (h : IsGap gap) :
    trimEnd (text ++ gap) = trimEnd text := by
  rw [trimEnd, List.reverse_append, List.dropWhile_append_of_pos h.reverse]
  rfl

theorem trimEnd_eq_self (h : ∀ c ∈ text.getLast?, isBlank c = false) : trimEnd text = text := by
  have hstart : trimStart text.reverse = text.reverse :=
    trimStart_eq_self (by rwa [List.head?_reverse])
  rw [trimStart] at hstart
  rw [trimEnd, hstart, List.reverse_reverse]

theorem exists_trimEnd_append_gap (text : List Char) :
    ∃ gap, IsGap gap ∧ text = trimEnd text ++ gap := by
  obtain ⟨gap, hgap, htext⟩ := exists_gap_append_trimStart text.reverse
  refine ⟨gap.reverse, hgap.reverse, ?_⟩
  have hback := congrArg List.reverse htext
  rwa [List.reverse_reverse, List.reverse_append] at hback

/-- Nothing is taken from before a character that stays. -/
theorem trimEnd_append (hlast : text.getLast? = some c) (hc : isBlank c = false)
    (rest : List Char) : trimEnd (text ++ rest) = text ++ trimEnd rest := by
  have hkept : text.reverse.dropWhile isBlank = text.reverse :=
    trimStart_eq_self (by simpa [hlast] using hc)
  rw [trimEnd, trimEnd, List.reverse_append, List.dropWhile_append]
  split
  · next hnone =>
    rw [List.isEmpty_iff] at hnone
    rw [hnone, hkept, List.reverse_reverse, List.reverse_nil, List.append_nil]
  · rw [List.reverse_append, List.reverse_reverse]

theorem trim_cons (hc : isBlank c = false) (rest : List Char) :
    trim (c :: rest) = c :: trimEnd rest := by
  rw [trim, trimStart_cons hc, ← List.singleton_append, trimEnd_append List.getLast?_singleton hc,
    List.singleton_append]

theorem trim_append_gap (text : List Char) (h : IsGap gap) : trim (text ++ gap) = trim text := by
  rw [trim, trim, trimStart, List.dropWhile_append]
  split
  · next hnone =>
    rw [List.isEmpty_iff] at hnone
    rw [trimStart, hnone, List.dropWhile_eq_nil_iff.mpr h]
  · exact trimEnd_append_gap _ h

theorem trim_gap_append (h : IsGap gap) (text : List Char) : trim (gap ++ text) = trim text := by
  rw [trim, trimStart_gap_append h, trim]

theorem trim_eq_self (h : IsTrimmed text) : trim text = text := by
  rw [trim, trimStart_eq_self h.first, trimEnd_eq_self h.last]

theorem trim_trimEnd (text : List Char) : trim (trimEnd text) = trim text := by
  obtain ⟨gap, hgap, htext⟩ := exists_trimEnd_append_gap text
  calc trim (trimEnd text)
      = trim (trimEnd text ++ gap) := (trim_append_gap _ hgap).symm
    _ = trim text := by rw [← htext]

/-! ## The first word -/

theorem takeWhile_word (h : ∀ c ∈ word, isBlank c = false)
    (hrest : ∀ c ∈ rest.head?, isBlank c = true) :
    (word ++ rest).takeWhile (fun c => !isBlank c) = word := by
  rw [List.takeWhile_append_of_pos (by simpa using h)]
  cases rest with
  | nil => simp
  | cons c rest => simp [hrest c rfl]

theorem firstWord?_eq_some_iff :
    firstWord? text = some word ↔
      IsWord word ∧ ∃ gap rest, IsGap gap ∧ (∀ c ∈ rest.head?, isBlank c = true) ∧
        text = gap ++ word ++ rest := by
  constructor
  · intro h
    obtain ⟨gap, hgap, htext⟩ := exists_gap_append_trimStart text
    have hsplit := List.takeWhile_append_dropWhile (p := fun c => !isBlank c) (l := trimStart text)
    have hstop := List.head?_dropWhile_not (fun c => !isBlank c) (trimStart text)
    have hshown : ∀ c ∈ (trimStart text).takeWhile (fun c => !isBlank c), isBlank c = false :=
      fun c hc => by simpa using List.mem_takeWhile_imp hc
    rw [firstWord?] at h
    generalize (trimStart text).takeWhile (fun c => !isBlank c) = taken at h hsplit hshown
    generalize (trimStart text).dropWhile (fun c => !isBlank c) = rest at hsplit hstop
    cases taken with
    | nil => cases h
    | cons c others =>
        cases h
        refine ⟨⟨List.cons_ne_nil c others, hshown⟩, gap, rest, hgap, fun d hd => ?_, ?_⟩
        · rw [Option.mem_def.mp hd] at hstop
          simpa using hstop
        · rw [List.append_assoc, hsplit]
          exact htext
  · rintro ⟨hword, gap, rest, hgap, hrest, rfl⟩
    obtain ⟨c, others, rfl⟩ := List.exists_cons_of_ne_nil hword.nonempty
    have hc := hword.shown c List.mem_cons_self
    rw [List.append_assoc, firstWord?, List.cons_append, trimStart_gap_cons hgap hc,
      ← List.cons_append, takeWhile_word hword.shown hrest]

end SealedBuild.Text
