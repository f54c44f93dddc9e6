import SealedBuild.Text.Blank
import SealedBuild.Text.Quoted

/-!
# Laws of lines and words

A text that is put together row by row, each with a line feed behind it, has these rows as
its lines, unless a row itself holds a line feed or ends in a carriage return. The words of a
line are what stands between its blanks.
-/

namespace SealedBuild.Text

/-! ## Lines -/

/-- A row without the carriage return that a line end takes with it. -/
def chopReturn (row : List Char) : List Char :=
  if row.getLast? = some '\r' then row.dropLast else row

theorem chopReturn_cons {c : Char} {row : List Char} (h : c ≠ '\r' ∨ row ≠ []) :
    chopReturn (c :: row) = c :: chopReturn row := by
  cases row with
  | nil =>
      have hreturn : c ≠ '\r' := by simpa using h
      simp [chopReturn, hreturn]
  | cons d row =>
      unfold chopReturn
      rw [List.getLast?_cons_cons, List.dropLast_cons_cons]
      split <;> rfl

theorem chopReturn_eq_self_iff {row : List Char} :
    chopReturn row = row ↔ row.getLast? ≠ some '\r' := by
  unfold chopReturn
  constructor
  · intro hsame hreturn
    rw [if_pos hreturn] at hsame
    have hlength := congrArg List.length hsame
    rw [List.length_dropLast] at hlength
    have hnil : row = [] := List.eq_nil_of_length_eq_zero (by omega)
    rw [hnil] at hreturn
    cases hreturn
  · intro hreturn
    rw [if_neg hreturn]

theorem chopReturn_subset (row : List Char) : chopReturn row ⊆ row := by
  unfold chopReturn
  split
  · exact List.dropLast_subset row
  · exact List.Subset.refl row

theorem lines_cons {c : Char} {rest : List Char} (hline : c ≠ '\n')
    (hreturn : c ≠ '\r' ∨ rest.head? ≠ some '\n') :
    lines (c :: rest) = match lines rest with
      | [] => [[c]]
      | line :: more => (c :: line) :: more := by
  apply lines.eq_4
  · exact hline
  · rintro others rfl rfl
    simp at hreturn

/-- A row becomes the first line. -/
theorem lines_append_newline {row : List Char} (hrow : '\n' ∉ row) (rest : List Char) :
    lines (row ++ '\n' :: rest) = chopReturn row :: lines rest := by
  induction row with
  | nil => rfl
  | cons c row ih =>
      obtain ⟨hline, hrow⟩ := not_or.mp (mt List.mem_cons.mpr hrow)
      -- A carriage return that ends the row goes with the line feed behind it.
      by_cases hlast : c = '\r' ∧ row = []
      · obtain ⟨rfl, rfl⟩ := hlast
        rfl
      · have hlast' : c ≠ '\r' ∨ row ≠ [] := Classical.not_and_iff_not_or_not.mp hlast
        rw [List.cons_append, lines_cons (Ne.symm hline), ih hrow, chopReturn_cons hlast']
        refine hlast'.imp_right fun hne => ?_
        obtain ⟨d, row, rfl⟩ := List.exists_cons_of_ne_nil hne
        intro hhead
        cases hhead
        exact hrow List.mem_cons_self

theorem lines_rows {rows : List (List Char)} (hrows : ∀ row ∈ rows, '\n' ∉ row) :
    lines (rows.flatMap (· ++ ['\n'])) = rows.map chopReturn := by
  induction rows with
  | nil => rfl
  | cons row rows ih =>
      rw [List.forall_mem_cons] at hrows
      rw [List.flatMap_cons, List.append_assoc, List.singleton_append,
        lines_append_newline hrows.1, ih hrows.2, List.map_cons]

theorem length_lines_cons (c : Char) (rest : List Char) :
    (lines (c :: rest)).length =
      if c = '\n' then (lines rest).length + 1 else max 1 (lines rest).length := by
  by_cases hline : c = '\n'
  · rw [if_pos hline, hline]
    rfl
  · rw [if_neg hline]
    -- A line end of two characters ends one line, as its line feed alone would.
    by_cases hreturn : c = '\r' ∧ rest.head? = some '\n'
    · obtain ⟨rfl, hhead⟩ := hreturn
      obtain ⟨others, rfl⟩ := List.head?_eq_some_iff.mp hhead
      change (lines others).length + 1 = max 1 ((lines others).length + 1)
      omega
    · rw [lines_cons hline (Classical.not_and_iff_not_or_not.mp hreturn)]
      cases lines rest with
      | nil => rfl
      | cons line more =>
          simp only [List.length_cons]
          omega

/-- Every line feed ends a line. -/
theorem length_lines_append_newline (row rest : List Char) :
    (lines (row ++ '\n' :: rest)).length = row.count '\n' + 1 + (lines rest).length := by
  induction row with
  | nil => exact Nat.add_comm _ _
  | cons c row ih =>
      rw [List.cons_append, length_lines_cons, ih, List.count_cons]
      by_cases hline : c = '\n'
      · simp only [hline, if_true, beq_self_eq_true]
        omega
      · simp only [hline, if_false, beq_iff_eq]
        omega

theorem length_lines_rows (rows : List (List Char)) :
    (lines (rows.flatMap (· ++ ['\n']))).length = rows.length + rows.flatten.count '\n' := by
  induction rows with
  | nil => rfl
  | cons row rows ih =>
      rw [List.flatMap_cons, List.append_assoc, List.singleton_append,
        length_lines_append_newline, ih, List.flatten_cons, List.count_append, List.length_cons]
      omega

/-- There are as many lines as rows only if no row holds a line feed. -/
theorem not_mem_of_length_lines {rows : List (List Char)}
    (h : (lines (rows.flatMap (· ++ ['\n']))).length = rows.length) :
    ∀ row ∈ rows, '\n' ∉ row := by
  rw [length_lines_rows, Nat.add_eq_left, List.count_eq_zero] at h
  intro row hrow hmem
  exact h (List.mem_flatten.mpr ⟨row, hrow, hmem⟩)

theorem eq_false_of_mem_splitOnP {text piece : List Char} {separates : Char → Bool}
    (hpiece : piece ∈ text.splitOnP separates) : ∀ c ∈ piece, separates c = false := by
  induction text generalizing piece with
  | nil =>
      rw [List.splitOnP_nil, List.mem_singleton] at hpiece
      rw [hpiece]
      nofun
  | cons d text ih =>
      rw [List.splitOnP_cons_eq_if_modifyHead] at hpiece
      by_cases hseparates : separates d = true
      · rw [if_pos hseparates] at hpiece
        rcases List.mem_cons.mp hpiece with rfl | hpiece
        · nofun
        · exact ih hpiece
      · rw [if_neg hseparates] at hpiece
        obtain ⟨first, others, hsplit⟩ :=
          List.exists_cons_of_ne_nil (List.splitOnP_ne_nil separates text)
        rw [hsplit] at ih hpiece
        rcases List.mem_cons.mp hpiece with rfl | hpiece
        · rw [List.forall_mem_cons]
          exact ⟨by simpa using hseparates, ih List.mem_cons_self⟩
        · exact ih (List.mem_cons_of_mem _ hpiece)

/-- A text splits at its line feeds into rows without any. -/
theorem newline_not_mem_of_mem_splitOn {text part : List Char}
    (hpart : part ∈ text.splitOn '\n') : '\n' ∉ part := by
  rw [List.splitOn_eq_splitOnP] at hpart
  intro hmem
  cases eq_false_of_mem_splitOnP hpart '\n' hmem

theorem flatMap_splitOn_newline (text : List Char) :
    (text.splitOn '\n').flatMap (· ++ ['\n']) = text ++ ['\n'] := by
  induction text with
  | nil => rfl
  | cons c text ih =>
      rw [List.splitOn_cons_eq_if_modifyHead]
      by_cases hline : c = '\n'
      · rw [if_pos (by simpa using hline), List.flatMap_cons, ih, hline]
        rfl
      · obtain ⟨first, others, hsplit⟩ :=
          List.exists_cons_of_ne_nil (List.splitOn_ne_nil '\n' text)
        rw [hsplit, List.flatMap_cons] at ih
        rw [if_neg (by simpa using hline), hsplit, List.modifyHead_cons, List.flatMap_cons,
          List.cons_append, List.cons_append, ih, List.cons_append]

/-- Whatever the rows hold, the lines are their parts between line feeds. -/
theorem lines_rows_parts (rows : List (List Char)) :
    lines (rows.flatMap (· ++ ['\n'])) =
      (rows.flatMap (·.splitOn '\n')).map chopReturn := by
  have hparts : rows.flatMap (· ++ ['\n']) =
      (rows.flatMap (·.splitOn '\n')).flatMap (· ++ ['\n']) := by
    simp only [List.flatMap_assoc, flatMap_splitOn_newline]
  rw [hparts, lines_rows]
  intro part hpart
  obtain ⟨row, -, hpart⟩ := List.mem_flatMap.mp hpart
  exact newline_not_mem_of_mem_splitOn hpart

theorem newline_not_mem_of_mem_lines_rows {line : List Char} {rows : List (List Char)}
    (hline : line ∈ lines (rows.flatMap (· ++ ['\n']))) : '\n' ∉ line := by
  rw [lines_rows_parts] at hline
  obtain ⟨part, hpart, rfl⟩ := List.mem_map.mp hline
  obtain ⟨row, -, hpart⟩ := List.mem_flatMap.mp hpart
  exact fun hmem => newline_not_mem_of_mem_splitOn hpart (chopReturn_subset part hmem)

/-- A row without a line feed is a line, whatever the other rows hold. -/
theorem chopReturn_mem_lines_rows {row : List Char} {rows : List (List Char)} (hmem : row ∈ rows)
    (hrow : '\n' ∉ row) : chopReturn row ∈ lines (rows.flatMap (· ++ ['\n'])) := by
  rw [lines_rows_parts]
  refine List.mem_map_of_mem (List.mem_flatMap.mpr ⟨row, hmem, ?_⟩)
  rw [List.splitOn_eq_singleton hrow]
  exact List.mem_singleton_self row

/-- The lines of a string. -/
def linesOf (text : String) : List String :=
  (lines text.toList).map String.ofList

/-! ## Words -/

/-- The maximal runs of characters that are not white space. -/
def words (text : List Char) : List (List Char) :=
  (text.splitOnP isBlank).filter (· ≠ [])

/-- The words of a string. -/
def wordsOf (text : String) : List String :=
  (words text.toList).map String.ofList

/-- Whether a text has no white space can be told by evaluation. -/
theorem not_blank_iff_all {text : List Char} :
    (∀ c ∈ text, isBlank c = false) ↔ text.all (fun c => !isBlank c) = true := by
  simp only [List.all_eq_true, Bool.not_eq_true']

theorem isBlank_of_mem_words {text word : List Char} (hword : word ∈ words text) :
    ∀ c ∈ word, isBlank c = false :=
  eq_false_of_mem_splitOnP (List.mem_filter.mp hword).1

theorem words_eq_singleton {word : List Char} (hne : word ≠ [])
    (hword : ∀ c ∈ word, isBlank c = false) : words word = [word] := by
  rw [words, List.splitOnP_eq_singleton hword]
  simp [hne]

theorem words_append_blank (front rest : List Char) {c : Char} (hblank : isBlank c = true) :
    words (front ++ c :: rest) = words front ++ words rest := by
  rw [words, List.splitOnP_append_cons front rest hblank, List.filter_append]
  rfl

/-! ## Quoted values -/

theorem Quoted.mem_encode {c : Char} (hc : c ≠ '\\') (text : List Char) :
    c ∈ encode text ↔ c ∈ text := by
  induction text with
  | nil => rfl
  | cons d text ih =>
      rw [encode]
      split <;> simp [ih, hc]

theorem mem_quoted {c : Char} (hslash : c ≠ '\\') (hquote : c ≠ '"') (text : String) :
    c ∈ (quoted text).toList ↔ c ∈ text.toList := by
  simp [quoted, Quoted.mem_encode hslash, hquote]

/-- A text without quotes and backslashes stands between its quotes as it is. -/
theorem quoted_eq_of_plain {text : String} (h : ∀ c ∈ text.toList, c ≠ '"' ∧ c ≠ '\\') :
    quoted text = "\"" ++ text ++ "\"" := by
  have hencode : ∀ {text : List Char}, (∀ c ∈ text, c ≠ '"' ∧ c ≠ '\\') →
      Quoted.encode text = text := by
    intro text h
    induction text with
    | nil => rfl
    | cons c text ih =>
        rw [List.forall_mem_cons] at h
        rw [Quoted.encode, if_neg (not_or.mpr h.1), ih h.2]
  rw [quoted, hencode h, ← String.toList_inj]
  simp

theorem getLast?_quoted (text : String) : (quoted text).toList.getLast? = some '"' := by
  rw [quoted, String.toList_ofList, List.getLast?_concat]

end SealedBuild.Text
