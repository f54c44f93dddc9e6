import SealedBuild.HostPath
import SealedBuild.Proofs.Text.Lines
import SealedBuild.RunId

/-!
# Laws of paths

What the names on the way along a path are when the path is joined from two, and which names lead
one step down: those that are neither empty nor dots and hold no slash.
-/

namespace SealedBuild

namespace Text

theorem splitAt_eq_splitOn (separator : Char) (text : List Char) :
    splitAt separator text = text.splitOn separator := by
  induction text with
  | nil => simp [splitAt]
  | cons c rest ih =>
      rw [splitAt, List.splitOn_cons_eq_if_modifyHead]
      by_cases hc : c = separator
      · rw [if_pos hc, if_pos (by simpa using hc), ih]
      · rw [if_neg hc, if_neg (by simpa using hc), ih]
        cases hrest : rest.splitOn separator with
        | nil => exact absurd hrest (List.splitOn_ne_nil separator rest)
        | cons part more => rfl

end Text

namespace HostPath

/-- A single name that leads one step down. -/
def Ordinary (name : String) : Prop :=
  name ≠ "" ∧ name ≠ "." ∧ name ≠ ".." ∧ '/' ∉ name.toList

instance (name : String) : Decidable (Ordinary name) :=
  inferInstanceAs (Decidable (_ ∧ _))

/-- All parts between slashes, those that say nothing included. -/
def parts (path : String) : List String :=
  (Text.splitAt '/' path.toList).map String.ofList

/-- Whether a part says nothing. -/
def isIdle (part : String) : Bool :=
  part == "" || part == "."

theorem names_eq (path : String) : names path = (parts path).filter fun part => !isIdle part := by
  unfold names parts isIdle
  congr 1
  funext part
  simp [bne]

theorem parts_slash (front back : String) :
    parts (front ++ "/" ++ back) = parts front ++ parts back := by
  unfold parts
  rw [Text.splitAt_eq_splitOn, Text.splitAt_eq_splitOn, Text.splitAt_eq_splitOn]
  simp [String.toList_append, List.splitOn_append_cons_self]

theorem names_slash (front back : String) :
    names (front ++ "/" ++ back) = names front ++ names back := by
  rw [names_eq, names_eq, names_eq, parts_slash, List.filter_append]

theorem isAbsolute_iff {path : String} :
    isAbsolute path = true ↔ path.toList.head? = some '/' := by
  have hslash : "/".toList = ['/'] := rfl
  rw [isAbsolute, String.startsWith_string_iff, hslash]
  cases path.toList <;> simp [eq_comm]

theorem exists_of_endsWith_slash {path : String} (h : path.endsWith "/" = true) :
    ∃ front, path = front ++ "/" := by
  rw [String.endsWith, String.Slice.endsWith_string_iff, String.copy_toSlice] at h
  obtain ⟨front, hfront⟩ := h
  exact ⟨String.ofList front, String.toList_injective (by simp [← hfront])⟩

variable {base next : String}

/-- A joined path has the names of both. -/
theorem names_join (h : isAbsolute next = false) :
    names (join base next) = names base ++ names next := by
  have hempty : names "" = [] := by decide
  rw [join, h, if_neg Bool.false_ne_true]
  split
  · rename_i hbase
    rw [Bool.or_eq_true] at hbase
    rcases hbase with hbase | hbase
    · obtain rfl : base = "" := by simpa using hbase
      rw [String.empty_append, hempty, List.nil_append]
    · obtain ⟨front, rfl⟩ := exists_of_endsWith_slash hbase
      have hfront := names_slash front ""
      rw [String.append_empty, hempty, List.append_nil] at hfront
      rw [names_slash, hfront]
  · exact names_slash base next

/-- A joined path starts where the first does. -/
theorem isAbsolute_join (h : isAbsolute next = false) :
    isAbsolute (join base next) = isAbsolute base := by
  rw [join, h, if_neg Bool.false_ne_true, Bool.eq_iff_iff, isAbsolute_iff, isAbsolute_iff]
  rw [← Bool.not_eq_true, isAbsolute_iff] at h
  by_cases hbase : base = ""
  · subst hbase
    simpa using h
  · obtain ⟨c, rest, hlist⟩ : ∃ c rest, base.toList = c :: rest :=
      List.exists_cons_of_ne_nil (by simpa using hbase)
    split <;> simp [String.toList_append, hlist]

/-! ## Ordinary names -/

theorem Ordinary.isAbsolute_eq {name : String} (h : Ordinary name) : isAbsolute name = false := by
  rw [← Bool.not_eq_true, isAbsolute_iff]
  exact fun hhead => h.2.2.2 (List.mem_of_mem_head? hhead)

theorem Ordinary.parts_eq {name : String} (h : Ordinary name) : parts name = [name] := by
  rw [parts, Text.splitAt_eq_splitOn, List.splitOn_eq_singleton h.2.2.2]
  simp

theorem Ordinary.names_eq {name : String} (h : Ordinary name) : names name = [name] := by
  rw [HostPath.names_eq, h.parts_eq]
  simp [isIdle, h.1, h.2.1]

/-- A path that is joined with an ordinary name has it for its last part. -/
theorem parts_join {name : String} (h : Ordinary name) :
    ∃ front, parts (join base name) = front ++ [name] := by
  rw [join, h.isAbsolute_eq, if_neg Bool.false_ne_true]
  split
  · rename_i hbase
    rw [Bool.or_eq_true] at hbase
    rcases hbase with hbase | hbase
    · obtain rfl : base = "" := by simpa using hbase
      exact ⟨[], by rw [String.empty_append, h.parts_eq, List.nil_append]⟩
    · obtain ⟨front, rfl⟩ := exists_of_endsWith_slash hbase
      exact ⟨parts front, by rw [parts_slash, h.parts_eq]⟩
  · exact ⟨parts base, by rw [parts_slash, h.parts_eq]⟩

/-- A path that is joined with an ordinary name does not end in a slash. -/
theorem endsWith_join {name : String} (h : Ordinary name) :
    (join base name).endsWith "/" = false := by
  rw [← Bool.not_eq_true]
  intro hslash
  obtain ⟨front, hfront⟩ := exists_of_endsWith_slash hslash
  obtain ⟨named, hnamed⟩ : ∃ named, parts (join base name) = named ++ [name] := parts_join h
  have hidle : parts (front ++ "/") = parts front ++ [""] := by
    rw [← String.append_empty (s := front ++ "/"), parts_slash]
    rfl
  rw [hfront, hidle] at hnamed
  exact h.1 (List.append_singleton_inj.mp hnamed).2.symm

/-- What is named on the way along a path is neither empty nor a dot, and holds no slash. -/
theorem plain_of_mem_names {path name : String} (h : name ∈ names path) :
    name ≠ "" ∧ name ≠ "." ∧ '/' ∉ name.toList := by
  rw [HostPath.names_eq, List.mem_filter, parts, Text.splitAt_eq_splitOn] at h
  obtain ⟨hpart, hidle⟩ := h
  obtain ⟨part, hmem, rfl⟩ := List.mem_map.mp hpart
  have hsaid : String.ofList part ≠ "" ∧ String.ofList part ≠ "." := by
    simpa [isIdle] using hidle
  refine ⟨hsaid.1, hsaid.2, fun hslash => ?_⟩
  rw [String.toList_ofList] at hslash
  rw [List.splitOn_eq_splitOnP] at hmem
  cases Text.eq_false_of_mem_splitOnP hmem '/' hslash

/-- The file name is the last name of a path, unless that is a double dot. -/
theorem fileName?_eq_some_iff {path name : String} :
    fileName? path = some name ↔ (names path).getLast? = some name ∧ name ≠ ".." := by
  unfold fileName?
  split
  · next h =>
    simp only [h, reduceCtorEq, Option.some.injEq, false_iff, not_and, Decidable.not_not]
    exact Eq.symm
  · next hother =>
    refine ⟨fun h => ⟨h, ?_⟩, And.left⟩
    rintro rfl
    exact hother h

/-- A file name leads one step down. -/
theorem ordinary_fileName {path name : String} (h : fileName? path = some name) :
    Ordinary name := by
  obtain ⟨hlast, hdots⟩ := fileName?_eq_some_iff.mp h
  obtain ⟨hempty, hdot, hslash⟩ := plain_of_mem_names (List.mem_of_getLast? hlast)
  exact ⟨hempty, hdot, hdots, hslash⟩

end HostPath

/-- The short form of a run's identifier is twelve hexadecimal digits. -/
theorem RunId.ordinary_short (id : RunId) : HostPath.Ordinary id.short := by
  have hdigit : ∀ digit < 16, Nat.digitChar digit ≠ '/' := by decide
  have hslash : '/' ∉ id.short.toList := by
    intro hmem
    rw [short, String.toList_ofList, digits] at hmem
    obtain ⟨i, -, hi⟩ := List.mem_map.mp (List.mem_of_mem_drop hmem)
    exact hdigit _ (Nat.mod_lt _ (by decide)) hi
  have hlength : id.short.toList.length = 12 := by
    rw [short, String.toList_ofList, digits, List.length_drop, List.length_map, List.length_range]
  have hne : ∀ text : String, text.toList.length ≠ 12 → id.short ≠ text := by
    rintro text htext rfl
    exact htext hlength
  exact ⟨hne "" (by decide), hne "." (by decide), hne ".." (by decide), hslash⟩

end SealedBuild
