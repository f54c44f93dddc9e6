import Mathlib.Data.Nat.Digits.Defs
import SealedBuild.Inspection.HeaderListing
import SealedBuild.Proofs.Text.Cuts
import SealedBuild.Proofs.Text.Trim

/-!
# The lines that facts are read from

Header listings are read line by line, once for each kind of fact. This module says which lines
give a fact, by their form: what stands where in the line, and what it may be. White space at the
end of a line is never part of a fact.
-/

namespace SealedBuild.HeaderListing

open Text (IsGap IsTrimmed IsWord)

variable {label line text front back indent gap : List Char} {name : String} {c : Char}

/-! ## Labels -/

/-- What a line has behind a label that it begins with. -/
def labelled? (label line : List Char) : Option (List Char) :=
  Text.after? label (Text.trim line)

theorem labelled?_gap_append (h : IsGap indent) (label line : List Char) :
    labelled? label (indent ++ line) = labelled? label line := by
  rw [labelled?, Text.trim_gap_append h, labelled?]

theorem labelled?_append_gap (label line : List Char) (h : IsGap gap) :
    labelled? label (line ++ gap) = labelled? label line := by
  rw [labelled?, Text.trim_append_gap line h, labelled?]

theorem labelled?_cons (hc : Text.isBlank c = false) (label rest : List Char) :
    labelled? label (c :: rest) = Text.after? label (c :: Text.trimEnd rest) := by
  rw [labelled?, Text.trim_cons hc]

/-- A text that can be told from the white space around it. -/
structure IsLabel (label : List Char) : Prop extends IsTrimmed label where
  nonempty : label ≠ []

theorem isLabel_machine : IsLabel "Machine:".toList :=
  ⟨⟨by simp [Text.isBlank], by simp [Text.isBlank]⟩, by decide⟩

theorem isLabel_interpreter : IsLabel "[Requesting program interpreter:".toList :=
  ⟨⟨by simp [Text.isBlank], by simp [Text.isBlank]⟩, by decide⟩

theorem labelled?_append (hlabel : IsLabel label) (rest : List Char) :
    labelled? label (label ++ rest) = some (Text.trimEnd rest) := by
  have hlast := List.getLast?_eq_some_getLast hlabel.nonempty
  rw [labelled?, Text.trim, Text.trimStart_eq_self, Text.trimEnd_append hlast
    (hlabel.last _ hlast), Text.after?_append]
  intro c hc
  rw [List.head?_append_of_ne_nil label hlabel.nonempty] at hc
  exact hlabel.first c hc

theorem labelled?_eq_none_iff (hlabel : IsLabel label) :
    labelled? label line = none ↔
      ∀ indent rest, IsGap indent → line ≠ indent ++ label ++ rest := by
  constructor
  · rintro h indent rest hindent rfl
    rw [List.append_assoc, labelled?_gap_append hindent, labelled?_append hlabel] at h
    cases h
  · intro h
    rw [Option.eq_none_iff_forall_ne_some]
    intro found hfound
    rw [labelled?, Text.after?_eq_some_iff, Text.trim] at hfound
    obtain ⟨indent, hindent, hline⟩ := Text.exists_gap_append_trimStart line
    obtain ⟨gap, -, htext⟩ := Text.exists_trimEnd_append_gap (Text.trimStart line)
    rw [hfound] at htext
    refine h indent (found ++ gap) hindent ?_
    rw [hline, htext, List.append_assoc, List.append_assoc]

theorem dropClosing_append (h : text.getLast? ≠ some ']') :
    dropClosing (text ++ [']']) = text := by
  have hkept : text.reverse.dropWhile (· == ']') = text.reverse := by
    rw [← List.head?_reverse] at h
    cases hreverse : text.reverse with
    | nil => rfl
    | cons c rest =>
        rw [hreverse, List.head?_cons, ne_eq, Option.some.injEq] at h
        exact List.dropWhile_cons_of_neg (by simpa using h)
  rw [dropClosing, List.reverse_append, List.reverse_singleton, List.singleton_append,
    List.dropWhile_cons_of_pos rfl, hkept, List.reverse_reverse]

/-! ## Brackets -/

theorem bracketed?_eq_some_iff :
    bracketed? line = some text ↔
      ∃ front back, '[' ∉ front ∧ ']' ∉ back ∧ line = front ++ '[' :: text ++ ']' :: back := by
  constructor
  · intro h
    rw [bracketed?] at h
    split at h
    · cases h
    next front behind hfirst =>
      split at h
      · cases h
      next upTo back hlast =>
        obtain ⟨hline, hfront⟩ := Text.cutFirst_eq_some_iff.mp hfirst
        obtain ⟨hline', hback⟩ := Text.cutLast_eq_some_iff.mp hlast
        split at h
        next hlength =>
          rw [hline] at hline'
          rcases List.append_eq_append_iff.mp hline' with
            ⟨more, hupTo, hmore⟩ | ⟨more, hfront', -⟩
          · cases more with
            | nil => simp [hupTo] at hlength
            | cons d more =>
                rw [List.cons_append, List.cons.injEq] at hmore
                obtain ⟨rfl, rfl⟩ := hmore
                have htext : text = more := by
                  simpa [hupTo] using h.symm
                exact ⟨front, back, hfront, hback, by simp [hline, htext]⟩
          · simp [hfront'] at hlength
        · cases h
  · rintro ⟨front, back, hfront, hback, rfl⟩
    have hfirst : Text.cutFirst '[' (front ++ '[' :: text ++ ']' :: back) =
        some (front, text ++ ']' :: back) := by
      rw [List.append_assoc, List.cons_append, Text.cutFirst_append_cons hfront]
    have hlength : front.length < (front ++ '[' :: text).length := by
      rw [List.length_append, List.length_cons]
      omega
    simp only [bracketed?, hfirst, Text.cutLast_append_cons hback, if_pos hlength]
    simp

theorem bracketed?_eq_none_iff :
    bracketed? line = none ↔ ∀ front text back, line ≠ front ++ '[' :: text ++ ']' :: back := by
  constructor
  · rintro h front text back rfl
    -- The same line, taken from the first opening bracket to the last closing one.
    obtain ⟨front', more, hopen, hfront⟩ := List.eq_append_cons_of_mem
      (List.mem_append_right front (List.mem_singleton_self '['))
    obtain ⟨back', more', hclose, hback⟩ := List.eq_append_cons_of_mem
      (List.mem_append_right back.reverse (List.mem_singleton_self ']'))
    have hclose' : ']' :: back = more'.reverse ++ ']' :: back'.reverse := by
      have hreverse := congrArg List.reverse hclose
      simpa using hreverse
    have hline : front ++ '[' :: text ++ ']' :: back =
        front' ++ '[' :: (more ++ text ++ more'.reverse) ++ ']' :: back'.reverse := by
      calc front ++ '[' :: text ++ ']' :: back
          = (front ++ ['[']) ++ text ++ (']' :: back) := by simp
        _ = _ := by rw [hopen, hclose']; simp
    have hread := bracketed?_eq_some_iff.mpr
      ⟨front', back'.reverse, hfront, by simpa using hback, hline⟩
    rw [hread] at h
    cases h
  · intro h
    rw [Option.eq_none_iff_forall_ne_some]
    intro text htext
    obtain ⟨front, back, -, -, hline⟩ := bracketed?_eq_some_iff.mp htext
    exact h front text back hline

/-! ## Marks -/

/-- The mark of a request stands somewhere in a text. -/
def Marked (text : List Char) : Prop :=
  "(NEEDED)".toList <:+: text

theorem Marked.of_append (hfront : '(' ∉ front) (h : Marked (front ++ back)) : Marked back :=
  Text.cons_infix_of_not_mem hfront (show '(' :: "NEEDED)".toList <:+: front ++ back from h)

theorem Marked.of_append_closed (hback : ')' ∉ back) (h : Marked (front ++ back)) : Marked front :=
  Text.concat_infix_of_not_mem hback (show "(NEEDED".toList ++ [')'] <:+: front ++ back from h)

/-- The mark has no white space, so that it is on one side of any in a text. -/
theorem Marked.of_append_blank (hblank : ∀ c ∈ back.head?, Text.isBlank c = true)
    (h : Marked (front ++ back)) : Marked front ∨ Marked back := by
  cases back with
  | nil =>
      rw [List.append_nil] at h
      exact .inl h
  | cons c back =>
      have hc : c ∉ "(NEEDED)".toList := by
        intro hmem
        have hshown : ∀ d ∈ "(NEEDED)".toList, Text.isBlank d = false := by
          simp [Text.isBlank]
        have hboth := hblank c rfl
        rw [hshown c hmem] at hboth
        cases hboth
      exact (Text.infix_or_infix_of_not_mem hc h).imp_right fun hinfix =>
        hinfix.trans (List.suffix_cons c back).isInfix

/-- The text in brackets on a line with the mark of a request. -/
def requested? (line : List Char) : Option (List Char) :=
  if Text.contains "(NEEDED)".toList line then bracketed? line else none

theorem requested?_eq_none_iff :
    requested? line = none ↔
      (Marked line → ∀ front text back, line ≠ front ++ '[' :: text ++ ']' :: back) := by
  rw [requested?, ← bracketed?_eq_none_iff, Marked, ← Text.contains_iff]
  by_cases hmark : Text.contains "(NEEDED)".toList line = true
  · rw [if_pos hmark, imp_iff_right hmark]
  · rw [if_neg hmark]
    exact iff_of_true rfl fun h => absurd h hmark

/-! ## Sections -/

/-- A number of at most thirty-two bits, in decimal digits. -/
structure IsDecimal (text : List Char) : Prop where
  nonempty : text ≠ []
  digits : ∀ c ∈ text, c.isDigit = true
  small : Nat.ofDigitChars 10 text 0 < 2 ^ 32

/-- A word that begins with a dot. -/
structure IsSectionName (name : List Char) : Prop extends IsWord name where
  dotted : name.head? = some '.'

theorem isBlank_of_isDigit (h : c.isDigit = true) : Text.isBlank c = false := by
  simp only [Char.isDigit, Bool.and_eq_true, decide_eq_true_eq, ge_iff_le,
    UInt32.le_iff_toNat_le] at h
  exact Text.isBlank_of_printed (Nat.le_trans (by decide) h.1) (Nat.le_trans h.2 (by decide))

theorem isDecimal_iff :
    IsDecimal text ↔ (!text.isEmpty && text.all Char.isDigit &&
      text.foldl (fun n c => n * 10 + (c.toNat - '0'.toNat)) 0 < 4294967296) = true := by
  rw [Bool.and_eq_true, Bool.and_eq_true, Bool.not_eq_true', List.isEmpty_eq_false_iff,
    List.all_eq_true, decide_eq_true_iff]
  have hvalue : text.foldl (fun n c => n * 10 + (c.toNat - '0'.toNat)) 0 =
      Nat.ofDigitChars 10 text 0 := by
    simp only [Nat.ofDigitChars_eq_foldl, Nat.mul_comm]
  rw [hvalue]
  exact ⟨fun h => ⟨⟨h.nonempty, h.digits⟩, h.small⟩, fun h => ⟨h.1.1, h.1.2, h.2⟩⟩

theorem isIndex_iff :
    isIndex text = true ↔
      ∃ digits, IsDecimal digits ∧ (text = digits ∨ text = '+' :: digits) := by
  constructor
  · intro h
    unfold isIndex at h
    split at h
    next digits => exact ⟨digits, isDecimal_iff.mpr h, .inr rfl⟩
    next => exact ⟨text, isDecimal_iff.mpr h, .inl rfl⟩
  · rintro ⟨digits, hdigits, rfl | rfl⟩
    · unfold isIndex
      split
      next others =>
        have hplus := hdigits.digits '+' List.mem_cons_self
        cases hplus
      next => exact isDecimal_iff.mp hdigits
    · exact isDecimal_iff.mp hdigits

/-- A line names a section with a number in brackets and the name as the first word behind them. -/
def NamesSection (line name : List Char) : Prop :=
  ∃ indent index gap rest, IsGap indent ∧ ']' ∉ index ∧ isIndex (Text.trim index) = true ∧
    IsGap gap ∧ IsSectionName name ∧ (∀ c ∈ rest.head?, Text.isBlank c = true) ∧
    line = indent ++ '[' :: index ++ ']' :: gap ++ name ++ rest

theorem section?_eq_some_iff : section? line = some name ↔ NamesSection line name.toList := by
  constructor
  · intro h
    obtain ⟨indent, hindent, hline⟩ := Text.exists_gap_append_trimStart line
    rw [section?] at h
    split at h
    next behind htext =>
      split at h
      · cases h
      next index others hcut =>
        obtain ⟨hbehind, hindex⟩ := Text.cutFirst_eq_some_iff.mp hcut
        split at h
        next hnumber =>
          split at h
          next found hword =>
            cases h
            obtain ⟨hfound, gap, rest, hgap, hrest, hothers⟩ :=
              Text.firstWord?_eq_some_iff.mp hword
            rw [String.toList_ofList]
            refine ⟨indent, index, gap, rest, hindent, hindex, hnumber, hgap, ⟨hfound, rfl⟩,
              hrest, ?_⟩
            rw [hline, htext, hbehind, hothers]
            simp
          · cases h
        · cases h
    · cases h
  · rintro ⟨indent, index, gap, rest, hindent, hindex, hnumber, hgap, hname, hrest, rfl⟩
    obtain ⟨others, hname'⟩ := List.head?_eq_some_iff.mp hname.dotted
    have hword : Text.firstWord? (gap ++ name.toList ++ rest) = some ('.' :: others) := by
      rw [← hname']
      exact Text.firstWord?_eq_some_iff.mpr ⟨hname.toIsWord, gap, rest, hgap, hrest, rfl⟩
    have hline : Text.trimStart (indent ++ '[' :: index ++ ']' :: gap ++ name.toList ++ rest) =
        '[' :: (index ++ ']' :: (gap ++ name.toList ++ rest)) := by
      simp only [List.append_assoc, List.cons_append]
      exact Text.trimStart_gap_cons hindent rfl _
    simp only [section?, hline, Text.cutFirst_append_cons hindex, if_pos hnumber, hword]
    rw [← hname', String.ofList_toList]

theorem section?_gap_append (h : IsGap indent) : section? (indent ++ line) = section? line := by
  rw [section?, Text.trimStart_gap_append h, section?]

/-- Brackets that do not begin as a number name no section. -/
theorem section?_open_eq_none (hclose : c ≠ ']') (hplus : c ≠ '+') (hblank : Text.isBlank c = false)
    (hdigit : c.isDigit = false) (rest : List Char) : section? ('[' :: c :: rest) = none := by
  rw [Option.eq_none_iff_forall_ne_some]
  intro name hname
  rw [section?_eq_some_iff] at hname
  obtain ⟨indent, index, gap, columns, hindent, -, hnumber, -, -, -, hline⟩ := hname
  simp only [List.append_assoc, List.cons_append] at hline
  obtain ⟨-, hbehind⟩ := Text.isGap_nil.cons_eq_cons hindent rfl rfl hline
  cases index with
  | nil => exact hclose (List.cons.inj hbehind).1
  | cons d index =>
      obtain ⟨rfl, -⟩ := List.cons.inj hbehind
      rw [Text.trim_cons hblank] at hnumber
      obtain ⟨digits, hdecimal, hdigits | hdigits⟩ := isIndex_iff.mp hnumber
      · have hfirst := hdecimal.digits c (hdigits ▸ List.mem_cons_self)
        rw [hdigit] at hfirst
        cases hfirst
      · exact hplus (List.cons.inj hdigits).1

/-! ## White space at the end -/

theorem section?_append_gap (h : IsGap gap) : section? (line ++ gap) = section? line := by
  refine Option.ext fun name => ?_
  rw [section?_eq_some_iff, section?_eq_some_iff]
  constructor
  · rintro ⟨indent, index, gap', rest, hindent, hindex, hnumber, hgap, hname, hrest, hline⟩
    have hlast := (List.dropLast_append_getLast hname.nonempty).symm
    have hc := hname.shown _ (List.getLast_mem hname.nonempty)
    rw [hlast, ← List.append_assoc, List.append_assoc, List.singleton_append] at hline
    obtain ⟨more, rfl, rfl⟩ := h.exists_of_append_eq hc hline
    refine ⟨indent, index, gap', more, hindent, hindex, hnumber, hgap, hname, ?_, ?_⟩
    · intro d hd
      exact hrest d (by simp [List.head?_append, Option.mem_def.mp hd])
    · rw [List.append_cons, List.append_assoc _ name.toList.dropLast, ← hlast]
  · rintro ⟨indent, index, gap', rest, hindent, hindex, hnumber, hgap, hname, hrest, rfl⟩
    refine ⟨indent, index, gap', rest ++ gap, hindent, hindex, hnumber, hgap, hname, ?_, by simp⟩
    cases rest with
    | nil => exact fun d hd => h d (List.mem_of_mem_head? hd)
    | cons d rest => exact hrest

theorem bracketed?_append_gap (line : List Char) (h : IsGap gap) :
    bracketed? (line ++ gap) = bracketed? line := by
  refine Option.ext fun text => ?_
  rw [bracketed?_eq_some_iff, bracketed?_eq_some_iff]
  constructor
  · rintro ⟨front, back, hfront, hback, hline⟩
    obtain ⟨more, hmore, rfl⟩ := h.exists_of_append_eq rfl hline
    exact ⟨front, more, hfront, fun hmem => hback (List.mem_append_left gap hmem), hmore⟩
  · rintro ⟨front, back, hfront, hback, rfl⟩
    refine ⟨front, back ++ gap, hfront, ?_, by simp⟩
    rw [List.mem_append, not_or]
    exact ⟨hback, h.not_mem rfl⟩

theorem requested?_append_gap (line : List Char) (h : IsGap gap) :
    requested? (line ++ gap) = requested? line := by
  have hmark : Text.contains "(NEEDED)".toList (line ++ gap) =
      Text.contains "(NEEDED)".toList line := by
    rw [Bool.eq_iff_iff, Text.contains_iff, Text.contains_iff]
    exact ⟨Marked.of_append_closed (h.not_mem rfl),
      fun hinfix => hinfix.trans (List.prefix_append line gap).isInfix⟩
  rw [requested?, requested?, hmark, bracketed?_append_gap line h]

end SealedBuild.HeaderListing
