import SealedBuild.Proofs.Inspection.LineForms
import SealedBuild.Proofs.Text.Lines

/-!
# The facts of a listing

Each kind of fact is printed in a form of its own. From a line that prints a fact this fact is read
and no other (`Prints.tells`), because the forms begin in different ways and the mark of a request
is in one of them only. The lines that nothing is read from are known by their form as well
(`mute_iff`).
-/

namespace SealedBuild.HeaderListing

open Text (IsGap IsTrimmed IsWord)

/-- What a row of a listing says of an executable. A section header goes on behind the name. -/
inductive Fact where
  | machine (name : String)
  | interpreter (path : String)
  | sectionHeader (name : String) (columns : List Char)
  | needed (name : String)

namespace Fact

def machine? : Fact → Option String
  | machine name => some name
  | _ => none

def interpreter? : Fact → Option String
  | interpreter path => some path
  | _ => none

def sectionName? : Fact → Option String
  | sectionHeader name _ => some name
  | _ => none

def needed? : Fact → Option String
  | needed name => some name
  | _ => none

end Fact

/-- The texts of the fact can be told from what stands around them. -/
def Fact.Plain : Fact → Prop
  | machine name => IsTrimmed name.toList ∧ ¬ Marked name.toList
  | interpreter path =>
    IsTrimmed path.toList ∧ path.toList.getLast? ≠ some ']' ∧ ¬ Marked path.toList
  | sectionHeader name columns => ¬ Marked name.toList ∧ ¬ Marked columns
  | needed _ => True

/-- The forms in which facts are printed. How much white space there is does not matter. -/
inductive Prints : Fact → List Char → Prop where
  | machine {indent gap : List Char} {name : String} (hindent : IsGap indent) (hgap : IsGap gap) :
      Prints (.machine name) (indent ++ "Machine:".toList ++ gap ++ name.toList)
  | interpreter {indent gap : List Char} {path : String} (hindent : IsGap indent)
      (hgap : IsGap gap) :
      Prints (.interpreter path)
        (indent ++ "[Requesting program interpreter:".toList ++ gap ++ path.toList ++ [']'])
  | sectionHeader {indent pad index gap columns : List Char} {name : String}
      (hindent : IsGap indent) (hpad : IsGap pad) (hindex : IsDecimal index) (hgap : IsGap gap)
      (hname : IsSectionName name.toList)
      (hcolumns : ∀ c ∈ columns.head?, Text.isBlank c = true) :
      Prints (.sectionHeader name columns)
        (indent ++ '[' :: (pad ++ index) ++ ']' :: gap ++ name.toList ++ columns)
  | needed {indent gap gap' : List Char} {name : String} (zeros : Nat) (hindent : IsGap indent)
      (hgap : IsGap gap) (hgap' : IsGap gap') :
      Prints (.needed name)
        (indent ++ "0x".toList ++ List.replicate zeros '0' ++ '1' :: gap ++ "(NEEDED)".toList ++
          gap' ++ "Shared library: ".toList ++ '[' :: name.toList ++ [']'])

/-- A line from which nothing comes into an inspection. Sections may be read from it, but none that
an inspection asks for. -/
structure Mute (line : List Char) : Prop where
  machine : ∀ indent rest, IsGap indent → line ≠ indent ++ "Machine:".toList ++ rest
  interpreter : ∀ indent rest, IsGap indent →
    line ≠ indent ++ "[Requesting program interpreter:".toList ++ rest
  needed : Marked line → ∀ front name back, line ≠ front ++ '[' :: name ++ ']' :: back
  sections : ∀ name : String, NamesSection line name.toList →
    name ≠ ".symtab" ∧ name.startsWith ".debug" = false

/-! ## What is read from a line -/

def machineText? (line : List Char) : Option String :=
  (labelled? "Machine:".toList line).map fun rest => String.ofList (Text.trim rest)

def interpreterText? (line : List Char) : Option String :=
  (labelled? "[Requesting program interpreter:".toList line).map fun rest =>
    String.ofList (Text.trim (dropClosing rest))

def neededName? (line : List Char) : Option String :=
  (requested? line).map String.ofList

/-- Whether an inspection asks for a section. -/
def asked (name : String) : Bool :=
  name == ".symtab" || name.startsWith ".debug"

/-- What is read from a line is the fact that it prints, if any. -/
structure Tells (fact? : Option Fact) (line : List Char) : Prop where
  machine : machineText? line = fact?.bind Fact.machine?
  interpreter : interpreterText? line = fact?.bind Fact.interpreter?
  needed : neededName? line = fact?.bind Fact.needed?
  sections : (section? line).filter asked = (fact?.bind Fact.sectionName?).filter asked

variable {fact : Fact} {fact? : Option Fact} {line front back indent gap : List Char}

/-! ## Printed facts -/

theorem neededName?_of_not_marked (h : ¬ Marked line) : neededName? line = none :=
  Option.map_eq_none_iff.mpr (requested?_eq_none_iff.mpr fun hmark => absurd hmark h)

theorem tells_machine {name : String} (hindent : IsGap indent) (hgap : IsGap gap)
    (htrimmed : IsTrimmed name.toList) (hunmarked : ¬ Marked name.toList) :
    Tells (some (.machine name)) (indent ++ "Machine:".toList ++ gap ++ name.toList) where
  machine := by
    rw [machineText?, List.append_assoc, List.append_assoc, labelled?_gap_append hindent,
      labelled?_append isLabel_machine, Option.map_some, Text.trim_trimEnd,
      Text.trim_gap_append hgap, Text.trim_eq_self htrimmed, String.ofList_toList]
    rfl
  interpreter := by
    rw [interpreterText?, List.append_assoc, List.append_assoc, labelled?_gap_append hindent]
    exact congrArg (Option.map _) (labelled?_cons (c := 'M') rfl _ _)
  needed := by
    refine neededName?_of_not_marked fun hmark => hunmarked (hmark.of_append ?_)
    simp [hindent.not_mem, hgap.not_mem, Text.isBlank]
  sections := by
    rw [List.append_assoc, List.append_assoc, section?_gap_append hindent]
    have hnone : section? ("Machine:".toList ++ (gap ++ name.toList)) = none := rfl
    rw [hnone]
    rfl

theorem tells_interpreter {path : String} (hindent : IsGap indent) (hgap : IsGap gap)
    (htrimmed : IsTrimmed path.toList) (hlast : path.toList.getLast? ≠ some ']')
    (hunmarked : ¬ Marked path.toList) :
    Tells (some (.interpreter path))
      (indent ++ "[Requesting program interpreter:".toList ++ gap ++ path.toList ++ [']']) where
  machine := by
    simp only [machineText?, List.append_assoc, labelled?_gap_append hindent]
    exact congrArg (Option.map _) (labelled?_cons (c := '[') rfl _ _)
  interpreter := by
    have hopen : (gap ++ path.toList).getLast? ≠ some ']' := by
      rw [List.getLast?_append]
      cases hpath : path.toList.getLast? with
      | none => exact fun hgap' => hgap.not_mem rfl (List.mem_of_getLast? hgap')
      | some c => simpa [hpath] using hlast
    have hend : Text.trimEnd (gap ++ path.toList ++ [']']) = gap ++ path.toList ++ [']'] :=
      Text.trimEnd_eq_self (by simp [Text.isBlank])
    rw [interpreterText?, List.append_assoc, List.append_assoc, List.append_assoc,
      ← List.append_assoc gap, labelled?_gap_append hindent,
      labelled?_append isLabel_interpreter, Option.map_some, hend,
      dropClosing_append hopen, Text.trim_gap_append hgap, Text.trim_eq_self htrimmed,
      String.ofList_toList]
    rfl
  needed := by
    refine neededName?_of_not_marked fun hmark =>
      hunmarked ((hmark.of_append_closed (by decide)).of_append ?_)
    simp [hindent.not_mem, hgap.not_mem, Text.isBlank]
  sections := by
    simp only [List.append_assoc, section?_gap_append hindent]
    have hnone := section?_open_eq_none (c := 'R') (by decide) (by decide) rfl rfl
      ("equesting program interpreter:".toList ++ (gap ++ (path.toList ++ [']'])))
    exact congrArg (Option.filter asked) hnone

theorem tells_sectionHeader {pad index columns : List Char} {name : String}
    (hindent : IsGap indent) (hpad : IsGap pad) (hindex : IsDecimal index) (hgap : IsGap gap)
    (hname : IsSectionName name.toList) (hcolumns : ∀ c ∈ columns.head?, Text.isBlank c = true)
    (hunmarked : ¬ Marked name.toList) (hcolumns' : ¬ Marked columns) :
    Tells (some (.sectionHeader name columns))
      (indent ++ '[' :: (pad ++ index) ++ ']' :: gap ++ name.toList ++ columns) where
  machine := by
    simp only [machineText?, List.append_assoc, labelled?_gap_append hindent]
    exact congrArg (Option.map _) (labelled?_cons (c := '[') rfl _ _)
  interpreter := by
    obtain ⟨c, others, hindex'⟩ := List.exists_cons_of_ne_nil
      (List.append_ne_nil_of_right_ne_nil pad hindex.nonempty)
    have hfirst : 'R' ∉ pad ++ index := by
      rw [List.mem_append, not_or]
      exact ⟨hpad.not_mem rfl, fun hmem => absurd (hindex.digits _ hmem) (by decide)⟩
    rw [interpreterText?, (labelled?_eq_none_iff isLabel_interpreter).mpr]
    · rfl
    intro indent' rest hindent' hline
    simp only [hindex', List.append_assoc, List.cons_append] at hline
    obtain ⟨-, hbehind⟩ := hindent.cons_eq_cons hindent' (d := '[') rfl rfl hline
    exact hfirst (by rw [hindex', (List.cons.inj hbehind).1]; exact List.mem_cons_self)
  needed := by
    refine neededName?_of_not_marked fun hmark => ?_
    have hdigit : '(' ∉ index := fun hmem => absurd (hindex.digits _ hmem) (by decide)
    have hfront : '(' ∉ indent ++ '[' :: (pad ++ index) ++ ']' :: gap := by
      simp [hindent.not_mem, hpad.not_mem, hgap.not_mem, hdigit, Text.isBlank]
    rw [List.append_assoc] at hmark
    rcases (hmark.of_append hfront).of_append_blank hcolumns with hmark | hmark
    · exact hunmarked hmark
    · exact hcolumns' hmark
  sections := by
    have hshown : IsTrimmed index :=
      .of_forall fun c hc => isBlank_of_isDigit (hindex.digits c hc)
    have htrim : Text.trim (pad ++ index) = index := by
      rw [Text.trim_gap_append hpad, Text.trim_eq_self hshown]
    have hclose : ']' ∉ pad ++ index := by
      rw [List.mem_append, not_or]
      exact ⟨hpad.not_mem rfl, fun hmem => absurd (hindex.digits _ hmem) (by decide)⟩
    have hread := section?_eq_some_iff.mpr ⟨indent, pad ++ index, gap, columns, hindent, hclose,
      isIndex_iff.mpr ⟨index, hindex, .inl htrim⟩, hgap, hname, hcolumns, rfl⟩
    rw [hread]
    rfl

theorem tells_needed {gap' : List Char} {name : String} (zeros : Nat) (hindent : IsGap indent)
    (hgap : IsGap gap) (hgap' : IsGap gap') :
    Tells (some (.needed name))
      (indent ++ "0x".toList ++ List.replicate zeros '0' ++ '1' :: gap ++ "(NEEDED)".toList ++
          gap' ++ "Shared library: ".toList ++ '[' :: name.toList ++ [']']) where
  machine := by
    simp only [machineText?, List.append_assoc, labelled?_gap_append hindent]
    exact congrArg (Option.map _) (labelled?_cons (c := '0') rfl _ _)
  interpreter := by
    simp only [interpreterText?, List.append_assoc, labelled?_gap_append hindent]
    exact congrArg (Option.map _) (labelled?_cons (c := '0') rfl _ _)
  needed := by
    have hfront : '[' ∉ indent ++ "0x".toList ++ List.replicate zeros '0' ++ '1' :: gap ++
        "(NEEDED)".toList ++ gap' ++ "Shared library: ".toList := by
      simp [hindent.not_mem, hgap.not_mem, hgap'.not_mem, Text.isBlank]
    rw [neededName?, requested?, if_pos,
      bracketed?_eq_some_iff.mpr ⟨_, [], hfront, List.not_mem_nil, rfl⟩, Option.map_some,
      String.ofList_toList]
    · rfl
    · rw [Text.contains_iff]
      refine ⟨indent ++ "0x".toList ++ List.replicate zeros '0' ++ '1' :: gap,
        gap' ++ "Shared library: ".toList ++ '[' :: name.toList ++ [']'], ?_⟩
      simp only [List.append_assoc]
  sections := by
    simp only [List.append_assoc, section?_gap_append hindent]
    rfl

theorem Prints.tells (hplain : fact.Plain) (h : Prints fact line) : Tells (some fact) line := by
  cases h with
  | machine hindent hgap => exact tells_machine hindent hgap hplain.1 hplain.2
  | interpreter hindent hgap =>
      exact tells_interpreter hindent hgap hplain.1 hplain.2.1 hplain.2.2
  | sectionHeader hindent hpad hindex hgap hname hcolumns =>
      exact tells_sectionHeader hindent hpad hindex hgap hname hcolumns hplain.1 hplain.2
  | needed zeros hindent hgap hgap' => exact tells_needed zeros hindent hgap hgap'

theorem asked_eq_false_iff {name : String} :
    asked name = false ↔ name ≠ ".symtab" ∧ name.startsWith ".debug" = false := by
  rw [asked, Bool.or_eq_false_iff, beq_eq_false_iff_ne]

theorem mute_iff : Mute line ↔ Tells none line := by
  have hmachine : machineText? line = none ↔ ∀ indent rest, IsGap indent →
      line ≠ indent ++ "Machine:".toList ++ rest := by
    rw [machineText?, Option.map_eq_none_iff, labelled?_eq_none_iff isLabel_machine]
  have hinterpreter : interpreterText? line = none ↔ ∀ indent rest, IsGap indent →
      line ≠ indent ++ "[Requesting program interpreter:".toList ++ rest := by
    rw [interpreterText?, Option.map_eq_none_iff, labelled?_eq_none_iff isLabel_interpreter]
  have hneeded : neededName? line = none ↔ (Marked line →
      ∀ front name back, line ≠ front ++ '[' :: name ++ ']' :: back) := by
    rw [neededName?, Option.map_eq_none_iff, requested?_eq_none_iff]
  have hsections : (section? line).filter asked = none ↔
      ∀ name : String, NamesSection line name.toList →
        name ≠ ".symtab" ∧ name.startsWith ".debug" = false := by
    rw [Option.filter_eq_none_iff]
    simp only [Bool.not_eq_true, section?_eq_some_iff, asked_eq_false_iff]
  constructor
  · intro h
    exact ⟨hmachine.mpr h.machine, hinterpreter.mpr h.interpreter, hneeded.mpr h.needed,
      hsections.mpr h.sections⟩
  · intro h
    exact ⟨hmachine.mp h.machine, hinterpreter.mp h.interpreter, hneeded.mp h.needed,
      hsections.mp h.sections⟩

theorem tells_append_gap (hgap : IsGap gap) : Tells fact? (line ++ gap) ↔ Tells fact? line := by
  have hmachine : machineText? (line ++ gap) = machineText? line :=
    congrArg (Option.map _) (labelled?_append_gap _ line hgap)
  have hinterpreter : interpreterText? (line ++ gap) = interpreterText? line :=
    congrArg (Option.map _) (labelled?_append_gap _ line hgap)
  have hneeded : neededName? (line ++ gap) = neededName? line :=
    congrArg (Option.map _) (requested?_append_gap line hgap)
  have hsection : section? (line ++ gap) = section? line := section?_append_gap hgap
  constructor
  · intro h
    exact ⟨hmachine ▸ h.machine, hinterpreter ▸ h.interpreter, hneeded ▸ h.needed,
      hsection ▸ h.sections⟩
  · intro h
    exact ⟨hmachine.trans h.machine, hinterpreter.trans h.interpreter, hneeded.trans h.needed,
      hsection.symm ▸ h.sections⟩

theorem tells_chopReturn {fact? : Option Fact} {line : List Char} :
    Tells fact? (Text.chopReturn line) ↔ Tells fact? line := by
  rw [Text.chopReturn]
  split
  · next hlast =>
    obtain ⟨front, rfl⟩ := List.getLast?_eq_some_iff.mp hlast
    rw [List.dropLast_concat, tells_append_gap (Text.isGap_singleton rfl)]
  · rfl

end SealedBuild.HeaderListing
