import Mathlib.Data.Set.Defs
import SealedBuild.Proofs.Inspection.Facts

/-!
# Header listings read back

The rows of a listing print facts, each kind of fact in a form of its own, and other lines stand
anywhere between them. An inspection takes the facts out of the listing again exactly when nothing
can be read from the other lines. This is more than that they print no fact: the mark of a request
anywhere on a line, with any text in brackets, is read as a request.
-/

namespace SealedBuild.HeaderListing

variable {others : Set (List Char)}

/-- A line of a listing: it prints a fact, or it is one of the other lines. -/
structure Row (others : Set (List Char)) where
  fact? : Option Fact
  line : List Char
  single : '\n' ∉ line
  printed : ∀ fact ∈ fact?, fact.Plain ∧ Prints fact line
  other : fact? = none → line ∈ others

/-- The listing that has these rows. -/
def listingOf (rows : List (Row others)) : List Char :=
  (rows.map Row.line).flatMap (· ++ ['\n'])

def factsOf (rows : List (Row others)) : List Fact :=
  rows.filterMap Row.fact?

/-- The architecture that the name of a machine stands for. -/
def architectureOf (name : String) : Architecture :=
  if "X86-64".toList <:+ name.toList then .x86_64
  else if name = "AArch64" then .aarch64
  else .other name

/-- The inspection of an executable with a machine, perhaps an interpreter, and what else the
facts say. -/
def told (facts : List Fact) (machine : String) (interpreter : Option String) : Inspection where
  architecture := architectureOf machine
  needed := facts.filterMap Fact.needed?
  interpreter := interpreter
  hasSymtab := ".symtab" ∈ facts.filterMap Fact.sectionName?
  debugSections := (facts.filterMap Fact.sectionName?).filter (·.startsWith ".debug")

/-- Every listing with such other lines, in which one row names the machine and at most one the
interpreter, is read as what its facts say. -/
def ReadsBack (others : Set (List Char)) : Prop :=
  ∀ (rows : List (Row others)) (machine : String) (interpreter : Option String),
    (factsOf rows).filterMap Fact.machine? = [machine] →
    (factsOf rows).filterMap Fact.interpreter? = interpreter.toList →
    inspection (String.ofList (listingOf rows)) = .ok (told (factsOf rows) machine interpreter)

/-! ## Whole listings -/

variable {rows : List (Row others)}

theorem lines_listingOf (rows : List (Row others)) :
    Text.lines (listingOf rows) = rows.map fun row => Text.chopReturn row.line := by
  rw [listingOf, Text.lines_rows, List.map_map]
  · rfl
  · intro line hline
    obtain ⟨row, -, rfl⟩ := List.mem_map.mp hline
    exact row.single

theorem filterMap_lines {α : Type} {scan : List Char → Option α} {tell : Fact → Option α}
    (h : ∀ row ∈ rows, scan (Text.chopReturn row.line) = row.fact?.bind tell) :
    (Text.lines (listingOf rows)).filterMap scan = (factsOf rows).filterMap tell := by
  rw [lines_listingOf, List.filterMap_map, factsOf, List.filterMap_filterMap]
  exact List.filterMap_congr h

theorem architectureOf_ofList (name : List Char) :
    architectureOf (String.ofList name) =
      if endsIn name "X86-64".toList then .x86_64
      else if name = "AArch64".toList then .aarch64
      else .other (String.ofList name) := by
  rw [architectureOf, String.toList_ofList, endsIn]
  simp only [List.isSuffixOf_iff_suffix, ← String.toList_inj, String.toList_ofList]

theorem machine?_eq (listing : List Char) :
    machine? listing = ((Text.lines listing).filterMap machineText?).head?.map architectureOf := by
  rw [List.head?_filterMap, machine?, List.map_findSome?, List.map_findSome?]
  congr 1
  funext line
  simp only [Function.comp_apply, machineText?, labelled?, Option.map_map, architectureOf_ofList,
    Function.comp_def]

theorem needed_eq (listing : List Char) :
    needed listing = (Text.lines listing).filterMap neededName? := by
  rw [needed, List.filterMap_filter]
  congr 1
  funext line
  rw [neededName?, requested?]
  split <;> rfl

theorem inspection_eq_ok_iff {listing : List Char} {found : Inspection} :
    inspection (String.ofList listing) = .ok found ↔
      ((Text.lines listing).filterMap machineText?).head?.map architectureOf =
          some found.architecture ∧
        (Text.lines listing).filterMap neededName? = found.needed ∧
        ((Text.lines listing).filterMap interpreterText?).head? = found.interpreter ∧
        decide (".symtab" ∈ (Text.lines listing).filterMap section?) = found.hasSymtab ∧
        ((Text.lines listing).filterMap section?).filter (·.startsWith ".debug") =
          found.debugSections := by
  obtain ⟨architecture, requests, path, symtab, debug⟩ := found
  rw [inspection, String.toList_ofList, machine?_eq]
  have hpath : interpreter? listing =
      ((Text.lines listing).filterMap interpreterText?).head? := by
    rw [List.head?_filterMap]
    rfl
  cases ((Text.lines listing).filterMap machineText?).head?.map architectureOf with
  | none => simp
  | some found =>
      simp [needed_eq, hpath, sections]

theorem mem_symtab_iff (names : List String) :
    ".symtab" ∈ names ↔ ".symtab" ∈ names.filter asked := by
  have hasked : asked ".symtab" = true := by
    simp [asked]
  rw [List.mem_filter, and_iff_left hasked]

theorem filter_debug_eq (names : List String) :
    names.filter (·.startsWith ".debug") = (names.filter asked).filter (·.startsWith ".debug") := by
  rw [List.filter_filter]
  refine List.filter_congr fun name _ => ?_
  cases hdebug : name.startsWith ".debug" <;> simp [asked, hdebug]

/-- What is read from a listing is what its rows tell. -/
theorem inspection_listingOf {machine : String} {interpreter : Option String}
    (htells : ∀ row ∈ rows, Tells row.fact? row.line)
    (hmachine : (factsOf rows).filterMap Fact.machine? = [machine])
    (hinterpreter : (factsOf rows).filterMap Fact.interpreter? = interpreter.toList) :
    inspection (String.ofList (listingOf rows)) =
      .ok (told (factsOf rows) machine interpreter) := by
  have hline : ∀ row ∈ rows, Tells row.fact? (Text.chopReturn row.line) :=
    fun row hrow => tells_chopReturn.mpr (htells row hrow)
  have hsections : ((Text.lines (listingOf rows)).filterMap section?).filter asked =
      ((factsOf rows).filterMap Fact.sectionName?).filter asked := by
    rw [List.filter_filterMap, List.filter_filterMap]
    refine filterMap_lines fun row hrow => (hline row hrow).sections.trans ?_
    cases row.fact? <;> rfl
  rw [inspection_eq_ok_iff]
  refine ⟨?_, ?_, ?_, ?_, ?_⟩
  · rw [filterMap_lines fun row hrow => (hline row hrow).machine, hmachine]
    rfl
  · exact filterMap_lines fun row hrow => (hline row hrow).needed
  · rw [filterMap_lines fun row hrow => (hline row hrow).interpreter, hinterpreter,
      Option.head?_toList]
    rfl
  · exact decide_eq_decide.mpr (by rw [mem_symtab_iff, hsections, ← mem_symtab_iff])
  · rw [filter_debug_eq, hsections, ← filter_debug_eq]
    rfl

theorem readsBack_of_mute (h : ∀ line ∈ others, '\n' ∉ line → Mute line) : ReadsBack others := by
  intro rows machine interpreter hmachine hinterpreter
  refine inspection_listingOf (fun row _ => ?_) hmachine hinterpreter
  cases hfact : row.fact? with
  | none => exact mute_iff.mp (h row.line (row.other hfact) row.single)
  | some fact =>
      obtain ⟨hplain, hprints⟩ := row.printed fact hfact
      exact hprints.tells hplain

/-- A row that names a machine. -/
def machineRow (name : String) (hplain : (Fact.machine name).Plain) (hsingle : '\n' ∉ name.toList) :
    Row others where
  fact? := some (.machine name)
  line := [] ++ "Machine:".toList ++ [' '] ++ name.toList
  single := by simpa using hsingle
  printed := by
    rintro _ ⟨⟩
    exact ⟨hplain, .machine Text.isGap_nil (Text.isGap_singleton rfl)⟩
  other h := absurd h (Option.some_ne_none _)

def otherRow (line : List Char) (hline : line ∈ others) (hsingle : '\n' ∉ line) : Row others where
  fact? := none
  line := line
  single := hsingle
  printed fact hfact := absurd hfact (Option.not_mem_none fact)
  other := fun _ => hline

theorem filterMap_pair {α : Type} (scan : List Char → Option α) (first second : List Char) :
    [first, second].filterMap scan = (scan first).toList ++ (scan second).toList := by
  cases hfirst : scan first <;> cases hsecond : scan second <;> simp [hfirst, hsecond]

/-- A row that names a machine is put behind the line. What the inspection of the two rows has to
say leaves nothing to be read from the line but a machine of the same architecture. -/
theorem ReadsBack.read_before (h : ReadsBack others) {line : List Char} (hline : line ∈ others)
    (hsingle : '\n' ∉ line) {name : String} (hplain : (Fact.machine name).Plain)
    (hname : '\n' ∉ name.toList) :
    architectureOf ((machineText? (Text.chopReturn line)).getD name) = architectureOf name ∧
      neededName? (Text.chopReturn line) = none ∧
      interpreterText? (Text.chopReturn line) = none ∧
      (section? (Text.chopReturn line)).filter asked = none := by
  have hread := h [otherRow line hline hsingle, machineRow name hplain hname] name none rfl rfl
  obtain ⟨hmachine, hinterpreter, hneeded, -⟩ := tells_chopReturn.mpr
    (Prints.tells hplain ((machineRow name hplain hname : Row others).printed _ rfl).2)
  rw [inspection_eq_ok_iff, lines_listingOf] at hread
  simp only [List.map_cons, List.map_nil, filterMap_pair, hmachine, hinterpreter, hneeded,
    Option.bind_some, Fact.machine?, Fact.interpreter?, Fact.needed?, Option.toList_none,
    List.append_nil] at hread
  obtain ⟨harchitecture, hrequests, hpath, hsymtab, hdebug⟩ := hread
  refine ⟨?_, ?_, ?_, ?_⟩
  · cases hfirst : machineText? (Text.chopReturn line) with
    | none => rfl
    | some found => simpa [hfirst, otherRow, told] using harchitecture
  · exact Option.toList_eq_nil_iff.mp hrequests
  · rwa [Option.head?_toList] at hpath
  · rw [Option.filter_eq_none_iff]
    intro found hfound hasked
    have hmem : found ∈ (section? (Text.chopReturn line)).toList ++
        (section? (Text.chopReturn (machineRow name hplain hname : Row others).line)).toList :=
      List.mem_append_left _ (Option.mem_toList.mpr hfound)
    rw [asked, Bool.or_eq_true, beq_iff_eq] at hasked
    rcases hasked with rfl | hasked
    · exact of_decide_eq_false hsymtab hmem
    · exact List.not_mem_nil (hdebug ▸ List.mem_filter.mpr ⟨hmem, hasked⟩)

theorem mute_of_readsBack (h : ReadsBack others) {line : List Char} (hline : line ∈ others)
    (hsingle : '\n' ∉ line) : Mute line := by
  have hplain : ∀ name ∈ ["AArch64", "X86-64"], (Fact.machine name).Plain := by
    intro name hname
    rw [Fact.Plain, Marked, ← Text.contains_iff]
    simp only [List.mem_cons, List.not_mem_nil, or_false] at hname
    rcases hname with rfl | rfl
    · exact ⟨⟨by simp [Text.isBlank], by simp [Text.isBlank]⟩, by decide⟩
    · exact ⟨⟨by simp [Text.isBlank], by simp [Text.isBlank]⟩, by decide⟩
  obtain ⟨harm, hneeded, hinterpreter, hsections⟩ :=
    h.read_before hline hsingle (hplain "AArch64" (by simp)) (by decide)
  obtain ⟨hintel, -⟩ := h.read_before hline hsingle (hplain "X86-64" (by simp)) (by decide)
  rw [mute_iff, ← tells_chopReturn]
  refine ⟨?_, hinterpreter, hneeded, hsections⟩
  cases hfirst : machineText? (Text.chopReturn line) with
  | none => rfl
  | some found =>
      -- One machine would have to stand for two architectures.
      rw [hfirst, Option.getD_some] at harm hintel
      have hsame : architectureOf "AArch64" = architectureOf "X86-64" := harm.symm.trans hintel
      exact absurd hsame (by decide)

/-- Listings are read as what their facts say exactly when nothing is read from the other lines. -/
theorem readsBack_iff (others : Set (List Char)) :
    ReadsBack others ↔ ∀ line ∈ others, '\n' ∉ line → Mute line :=
  ⟨fun h _ hline hsingle => mute_of_readsBack h hline hsingle, readsBack_of_mute⟩

/-- A row for the paths on which shared objects are searched. -/
def searchPath : List Char :=
  " 0x000000000000001d (RUNPATH)            Library runpath: ".toList ++
    '[' :: "/opt/(NEEDED)/lib".toList ++ [']']

theorem not_prints_searchPath (fact : Fact) : ¬ Prints fact searchPath := by
  intro h
  generalize hline : searchPath = line at h
  cases h with
  | machine hindent hgap =>
      have hnone : labelled? "Machine:".toList searchPath = none := by decide
      rw [labelled?_eq_none_iff isLabel_machine] at hnone
      exact hnone _ _ hindent (by rw [hline, List.append_assoc])
  | interpreter hindent hgap =>
      have hnone : labelled? "[Requesting program interpreter:".toList searchPath = none := by
        decide
      rw [labelled?_eq_none_iff isLabel_interpreter] at hnone
      exact hnone _ _ hindent (by rw [hline, List.append_assoc, List.append_assoc])
  | sectionHeader hindent =>
      simp only [List.append_assoc, List.cons_append] at hline
      have hfirst := (Text.isGap_singleton rfl).cons_eq_cons hindent rfl rfl
        (show [' '] ++ '0' :: searchPath.drop 2 = _ from hline)
      exact absurd hfirst.1 (by decide)
  | needed =>
      have hnone : ¬ "Shared library: ".toList <:+: searchPath := by
        rw [← Text.contains_iff]
        decide
      rw [hline] at hnone
      exact hnone (((List.suffix_append _ _).isInfix.trans (List.prefix_append _ _).isInfix).trans
        (List.prefix_append _ _).isInfix)

/-- A search path that holds the mark of a request is read as a request, although its row prints
no fact. So it is not enough for the other lines to print none. -/
theorem search_path_read_as_request :
    (∀ fact, ¬ Prints fact searchPath) ∧
      needed (searchPath ++ ['\n']) = ["/opt/(NEEDED)/lib"] ∧
      ¬ ReadsBack {line | ∀ fact, ¬ Prints fact line} := by
  have hmarked : Marked searchPath := by
    rw [Marked, ← Text.contains_iff]
    decide
  refine ⟨not_prints_searchPath, by decide +kernel, fun h => ?_⟩
  have hmute : Mute searchPath := mute_of_readsBack h not_prints_searchPath (by decide)
  exact hmute.needed hmarked _ _ [] rfl

end SealedBuild.HeaderListing
