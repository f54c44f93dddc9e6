import Mathlib.Data.List.Infix
import Mathlib.Data.List.TakeWhile
import SealedBuild.Variables

/-!
# Interpolation in one pass

A text divides at its references in one way only: no reference overlaps another, since a dollar sign
starts each of them and is nowhere else in one. The division is found from left to right, and it is
that of the text alone. So what a reference becomes never takes part in it: a value is put in as it
is, whatever references it holds or makes up together with its surroundings.
-/

namespace SealedBuild.Piece

variable {text name rest : List Char}

/-! ## References -/

/-- The form of an identifier: a letter of ASCII or a low line, and then also digits. -/
def IsIdentifier (text : List Char) : Prop :=
  ∃ first rest, text = first :: rest ∧ (first.isAlpha = true ∨ first = '_') ∧
    ∀ c ∈ rest, c.isAlphanum = true ∨ c = '_'

/-- The form of a name: an identifier, or two with a point between. -/
def IsName (name : List Char) : Prop :=
  IsIdentifier name ∨
    ∃ scope field, IsIdentifier scope ∧ IsIdentifier field ∧ name = scope ++ '.' :: field

theorem startsIdentifier_iff {c : Char} :
    startsIdentifier c = true ↔ c.isAlpha = true ∨ c = '_' := by
  simp [startsIdentifier]

theorem inIdentifier_iff {c : Char} :
    inIdentifier c = true ↔ c.isAlphanum = true ∨ c = '_' := by
  simp [inIdentifier]

theorem identifier?_sound (h : identifier? text = some (name, rest)) :
    IsIdentifier name ∧ text = name ++ rest := by
  cases text with
  | nil => cases h
  | cons c tail =>
      rw [identifier?] at h
      split at h
      · next hfirst =>
        obtain ⟨rfl, rfl⟩ := Prod.mk.inj (Option.some.inj h)
        refine ⟨⟨c, _, rfl, startsIdentifier_iff.mp hfirst, fun c' hc' => ?_⟩, ?_⟩
        · exact inIdentifier_iff.mp (List.mem_takeWhile_imp hc')
        · rw [List.cons_append, List.takeWhile_append_dropWhile]
      · cases h

/-- An identifier is read up to a character that none goes on with. -/
theorem identifier?_complete (h : IsIdentifier name) {c : Char} (hend : inIdentifier c = false)
    (rest : List Char) : identifier? (name ++ c :: rest) = some (name, c :: rest) := by
  obtain ⟨first, tail, rfl, hfirst, htail⟩ := h
  have hinside : ∀ c' ∈ tail, inIdentifier c' = true :=
    fun c' hc' => inIdentifier_iff.mpr (htail c' hc')
  rw [List.cons_append, identifier?, if_pos (startsIdentifier_iff.mpr hfirst),
    List.takeWhile_append_of_pos hinside, List.dropWhile_append_of_pos hinside]
  simp [hend]

theorem name?_sound (h : name? text = some (name, rest)) : IsName name ∧ text = name ++ rest := by
  rw [name?] at h
  split at h
  · cases h
  · next first tail hfirst =>
    obtain ⟨hscope, rfl⟩ := identifier?_sound hfirst
    obtain ⟨⟨second, behind⟩, hsecond, hparts⟩ := Option.map_eq_some_iff.mp h
    obtain ⟨hfield, rfl⟩ := identifier?_sound hsecond
    obtain ⟨rfl, rfl⟩ := Prod.mk.inj hparts
    exact ⟨.inr ⟨first, second, hscope, hfield, rfl⟩, by simp⟩
  · next first tail _ hfirst =>
    obtain ⟨hname, rfl⟩ := identifier?_sound hfirst
    obtain ⟨rfl, rfl⟩ := Prod.mk.inj (Option.some.inj h)
    exact ⟨.inl hname, rfl⟩

theorem name?_complete (h : IsName name) (rest : List Char) :
    name? (name ++ '}' :: rest) = some (name, '}' :: rest) := by
  have hbrace : inIdentifier '}' = false := by decide
  have hpoint : inIdentifier '.' = false := by decide
  rcases h with hname | ⟨scope, field, hscope, hfield, rfl⟩
  · simp [name?, identifier?_complete hname hbrace]
  · simp [name?, identifier?_complete hscope hpoint, identifier?_complete hfield hbrace]

/-- A reference is read exactly where one begins. -/
theorem reference?_eq_some_iff :
    reference? text = some (name, rest) ↔ IsName name ∧ text = written name ++ rest := by
  constructor
  · intro h
    unfold reference? at h
    split at h
    · next tail =>
      split at h
      · next found behind hfound =>
        obtain ⟨rfl, rfl⟩ := Prod.mk.inj (Option.some.inj h)
        obtain ⟨hname, rfl⟩ := name?_sound hfound
        exact ⟨hname, by simp [written]⟩
      · cases h
    · cases h
  · rintro ⟨hname, rfl⟩
    have htext : written name ++ rest = '$' :: '{' :: (name ++ '}' :: rest) := by simp [written]
    rw [htext]
    simp only [reference?, name?_complete hname]

theorem IsIdentifier.dollar_not_mem (h : IsIdentifier name) : '$' ∉ name := by
  obtain ⟨first, rest, rfl, hfirst, hrest⟩ := h
  rw [List.mem_cons]
  rintro (rfl | hmem)
  · revert hfirst
    decide
  · have hinside := hrest _ hmem
    revert hinside
    decide

/-- The only dollar sign of a reference is its first character. -/
theorem IsName.dollar_not_mem (h : IsName name) : '$' ∉ '{' :: name ++ ['}'] := by
  have hname : '$' ∉ name := by
    rcases h with hname | ⟨scope, field, hscope, hfield, rfl⟩
    · exact hname.dollar_not_mem
    · simp [hscope.dollar_not_mem, hfield.dollar_not_mem]
  simp [hname]

/-! ## Divisions -/

/-- No reference occurs in the text. -/
def Plain (text : List Char) : Prop :=
  ∀ name, IsName name → ¬ written name <:+: text

theorem Plain.of_cons {c : Char} (h : Plain (c :: text)) : Plain text :=
  fun name hname hinfix => h name hname (List.infix_cons hinfix)

theorem plain_nil : Plain [] := by
  intro name _ hinfix
  simpa [written] using List.infix_nil.mp hinfix

/-- A text in which no reference occurs is passed over up to its end, or up to the next
reference. -/
theorem reference?_eq_none_of_plain {c : Char} (h : Plain (c :: text))
    (hrest : ∀ c ∈ rest.head?, c = '$') : reference? (c :: (text ++ rest)) = none := by
  cases hfound : reference? (c :: (text ++ rest)) with
  | none => rfl
  | some found =>
      obtain ⟨name, behind⟩ := found
      obtain ⟨hname, htext⟩ := reference?_eq_some_iff.mp hfound
      rw [← List.cons_append] at htext
      rcases List.append_eq_append_iff.mp htext with ⟨overlap, hwritten, hover⟩ | ⟨back, hplain, -⟩
      · -- The reference would have to reach over the end, where the next one begins.
        cases overlap with
        | nil =>
            rw [List.append_nil] at hwritten
            exact absurd (hwritten ▸ List.infix_rfl) (h name hname)
        | cons c' overlap =>
            have hdollar : c' = '$' := hrest c' (by rw [hover]; rfl)
            have hinside : '{' :: name ++ ['}'] = text ++ c' :: overlap :=
              (List.cons.inj hwritten).2
            refine absurd ?_ hname.dollar_not_mem
            rw [hinside, hdollar]
            simp
      · exact absurd ⟨[], back, hplain.symm⟩ (h name hname)

/-! ## Pieces -/

theorem ofText_nil : ofText [] = [] := by
  rw [ofText]
  rfl

theorem ofText_written (h : IsName name) (rest : List Char) :
    ofText (written name ++ rest) = .reference name :: ofText rest := by
  rw [ofText]
  split
  · next name' rest' hfound =>
    rw [reference?_eq_some_iff.mpr ⟨h, rfl⟩] at hfound
    obtain ⟨rfl, rfl⟩ := Prod.mk.inj (Option.some.inj hfound)
    rfl
  · next hfound =>
    rw [reference?_eq_some_iff.mpr ⟨h, rfl⟩] at hfound
    cases hfound

theorem ofText_cons {c : Char} (h : reference? (c :: text) = none) :
    ofText (c :: text) = .char c :: ofText text := by
  rw [ofText]
  split
  · next hfound =>
    rw [h] at hfound
    cases hfound
  · rfl

theorem ofText_plain_append (h : Plain text) (hrest : ∀ c ∈ rest.head?, c = '$') :
    ofText (text ++ rest) = text.map .char ++ ofText rest := by
  induction text with
  | nil => rfl
  | cons c text ih =>
      rw [List.cons_append, ofText_cons (reference?_eq_none_of_plain h hrest), ih h.of_cons]
      rfl

end SealedBuild.Piece

namespace SealedBuild

/-- A text divided at references: what stands before each of them and its name, and what stands
behind the last one. -/
structure Division where
  passages : List (List Char × List Char)
  last : List Char

namespace Division

/-- The text with something in place of each reference. -/
def filled (d : Division) (value : List Char → List Char) : List Char :=
  d.passages.flatMap (fun passage => passage.1 ++ value passage.2) ++ d.last

/-- The text that is divided. -/
def text (d : Division) : List Char :=
  d.filled Piece.written

/-- Every reference is one, and there are no others. -/
structure Proper (d : Division) : Prop where
  names : ∀ passage ∈ d.passages, Piece.IsName passage.2
  plain : ∀ passage ∈ d.passages, Piece.Plain passage.1
  last : Piece.Plain d.last

/-- The pieces that the division consists of. -/
def pieces (d : Division) : List Piece :=
  d.passages.flatMap (fun passage => passage.1.map .char ++ [.reference passage.2]) ++
    d.last.map .char

theorem text_cons (before name : List Char) (passages : List (List Char × List Char))
    (last : List Char) :
    text ⟨(before, name) :: passages, last⟩ =
      before ++ (Piece.written name ++ text ⟨passages, last⟩) := by
  simp [text, filled]

/-- The text of a division is read as its pieces. -/
theorem ofText_text {d : Division} (h : d.Proper) : Piece.ofText d.text = d.pieces := by
  obtain ⟨passages, last⟩ := d
  induction passages with
  | nil =>
      have hlast : Piece.ofText (last ++ []) = last.map .char ++ Piece.ofText [] :=
        Piece.ofText_plain_append h.last nofun
      rw [Piece.ofText_nil, List.append_nil, List.append_nil] at hlast
      exact hlast
  | cons passage passages ih =>
      obtain ⟨before, name⟩ := passage
      obtain ⟨hname, hnames⟩ := List.forall_mem_cons.mp h.names
      obtain ⟨hbefore, hplain⟩ := List.forall_mem_cons.mp h.plain
      rw [text_cons, Piece.ofText_plain_append hbefore (by simp [Piece.written]),
        Piece.ofText_written hname, ih ⟨hnames, hplain, h.last⟩]
      simp [pieces]

/-! ## Finding the division -/

/-- The division with a character before it. -/
def addChar (c : Char) : Division → Division
  | ⟨[], last⟩ => ⟨[], c :: last⟩
  | ⟨(before, name) :: passages, last⟩ => ⟨(c :: before, name) :: passages, last⟩

/-- The division with a piece before it. -/
def add : Piece → Division → Division
  | .char c, d => d.addChar c
  | .reference name, d => ⟨([], name) :: d.passages, d.last⟩

/-- The division into some pieces. -/
def ofPieces (pieces : List Piece) : Division :=
  pieces.foldr add ⟨[], []⟩

theorem ofPieces_map_char (text : List Char) (pieces : List Piece) :
    ofPieces (text.map .char ++ pieces) = text.foldr addChar (ofPieces pieces) := by
  simp [ofPieces, List.foldr_map, add]

theorem foldr_addChar_nil (text last : List Char) :
    text.foldr addChar ⟨[], last⟩ = ⟨[], text ++ last⟩ := by
  induction text with
  | nil => rfl
  | cons c text ih =>
      rw [List.foldr_cons, ih]
      rfl

theorem foldr_addChar_cons (text before name : List Char)
    (passages : List (List Char × List Char)) (last : List Char) :
    text.foldr addChar ⟨(before, name) :: passages, last⟩ =
      ⟨(text ++ before, name) :: passages, last⟩ := by
  induction text with
  | nil => rfl
  | cons c text ih =>
      rw [List.foldr_cons, ih]
      rfl

/-- A division is known by its pieces. -/
theorem ofPieces_pieces (d : Division) : ofPieces d.pieces = d := by
  obtain ⟨passages, last⟩ := d
  induction passages with
  | nil =>
      have hlast := ofPieces_map_char last []
      rw [List.append_nil] at hlast
      simpa [pieces, ofPieces, foldr_addChar_nil] using hlast
  | cons passage passages ih =>
      obtain ⟨before, name⟩ := passage
      have hpieces : pieces ⟨(before, name) :: passages, last⟩ =
          before.map .char ++ .reference name :: pieces ⟨passages, last⟩ := by
        simp [pieces]
      have hrest : ofPieces (.reference name :: pieces ⟨passages, last⟩) =
          ⟨([], name) :: passages, last⟩ := by
        have hadd : ofPieces (.reference name :: pieces ⟨passages, last⟩) =
            add (.reference name) (ofPieces (pieces ⟨passages, last⟩)) := rfl
        rw [hadd, ih]
        rfl
      rw [hpieces, ofPieces_map_char, hrest, foldr_addChar_cons, List.append_nil]

theorem text_addChar (c : Char) (d : Division) : (d.addChar c).text = c :: d.text := by
  obtain ⟨- | ⟨⟨before, name⟩, passages⟩, last⟩ := d <;> rfl

/-- A character can be put before a division where no reference begins with it. -/
theorem Proper.addChar {c : Char} {d : Division} (h : d.Proper)
    (hnone : Piece.reference? (c :: d.text) = none) : (d.addChar c).Proper := by
  have hplain {front rest : List Char} (htext : d.text = front ++ rest)
      (hfront : Piece.Plain front) : Piece.Plain (c :: front) := by
    intro name hname hinfix
    rcases List.infix_cons_iff.mp hinfix with ⟨back, hback⟩ | hinner
    · have hfound : Piece.reference? (c :: d.text) = some (name, back ++ rest) := by
        rw [Piece.reference?_eq_some_iff]
        exact ⟨hname, by rw [htext, ← List.append_assoc, hback, List.cons_append]⟩
      rw [hnone] at hfound
      cases hfound
    · exact hfront name hname hinner
  obtain ⟨- | ⟨⟨before, name⟩, passages⟩, last⟩ := d
  · exact ⟨nofun, nofun, hplain (List.append_nil _).symm h.last⟩
  · obtain ⟨hbefore, hothers⟩ := List.forall_mem_cons.mp h.plain
    refine ⟨List.forall_mem_cons.mpr (List.forall_mem_cons.mp h.names), ?_, h.last⟩
    exact List.forall_mem_cons.mpr ⟨hplain (text_cons _ _ _ _) hbefore, hothers⟩

/-- What is read of a text is a division of it. -/
theorem ofPieces_ofText (text : List Char) :
    (ofPieces (Piece.ofText text)).Proper ∧ (ofPieces (Piece.ofText text)).text = text := by
  induction text using Piece.ofText.induct with
  | case1 text name rest hfound ih =>
      obtain ⟨hproper, htext⟩ := ih
      obtain ⟨hname, rfl⟩ := Piece.reference?_eq_some_iff.mp hfound
      rw [Piece.ofText_written hname]
      refine ⟨⟨List.forall_mem_cons.mpr ⟨hname, hproper.names⟩,
        List.forall_mem_cons.mpr ⟨Piece.plain_nil, hproper.plain⟩, hproper.last⟩, ?_⟩
      exact (text_cons [] name _ _).trans (congrArg (Piece.written name ++ ·) htext)
  | case2 =>
      rw [Piece.ofText_nil]
      exact ⟨⟨nofun, nofun, Piece.plain_nil⟩, rfl⟩
  | case3 c rest hnone ih =>
      obtain ⟨hproper, htext⟩ := ih
      rw [Piece.ofText_cons hnone]
      refine ⟨hproper.addChar (by rw [htext, hnone]), ?_⟩
      exact (text_addChar c _).trans (congrArg (c :: ·) htext)

/-- The division of a text is the one into the pieces that are read. -/
theorem proper_and_text_iff {d : Division} {text : List Char} :
    d.Proper ∧ d.text = text ↔ d = ofPieces (Piece.ofText text) := by
  constructor
  · rintro ⟨hproper, rfl⟩
    rw [ofText_text hproper, ofPieces_pieces]
  · rintro rfl
    exact ofPieces_ofText text

/-! ## Filling in -/

theorem flatMap_pieces (d : Division) {fill : Piece → List Char}
    (hchar : ∀ c, fill (.char c) = [c]) :
    d.pieces.flatMap fill = d.filled fun name => fill (.reference name) := by
  have hplain (text : List Char) : (text.map Piece.char).flatMap fill = text := by
    simp [List.flatMap_map, hchar]
  simp [pieces, filled, List.flatMap_append, List.flatMap_assoc, hplain]

theorem filterMap_pieces (d : Division) {told : Piece → Option String}
    (hchar : ∀ c, told (.char c) = none) :
    d.pieces.filterMap told = d.passages.filterMap fun passage => told (.reference passage.2) := by
  have hplain (text : List Char) : (text.map Piece.char).filterMap told = [] := by
    simp [hchar]
  have hpassage (passage : List Char × List Char) :
      (passage.1.map Piece.char ++ [Piece.reference passage.2]).filterMap told =
        (told (.reference passage.2)).toList := by
    rw [List.filterMap_append, hplain, List.nil_append]
    cases htold : told (.reference passage.2) <;> simp [htold]
  rw [pieces, List.filterMap_append, hplain, List.append_nil, List.filterMap_flatMap,
    List.filterMap_eq_flatMap_toList]
  simp only [hpassage]

end Division

/-- Each text has one division at its references, and interpolation takes it. -/
theorem Variables.interpolate_one_pass (text : String) :
    ∃ division : Division,
      (∀ other : Division, other.Proper ∧ other.text = text.toList ↔ other = division) ∧
      ∀ vars : Variables,
        (vars.interpolate text).toList = division.filled (fun name =>
          ((vars.resolve (String.ofList name)).map String.toList).getD (Piece.written name)) ∧
        vars.unresolved text =
          (division.passages.map fun passage => String.ofList passage.2).filter
            (fun name => (vars.resolve name).isNone) ∧
        vars.interpolateStrict text =
          if vars.unresolved text = [] then .ok (vars.interpolate text)
          else .error (vars.unresolved text) := by
  have hpieces : Piece.ofText text.toList =
      (Division.ofPieces (Piece.ofText text.toList)).pieces := by
    obtain ⟨hproper, htext⟩ := Division.ofPieces_ofText text.toList
    rw [← Division.ofText_text hproper, htext]
  refine ⟨.ofPieces (Piece.ofText text.toList), fun _ => Division.proper_and_text_iff,
    fun vars => ⟨?_, ?_, ?_⟩⟩
  · rw [interpolate, String.toList_ofList]
    nth_rewrite 1 [hpieces]
    rw [Division.flatMap_pieces _ fun _ => rfl]
    congr 1
    funext name
    rw [fill]
    cases vars.resolve (String.ofList name) <;> rfl
  · rw [unresolved]
    nth_rewrite 1 [hpieces]
    rw [Division.filterMap_pieces _ fun _ => rfl, ← List.filterMap_eq_filter, List.filterMap_map]
    rfl
  · rw [interpolateStrict]
    cases vars.unresolved text <;> rfl

end SealedBuild
