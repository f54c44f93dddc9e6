import Mathlib.Data.Set.Subsingleton
import SealedBuild.ImageTag
import SealedBuild.Proofs.Files.Path
import SealedBuild.Proofs.Outcome
import SealedBuild.Proofs.Text.Cuts

/-!
# The grammar of image references

A reference is a name, whose parts stand between slashes, with a tag behind a colon if there is
one. A registry may hold colons itself, and so may a text that is no reference, so it is not the
first or the last colon that cuts a text but the last one behind the last slash. The check accepts
exactly the texts of well-formed references, and no text is that of two of them.
-/

namespace SealedBuild.ImageTag

/-- A reference, taken apart. -/
@[ext]
structure Reference where
  /-- The parts of the name. -/
  name : List (List Char)
  tag : Option (List Char)

/-- How a name is written. -/
def nameText (parts : List (List Char)) : List Char :=
  ['/'].intercalate parts

/-- How a reference is written. -/
def Reference.text (r : Reference) : List Char :=
  nameText r.name ++ r.tag.elim [] (':' :: ·)

/-! ## The grammar -/

/-- The small letters and the digits of ASCII. -/
def IsSmall (c : Char) : Prop :=
  ('a' ≤ c ∧ c ≤ 'z') ∨ ('0' ≤ c ∧ c ≤ '9')

/-- The letters and the digits of ASCII. -/
def IsAlphanumeric (c : Char) : Prop :=
  IsSmall c ∨ ('A' ≤ c ∧ c ≤ 'Z')

/-- The form of a tag. -/
structure IsTag (tag : List Char) : Prop where
  nonempty : 1 ≤ tag.length
  short : tag.length ≤ 128
  first : ∀ c ∈ tag.head?, IsAlphanumeric c ∨ c = '_'
  chars : ∀ c ∈ tag, IsAlphanumeric c ∨ c ∈ ['_', '.', '-']

/-- The form of a part that is no registry. -/
structure IsComponent (part : List Char) : Prop where
  nonempty : part ≠ []
  first : ∀ c ∈ part.head?, IsSmall c
  last : ∀ c ∈ part.getLast?, IsSmall c
  chars : ∀ c ∈ part, IsSmall c ∨ c ∈ ['.', '_', '-']

/-- Whether the first part of a name is a registry. -/
def HasRegistry : List (List Char) → Prop
  | host :: _ :: _ => '.' ∈ host ∨ ':' ∈ host ∨ host = "localhost".toList
  | _ => False

/-- The form of a name. -/
inductive IsName : List (List Char) → Prop where
  | plain {parts : List (List Char)} (hparts : parts ≠ []) (hfirst : ¬ HasRegistry parts)
      (hcomponents : ∀ part ∈ parts, IsComponent part) : IsName parts
  | hosted {host : List Char} {parts : List (List Char)} (hfirst : HasRegistry (host :: parts))
      (hhost : ∀ c ∈ host, IsAlphanumeric c ∨ c ∈ ['.', '-', ':'])
      (hcomponents : ∀ part ∈ parts, IsComponent part) : IsName (host :: parts)

/-- The form of a reference. -/
structure Reference.WellFormed (r : Reference) : Prop where
  name : IsName r.name
  tag : ∀ tag ∈ r.tag, IsTag tag

/-! ## Characters -/

section Characters

variable {c : Char}

theorem isLower_iff : c.isLower = true ↔ 'a' ≤ c ∧ c ≤ 'z' := by
  change (decide ('a' ≤ c) && decide (c ≤ 'z')) = true ↔ _
  rw [Bool.and_eq_true, decide_eq_true_iff, decide_eq_true_iff]

theorem isDigit_iff : c.isDigit = true ↔ '0' ≤ c ∧ c ≤ '9' := by
  change (decide ('0' ≤ c) && decide (c ≤ '9')) = true ↔ _
  rw [Bool.and_eq_true, decide_eq_true_iff, decide_eq_true_iff]

theorem endsComponent_iff : endsComponent c = true ↔ IsSmall c := by
  rw [endsComponent, Bool.or_eq_true, isLower_iff, isDigit_iff, IsSmall]

theorem isAlphanum_iff : c.isAlphanum = true ↔ IsAlphanumeric c := by
  change (decide ('A' ≤ c ∧ c ≤ 'Z') || c.isLower || c.isDigit) = true ↔ _
  rw [Bool.or_assoc, Bool.or_comm, Bool.or_eq_true, decide_eq_true_iff, ← endsComponent,
    endsComponent_iff, IsAlphanumeric]

theorem startsTag_iff : startsTag c = true ↔ IsAlphanumeric c ∨ c = '_' := by
  simp [startsTag, ← isAlphanum_iff]

theorem inTag_iff : inTag c = true ↔ IsAlphanumeric c ∨ c ∈ ['_', '.', '-'] := by
  simp [inTag, ← isAlphanum_iff, or_assoc]

theorem inRegistry_iff : inRegistry c = true ↔ IsAlphanumeric c ∨ c ∈ ['.', '-', ':'] := by
  simp [inRegistry, ← isAlphanum_iff, or_assoc]

theorem inComponent_iff : inComponent c = true ↔ IsSmall c ∨ c ∈ ['.', '_', '-'] := by
  simp [inComponent, ← endsComponent_iff, or_assoc]

/-- A slash is in no part, and a colon in registries only. -/
theorem IsAlphanumeric.ne_separator (h : IsAlphanumeric c) : c ≠ '/' ∧ c ≠ ':' := by
  rw [← isAlphanum_iff] at h
  constructor <;> rintro rfl <;> revert h <;> decide

theorem IsSmall.ne_separator (h : IsSmall c) : c ≠ '/' ∧ c ≠ ':' :=
  IsAlphanumeric.ne_separator (.inl h)

theorem utf8Size_of_inTag (h : inTag c = true) : c.utf8Size = 1 := by
  rw [Char.utf8Size_eq_one_iff]
  rcases inTag_iff.mp h with ((⟨-, hlast⟩ | ⟨-, hlast⟩) | ⟨-, hlast⟩) | hmark
  · exact UInt32.le_trans hlast (by decide)
  · exact UInt32.le_trans hlast (by decide)
  · exact UInt32.le_trans hlast (by decide)
  · simp only [List.mem_cons, List.not_mem_nil, or_false] at hmark
    rcases hmark with rfl | rfl | rfl <;> decide

end Characters

/-! ## Parts -/

theorem IsComponent.not_mem {part : List Char} (h : IsComponent part) :
    '/' ∉ part ∧ ':' ∉ part := by
  have hne : ∀ c ∈ part, c ≠ '/' ∧ c ≠ ':' := by
    intro c hc
    rcases h.chars c hc with hsmall | hmark
    · exact hsmall.ne_separator
    · constructor <;> rintro rfl <;> revert hmark <;> decide
  exact ⟨fun hmem => (hne _ hmem).1 rfl, fun hmem => (hne _ hmem).2 rfl⟩

theorem IsTag.not_mem {tag : List Char} (h : IsTag tag) : '/' ∉ tag ∧ ':' ∉ tag := by
  have hne : ∀ c ∈ tag, c ≠ '/' ∧ c ≠ ':' := by
    intro c hc
    rcases h.chars c hc with hletter | hmark
    · exact hletter.ne_separator
    · constructor <;> rintro rfl <;> revert hmark <;> decide
  exact ⟨fun hmem => (hne _ hmem).1 rfl, fun hmem => (hne _ hmem).2 rfl⟩

theorem any_endsComponent_iff {found : Option Char} (h : found ≠ none) :
    found.any endsComponent = true ↔ ∀ c ∈ found, IsSmall c := by
  cases found with
  | none => exact absurd rfl h
  | some c => simp [endsComponent_iff]

theorem wellFormed_iff {part : List Char} : wellFormed part = true ↔ IsComponent part := by
  by_cases hpart : part = []
  · subst hpart
    exact ⟨nofun, fun h => absurd rfl h.nonempty⟩
  · rw [wellFormed, Bool.and_eq_true, Bool.and_eq_true,
      any_endsComponent_iff (by simpa using hpart), any_endsComponent_iff (by simpa using hpart),
      List.all_eq_true]
    simp only [inComponent_iff]
    exact ⟨fun ⟨⟨hfirst, hlast⟩, hchars⟩ => ⟨hpart, hfirst, hlast, hchars⟩,
      fun h => ⟨⟨h.first, h.last⟩, h.chars⟩⟩

theorem utf8ByteSize_of_inTag {tag : List Char} (h : ∀ c ∈ tag, inTag c = true) :
    (String.ofList tag).utf8ByteSize = tag.length := by
  induction tag with
  | nil => rfl
  | cons c tag ih =>
      rw [List.forall_mem_cons] at h
      rw [String.ofList_cons, String.utf8ByteSize_append, String.utf8ByteSize_singleton,
        utf8Size_of_inTag h.1, ih h.2, List.length_cons, Nat.add_comm]

theorem inTag_of_startsTag {c : Char} (h : startsTag c = true) : inTag c = true := by
  unfold startsTag at h
  simp [inTag, h]

/-- The characters of an accepted tag take one byte each, so that it is as long in characters as
in bytes. -/
theorem checkTag_eq_ok_iff {tag : List Char} : checkTag tag = .ok () ↔ IsTag tag := by
  cases tag with
  | nil => exact ⟨nofun, fun h => absurd h.nonempty (by decide)⟩
  | cons c rest =>
      have hchecked : checkTag (c :: rest) = .ok () ↔ startsTag c = true ∧
          (String.ofList (c :: rest)).utf8ByteSize ≤ longestTag ∧ rest.all inTag = true := by
        rw [checkTag, List.head?_cons, Option.any_some, List.drop_one, List.tail_cons,
          ← Nat.not_lt]
        generalize (String.ofList (c :: rest)).utf8ByteSize = size
        cases startsTag c <;> cases rest.all inTag <;> by_cases hlong : longestTag < size <;>
          simp [hlong]
      rw [hchecked, List.all_eq_true]
      constructor
      · rintro ⟨hfirst, hshort, hrest⟩
        have hchars : ∀ c' ∈ c :: rest, inTag c' = true :=
          List.forall_mem_cons.mpr ⟨inTag_of_startsTag hfirst, hrest⟩
        rw [utf8ByteSize_of_inTag hchars] at hshort
        exact ⟨Nat.succ_pos _, hshort, by simpa using startsTag_iff.mp hfirst,
          fun c' hc' => inTag_iff.mp (hchars c' hc')⟩
      · intro h
        have hchars : ∀ c' ∈ c :: rest, inTag c' = true :=
          fun c' hc' => inTag_iff.mpr (h.chars c' hc')
        rw [utf8ByteSize_of_inTag hchars]
        exact ⟨startsTag_iff.mpr (h.first c rfl), h.short, (List.forall_mem_cons.mp hchars).2⟩

/-! ## Names -/

theorem isRegistry_iff {host second : List Char} {rest : List (List Char)} :
    isRegistry host = true ↔ HasRegistry (host :: second :: rest) := by
  simp [isRegistry, HasRegistry, or_assoc]

namespace IsName

variable {host : List Char} {parts : List (List Char)}

theorem iff_of_hasRegistry (h : HasRegistry (host :: parts)) :
    IsName (host :: parts) ↔
      (∀ c ∈ host, IsAlphanumeric c ∨ c ∈ ['.', '-', ':']) ∧
        ∀ part ∈ parts, IsComponent part := by
  constructor
  · intro hname
    cases hname with
    | plain _ hfirst => exact absurd h hfirst
    | hosted _ hhost hcomponents => exact ⟨hhost, hcomponents⟩
  · rintro ⟨hhost, hcomponents⟩
    exact .hosted h hhost hcomponents

theorem iff_of_not_hasRegistry (h : ¬ HasRegistry (host :: parts)) :
    IsName (host :: parts) ↔ ∀ part ∈ host :: parts, IsComponent part := by
  constructor
  · intro hname
    cases hname with
    | plain _ _ hcomponents => exact hcomponents
    | hosted hfirst => exact absurd hfirst h
  · exact fun hcomponents => .plain (List.cons_ne_nil host parts) h hcomponents

theorem ne_nil (h : IsName parts) : parts ≠ [] := by
  cases h with
  | plain hparts => exact hparts
  | hosted => exact List.cons_ne_nil _ _

theorem slash_not_mem (h : IsName parts) : ∀ part ∈ parts, '/' ∉ part := by
  cases h with
  | plain _ _ hcomponents => exact fun part hpart => (hcomponents part hpart).not_mem.1
  | hosted _ hhost hcomponents =>
      rw [List.forall_mem_cons]
      refine ⟨fun hslash => ?_, fun part hpart => (hcomponents part hpart).not_mem.1⟩
      rcases hhost _ hslash with hletter | hmark
      · exact hletter.ne_separator.1 rfl
      · revert hmark
        decide

/-- The last part is no registry. -/
theorem isComponent_last (h : IsName parts) : ∀ part ∈ parts.getLast?, IsComponent part := by
  cases h with
  | plain _ _ hcomponents => exact fun part hpart => hcomponents part (List.mem_of_getLast? hpart)
  | @hosted host parts hfirst _ hcomponents =>
      intro part hpart
      cases parts with
      | nil => exact hfirst.elim
      | cons second rest =>
          rw [List.getLast?_cons_cons] at hpart
          exact hcomponents part (List.mem_of_getLast? hpart)

end IsName

theorem checkParts_eq_ok_iff {registry : Option (List Char)} {path : List (List Char)} :
    (if registry.any fun host => !host.all inRegistry then .error .malformedRegistry
      else
        match path.find? fun component => !wellFormed component with
        | some component => .error (.malformedComponent (String.ofList component))
        | none => .ok () : Except TagFault Unit) = .ok () ↔
      (∀ host ∈ registry, ∀ c ∈ host, IsAlphanumeric c ∨ c ∈ ['.', '-', ':']) ∧
        ∀ part ∈ path, IsComponent part := by
  have hregistry : (registry.any fun host => !host.all inRegistry) = false ↔
      ∀ host ∈ registry, ∀ c ∈ host, IsAlphanumeric c ∨ c ∈ ['.', '-', ':'] := by
    simp only [← inRegistry_iff]
    cases registry <;> simp
  have hpath : (path.find? fun component => !wellFormed component) = none ↔
      ∀ part ∈ path, IsComponent part := by
    simp [← wellFormed_iff]
  rw [← hregistry, ← hpath]
  cases registry.any fun host => !host.all inRegistry <;>
    cases path.find? fun component => !wellFormed component <;> simp

theorem checkName_eq_ok_iff {name : List Char} :
    checkName name = .ok () ↔ IsName (Text.splitAt '/' name) := by
  have hne : Text.splitAt '/' name ≠ [] := by
    rw [Text.splitAt_eq_splitOn]
    exact List.splitOn_ne_nil _ _
  unfold checkName components
  revert hne
  rcases Text.splitAt '/' name with - | ⟨first, - | ⟨second, rest⟩⟩ <;> intro hne
  · exact (hne rfl).elim
  · rw [IsName.iff_of_not_hasRegistry id]
    exact checkParts_eq_ok_iff.trans (and_iff_right nofun)
  · by_cases hfirst : isRegistry first = true
    · simp only [if_pos hfirst]
      rw [IsName.iff_of_hasRegistry (isRegistry_iff.mp hfirst)]
      exact checkParts_eq_ok_iff.trans (and_congr_left' (by simp))
    · simp only [if_neg hfirst]
      rw [IsName.iff_of_not_hasRegistry (mt isRegistry_iff.mpr hfirst)]
      exact checkParts_eq_ok_iff.trans (and_iff_right nofun)

/-! ## References -/

theorem split_of_cutLast {text before after : List Char}
    (h : Text.cutLast ':' text = some (before, after)) :
    split text = if '/' ∈ after then (text, none) else (before, some after) := by
  simp only [split, h, List.contains_iff_mem]

/-- A text is put together again from its name and its tag. -/
theorem append_split (text : List Char) :
    (split text).1 ++ (split text).2.elim [] (':' :: ·) = text := by
  cases hcut : Text.cutLast ':' text with
  | none => simp [split, hcut]
  | some parts =>
      obtain ⟨before, after⟩ := parts
      rw [split_of_cutLast hcut]
      split
      · simp
      · exact (Text.cutLast_eq_some_iff.mp hcut).1.symm

theorem split_append_tag (name : List Char) {tag : List Char} (hcolon : ':' ∉ tag)
    (hslash : '/' ∉ tag) : split (name ++ ':' :: tag) = (name, some tag) := by
  rw [split_of_cutLast (Text.cutLast_append_cons hcolon), if_neg hslash]

/-- What stands behind the last slash is the last part. -/
theorem exists_getLast?_splitOn (before : List Char) {after : List Char} (hafter : '/' ∉ after) :
    ∃ front, ((before ++ after).splitOn '/').getLast? = some (front ++ after) := by
  cases hcut : Text.cutLast '/' before with
  | none =>
      have hbefore := Text.cutLast_eq_none_iff.mp hcut
      refine ⟨before, ?_⟩
      rw [List.splitOn_eq_singleton (by simp [hbefore, hafter]), List.getLast?_singleton]
  | some parts =>
      obtain ⟨path, front⟩ := parts
      obtain ⟨rfl, hfront⟩ := Text.cutLast_eq_some_iff.mp hcut
      refine ⟨front, ?_⟩
      have hlast : (front ++ after).splitOn '/' = [front ++ after] :=
        List.splitOn_eq_singleton (by simp [hfront, hafter])
      rw [List.append_assoc, List.cons_append, List.splitOn_append_cons_self, hlast,
        List.getLast?_concat]

/-- A text without a colon in its last part has no tag. -/
theorem split_eq_none {text : List Char} (h : ∀ part ∈ (text.splitOn '/').getLast?, ':' ∉ part) :
    split text = (text, none) := by
  cases hcut : Text.cutLast ':' text with
  | none => simp only [split, hcut]
  | some parts =>
      obtain ⟨before, after⟩ := parts
      obtain ⟨rfl, -⟩ := Text.cutLast_eq_some_iff.mp hcut
      rw [split_of_cutLast hcut, if_pos]
      by_contra hslash
      have hback : '/' ∉ ':' :: after := by simp [hslash]
      obtain ⟨front, hlast⟩ := exists_getLast?_splitOn before hback
      exact h _ hlast (by simp)

theorem splitAt_nameText {parts : List (List Char)} (h : IsName parts) :
    Text.splitAt '/' (nameText parts) = parts := by
  rw [Text.splitAt_eq_splitOn]
  exact List.splitOn_intercalate '/' h.slash_not_mem h.ne_nil

namespace Reference

/-- What a text is read as. -/
def ofText (text : List Char) : Reference :=
  ⟨Text.splitAt '/' (split text).1, (split text).2⟩

theorem text_ofText (text : List Char) : (ofText text).text = text := by
  rw [ofText, Reference.text, nameText, Text.splitAt_eq_splitOn, List.intercalate_splitOn,
    append_split]

/-- A well-formed reference can be read back from its text. -/
theorem ofText_text {r : Reference} (h : r.WellFormed) : ofText r.text = r := by
  have hname : Text.splitAt '/' (nameText r.name) = r.name := splitAt_nameText h.name
  suffices hsplit : split r.text = (nameText r.name, r.tag) by
    rw [ofText, hsplit, hname]
  unfold Reference.text
  cases htag : r.tag with
  | none =>
      rw [Option.elim_none, List.append_nil]
      apply split_eq_none
      rw [← Text.splitAt_eq_splitOn, hname]
      exact fun part hpart => (h.name.isComponent_last part hpart).not_mem.2
  | some tag =>
      obtain ⟨hslash, hcolon⟩ := (h.tag tag htag).not_mem
      exact split_append_tag _ hcolon hslash

theorem check_eq_ok_iff {reference : String} :
    check reference = .ok () ↔ (ofText reference.toList).WellFormed := by
  unfold check ofText
  rcases split reference.toList with ⟨name, tag⟩
  have htag : tag.forM checkTag = .ok () ↔ ∀ tag' ∈ tag, IsTag tag' := by
    cases tag with
    | none => exact ⟨nofun, fun _ => rfl⟩
    | some tag => exact checkTag_eq_ok_iff.trans (by simp)
  have hempty : ¬ IsName (Text.splitAt '/' []) :=
    fun h => absurd (h.isComponent_last [] rfl).nonempty (by simp)
  cases name with
  | nil => exact ⟨nofun, fun h => (hempty h.name).elim⟩
  | cons c name =>
      simp only [List.isEmpty_cons, Bool.false_eq_true, if_false, check_bind_eq_ok_iff, htag,
        checkName_eq_ok_iff]
      exact ⟨fun ⟨htag, hname⟩ => ⟨hname, htag⟩, fun h => ⟨h.tag, h.name⟩⟩

end Reference

/-- A text is accepted exactly when it is that of a well-formed reference, and then of one only. -/
theorem validate_eq_ok_iff_spelled (reference : String) :
    (validate reference = .ok () ↔
      ∃ r : Reference, r.WellFormed ∧ r.text = reference.toList) ∧
    {r : Reference | r.WellFormed ∧ r.text = reference.toList}.Subsingleton := by
  have hread {r : Reference} (h : r.WellFormed ∧ r.text = reference.toList) :
      r = Reference.ofText reference.toList := by
    rw [← h.2, Reference.ofText_text h.1]
  refine ⟨?_, fun r hr r' hr' => (hread hr).trans (hread hr').symm⟩
  rw [validate, mapError_eq_ok_iff, Reference.check_eq_ok_iff]
  constructor
  · exact fun h => ⟨_, h, Reference.text_ofText _⟩
  · rintro ⟨r, hr⟩
    exact hread hr ▸ hr.1

end SealedBuild.ImageTag
