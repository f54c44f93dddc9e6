import SealedBuild.Commit
import SealedBuild.Environment
import SealedBuild.Text.Split

/-!
# Variables

References in pipeline files, written as a dollar sign and a name between braces, and what
they stand for. A name is an identifier, or two of them with a point between. Commands keep
the references that nothing answers, so that shell syntax passes through; a tag is refused
instead. The text of a value is never searched for references again.
-/

namespace SealedBuild

/-- A part of a text with references. -/
inductive Piece where
  | char (c : Char)
  | reference (name : List Char)
  deriving DecidableEq

namespace Piece

/-- The characters that start an identifier. -/
def startsIdentifier (c : Char) : Bool :=
  c.isAlpha || c == '_'

/-- The characters of an identifier. -/
def inIdentifier (c : Char) : Bool :=
  c.isAlphanum || c == '_'

/-- The longest identifier at the start of a text, and the rest. -/
def identifier? : List Char → Option (List Char × List Char)
  | [] => none
  | c :: rest =>
    if startsIdentifier c then some (c :: rest.takeWhile inIdentifier, rest.dropWhile inIdentifier)
    else none

/-- The name at the start of a text, one or two identifiers, and the rest. -/
def name? (text : List Char) : Option (List Char × List Char) :=
  match identifier? text with
  | none => none
  | some (first, '.' :: rest) =>
    (identifier? rest).map fun (second, rest) => (first ++ '.' :: second, rest)
  | some (first, rest) => some (first, rest)

/-- The reference at the start of a text, and the rest. -/
def reference? : List Char → Option (List Char × List Char)
  | '$' :: '{' :: text =>
    match name? text with
    | some (name, '}' :: rest) => some (name, rest)
    | _ => none
  | _ => none

/-- How a reference is written. -/
def written (name : List Char) : List Char :=
  '$' :: '{' :: name ++ ['}']

theorem length_of_identifier? {text name rest : List Char}
    (h : identifier? text = some (name, rest)) : rest.length < text.length := by
  cases text with
  | nil => simp [identifier?] at h
  | cons c tail =>
    simp only [identifier?] at h
    split at h
    · simp only [Option.some.injEq, Prod.mk.injEq] at h
      obtain ⟨-, rfl⟩ := h
      have := (List.dropWhile_sublist inIdentifier (l := tail)).length_le
      simp only [List.length_cons]
      omega
    · simp at h

theorem length_of_name? {text name rest : List Char}
    (h : name? text = some (name, rest)) : rest.length < text.length := by
  simp only [name?] at h
  split at h
  · simp at h
  · next first tail hfirst =>
    have hlength := length_of_identifier? hfirst
    simp only [List.length_cons] at hlength
    obtain ⟨⟨second, behind⟩, hsecond, heq⟩ := Option.map_eq_some_iff.1 h
    have := length_of_identifier? hsecond
    simp only [Prod.mk.injEq] at heq
    obtain ⟨-, rfl⟩ := heq
    omega
  · next first tail _ hfirst =>
    simp only [Option.some.injEq, Prod.mk.injEq] at h
    obtain ⟨-, rfl⟩ := h
    exact length_of_identifier? hfirst

theorem length_of_reference? {text name rest : List Char}
    (h : reference? text = some (name, rest)) : rest.length < text.length := by
  unfold reference? at h
  split at h
  · next tail =>
    split at h
    · next found behind hname =>
      have := length_of_name? hname
      simp only [Option.some.injEq, Prod.mk.injEq] at h
      obtain ⟨-, rfl⟩ := h
      simp only [List.length_cons] at this ⊢
      omega
    · simp at h
  · simp at h

/-- The pieces of a text: every reference that starts where the one before has ended, and
all other characters. -/
def ofText (text : List Char) : List Piece :=
  match _h : reference? text with
  | some (name, rest) => .reference name :: ofText rest
  | none =>
    match text with
    | [] => []
    | c :: rest => .char c :: ofText rest
termination_by text.length
decreasing_by
  · exact length_of_reference? _h
  · simp

end Piece

/-- All that references can stand for. -/
structure Variables where
  commit : Commit := {}
  pipelineName : String := ""
  toolchain : Toolchain := ⟨"", ""⟩
  /-- The variables of the host. -/
  env : VarMap := .empty
  /-- The variables given on the command line. -/
  custom : VarMap := .empty
  /-- The date of the run, in universal time. -/
  today : String := ""
  deriving DecidableEq, Inhabited

namespace Variables

/-- A text unless it is empty: names that are not set yet count as unknown. -/
def nonEmpty (text : String) : Option String :=
  if text.isEmpty then none else some text

/-- The value of a name of two identifiers. -/
def resolveField (vars : Variables) (scope field : String) : Option String :=
  match scope with
  | "git" =>
    match field with
    | "sha" => vars.commit.sha
    | "short_sha" => vars.commit.shortSha
    | "branch" => vars.commit.branch
    | "tag" => vars.commit.tag
    | "ref" => vars.commit.refName
    | _ => none
  | "pipeline" => if field = "name" then nonEmpty vars.pipelineName else none
  | "toolchain" =>
    if field = "image" then nonEmpty vars.toolchain.image
    else if field = "version" then nonEmpty vars.toolchain.version
    else none
  | "env" => vars.env.get? field
  | _ => none

/-- The value of a name, if it has one. -/
def resolve (vars : Variables) (name : String) : Option String :=
  match Text.cutFirst '.' name.toList with
  | some (scope, field) => vars.resolveField (String.ofList scope) (String.ofList field)
  | none => if name = "date" then some vars.today else vars.custom.get? name

/-- What a piece of a text becomes: the value of a reference that has one, and else the
piece as it was written. -/
def fill (vars : Variables) : Piece → List Char
  | .char c => [c]
  | .reference name =>
    match vars.resolve (String.ofList name) with
    | some value => value.toList
    | none => Piece.written name

/-- The text with every reference replaced that has a value. -/
def interpolate (vars : Variables) (text : String) : String :=
  String.ofList ((Piece.ofText text.toList).flatMap vars.fill)

/-- The names of the references that have no value, in order. -/
def unresolved (vars : Variables) (text : String) : List String :=
  (Piece.ofText text.toList).filterMap fun
    | .char _ => none
    | .reference name =>
      let name := String.ofList name
      if (vars.resolve name).isNone then some name else none

/-- The text with every reference replaced, or the names of those that have no value. -/
def interpolateStrict (vars : Variables) (text : String) : Except (List String) String :=
  match vars.unresolved text with
  | [] => .ok (vars.interpolate text)
  | missing => .error missing

end Variables

end SealedBuild
