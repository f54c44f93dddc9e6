import Mathlib.Data.List.Basic
import SealedBuild.Proofs.Text.Rows
import SealedBuild.Proofs.Text.ShellReader

/-!
# Scripts read line by line

The part of the shell that a job's script needs: lines that say something, commands that end the
script with a code when they fail, and a line that looks for a file. A script is read row by row
into instructions. Running them tells which commands were run and what the script exits with.

A command is no more than its exit status here. It returns: one that leaves the shell decides the
exit code by itself, and so does one that the shell reads beyond its line, with a quote or a
document that it opens.
-/

namespace SealedBuild

namespace Script

/-- What is at a path. -/
inductive Thing where
  | missing
  | regular
  | directory
  /-- A device, a socket or a pipe. -/
  | special
  | link (target : Thing)
  deriving DecidableEq

/-- Whether there is a regular file, at the end of all links. -/
def Thing.isFile : Thing → Bool
  | regular => true
  | missing | directory | special => false
  | link target => target.isFile

/-- Whether there is a symbolic link. -/
def Thing.isLink : Thing → Bool
  | link _ => true
  | missing | regular | directory | special => false

theorem Thing.isFile_and_not_isLink_iff {thing : Thing} :
    (thing.isFile && !thing.isLink) = true ↔ thing = .regular := by
  cases thing <;> simp [isFile, isLink]

/-- One line of a script, or the two of a command and its exit. -/
inductive Instruction where
  | announce (text : String)
  /-- Runs a command, and ends the script with the code if it fails. -/
  | guarded (command : String) (code : Int)
  /-- Ends the script with the code unless there is a regular file at the first path, and no
  link at the second. -/
  | expectFile (file link complaint : String) (code : Int)
  deriving DecidableEq

/-! ## Reading -/

section Reading

open Text

/-- A code in decimal digits. -/
def code? (digits : List Char) : Option Int :=
  if digits ≠ [] ∧ digits.all Char.isDigit then some (Nat.ofDigitChars 10 digits 0 : Nat) else none

def announcement? (row : List Char) : Option Instruction := do
  let row ← row.dropPrefix? "echo ".toList
  let (text, row) ← ShellReader.word .bare row
  if row = [] then some (.announce (String.ofList text)) else none

def expectation? (row : List Char) : Option Instruction := do
  let row ← row.dropPrefix? "if [ ! -f ".toList
  let (file, row) ← ShellReader.word .bare row
  let row ← row.dropPrefix? " ] || [ -L ".toList
  let (link, row) ← ShellReader.word .bare row
  let row ← row.dropPrefix? " ]; then echo ".toList
  let (complaint, row) ← ShellReader.word .bare row
  let row ← row.dropPrefix? " >&2; exit ".toList
  let code ← code? (row.takeWhile Char.isDigit)
  if row.dropWhile Char.isDigit = "; fi".toList then
    some (.expectFile (String.ofList file) (String.ofList link) (String.ofList complaint) code)
  else none

/-- The instructions of some rows, the first of which closes the command that is open. Empty rows
are none. -/
def instructions? : Option (List Char) → List (List Char) → Option (List Instruction)
  | none, [] => some []
  | some _, [] => none
  | some command, closing :: rows => do
    let code ← closing.dropPrefix? "\x7d || exit ".toList >>= code?
    return .guarded (String.ofList command) code :: (← instructions? none rows)
  | none, row :: rows =>
    if row = [] then instructions? none rows
    else
      match row.dropPrefix? "\x7b ".toList with
      | some command => instructions? (some command) rows
      | none => do
        let instruction ← announcement? row <|> expectation? row
        return instruction :: (← instructions? none rows)

/-- The instructions of a script. -/
def read? (text : String) : Option (List Instruction) :=
  instructions? none (text.toList.splitOn '\n')

end Reading

/-! ## Running -/

/-- How a script ended: what it exited with and the commands that were run. -/
structure Ending where
  exitCode : Int
  ran : List String
  deriving DecidableEq

/-- Runs instructions where some commands have been run before. Each command has its exit
status by its place among the commands. -/
def run (status : Nat → Int) (look : String → Thing) (before : List String) :
    List Instruction → Ending
  | [] => ⟨0, before⟩
  | .announce _ :: rest => run status look before rest
  | .guarded command code :: rest =>
    if status before.length = 0 then run status look (before ++ [command]) rest
    else ⟨code, before ++ [command]⟩
  | .expectFile file link _ code :: rest =>
    if (look file).isFile && !(look link).isLink then run status look before rest
    else ⟨code, before⟩

/-- The guarded commands of some instructions, each with its code. -/
def guards : List Instruction → List (String × Int)
  | [] => []
  | .guarded command code :: rest => (command, code) :: guards rest
  | .announce _ :: rest | .expectFile _ _ _ _ :: rest => guards rest

/-- Whether an instruction does not look at files. -/
def Instruction.IsPlain : Instruction → Prop
  | announce _ | guarded _ _ => True
  | expectFile _ _ _ _ => False

section Running

variable {status : Nat → Int} {look : String → Thing} {before : List String}
  {body rest : List Instruction}

/-- Commands that all succeed are all run, and the script goes on. -/
theorem run_of_succeed (hbody : ∀ instruction ∈ body, instruction.IsPlain)
    (h : ∀ k < (guards body).length, status (before.length + k) = 0) :
    run status look before (body ++ rest) =
      run status look (before ++ (guards body).map Prod.fst) rest := by
  induction body generalizing before with
  | nil => simp [guards]
  | cons instruction body ih =>
      rw [List.forall_mem_cons] at hbody
      cases instruction with
      | announce text => exact ih hbody.2 h
      | guarded command code =>
          -- Statuses go by the commands run before, of which there is one more from here on.
          have hnow : status before.length = 0 := h 0 (by simp [guards])
          have hlater : ∀ k < (guards body).length,
              status ((before ++ [command]).length + k) = 0 := by
            intro k hk
            have := h (k + 1) (by simpa [guards] using hk)
            rwa [List.length_append, List.length_singleton, Nat.add_assoc, Nat.add_comm 1]
          rw [List.cons_append, run, if_pos hnow, ih hbody.2 hlater]
          simp [guards]
      | expectFile => exact hbody.1.elim

/-- The first command that fails is the last one that is run, and its code ends the script. -/
theorem run_of_fail {k : Nat} {command : String} {code : Int}
    (hbody : ∀ instruction ∈ body, instruction.IsPlain)
    (hstep : (guards body)[k]? = some (command, code))
    (hbefore : ∀ m < k, status (before.length + m) = 0)
    (hfail : status (before.length + k) ≠ 0) :
    run status look before (body ++ rest) =
      ⟨code, before ++ ((guards body).take (k + 1)).map Prod.fst⟩ := by
  induction body generalizing before k with
  | nil => cases hstep
  | cons instruction body ih =>
      rw [List.forall_mem_cons] at hbody
      cases instruction with
      | announce text => exact ih hbody.2 hstep hbefore hfail
      | guarded first firstCode =>
          cases k with
          | zero =>
              cases hstep
              rw [Nat.add_zero] at hfail
              rw [List.cons_append, run, if_neg hfail]
              rfl
          | succ k =>
              have hlength : ∀ m, (before ++ [first]).length + m = before.length + (m + 1) := by
                intro m
                rw [List.length_append, List.length_singleton, Nat.add_assoc, Nat.add_comm 1]
              have hnow : status before.length = 0 := hbefore 0 k.succ_pos
              rw [List.cons_append, run, if_pos hnow,
                ih hbody.2 hstep
                  (fun m hm => by rw [hlength]; exact hbefore (m + 1) (Nat.succ_lt_succ hm))
                  (by rwa [hlength])]
              simp [guards]
      | expectFile => exact hbody.1.elim

end Running

/-! ## Reading what is written -/

section Written

open Text

theorem dropPrefix?_append (front back : List Char) :
    (front ++ back).dropPrefix? front = some back :=
  List.dropPrefix?_append_of_beq back (beq_self_eq_true front)

theorem toList_toString (code : Nat) : (toString (code : Int)).toList = Nat.toDigits 10 code := by
  rw [Int.toString_eq_repr, Int.repr_eq_if, if_pos (by omega), Int.toNat_natCast, Nat.toList_repr]

theorem isDigit_of_mem_toString (code : Nat) {c : Char} (h : c ∈ (toString (code : Int)).toList) :
    c.isDigit = true := by
  rw [toList_toString] at h
  exact Nat.isDigit_of_mem_toDigits (by decide) (by decide) h

theorem code?_toString (code : Nat) : code? (toString (code : Int)).toList = some (code : Int) := by
  have hdigits : (toString (code : Int)).toList.all Char.isDigit = true :=
    List.all_eq_true.mpr fun c => isDigit_of_mem_toString code
  rw [toList_toString] at hdigits ⊢
  rw [code?, if_pos ⟨Nat.toDigits_ne_nil, hdigits⟩, Nat.ofDigitChars_ten_toDigits]

/-- Some rows are read as some instructions, whatever rows follow. -/
def Reads (rows : List (List Char)) (found : List Instruction) : Prop :=
  ∀ rest, instructions? none (rows ++ rest) = (instructions? none rest).map (found ++ ·)

theorem Reads.append {rows rows' : List (List Char)} {found found' : List Instruction}
    (h : Reads rows found) (h' : Reads rows' found') : Reads (rows ++ rows') (found ++ found') := by
  intro rest
  rw [List.append_assoc, h, h', Option.map_map]
  simp [Function.comp_def]

theorem Reads.flatMap {α : Type} {items : List α} {rows : α → List (List Char)}
    {found : α → List Instruction} (h : ∀ item ∈ items, Reads (rows item) (found item)) :
    Reads (items.flatMap rows) (items.flatMap found) := by
  induction items with
  | nil => exact fun rest => (congrFun Option.map_id _).symm
  | cons item items ih =>
      rw [List.forall_mem_cons] at h
      rw [List.flatMap_cons, List.flatMap_cons]
      exact h.1.append (ih h.2)

/-- The rows of a guarded command. -/
def guardedRows (command : String) (code : Int) : List (List Char) :=
  ["\x7b ".toList ++ command.toList, "\x7d || exit ".toList ++ (toString code).toList]

theorem reads_guarded (command : String) (code : Nat) :
    Reads (guardedRows command code) [.guarded command code] := by
  intro rest
  rw [guardedRows, List.cons_append, instructions?, if_neg (by simp), dropPrefix?_append]
  dsimp only
  rw [List.cons_append, List.nil_append, instructions?, dropPrefix?_append]
  simp only [Option.bind_eq_bind, Option.bind_some, code?_toString, String.ofList_toList]
  cases instructions? none rest <;> rfl

/-- A row that begins as no command does is read by itself. -/
theorem reads_single {row : List Char} {instruction : Instruction}
    (hrow : row ≠ []) (hcommand : row.dropPrefix? "\x7b ".toList = none)
    (hread : (announcement? row <|> expectation? row) = some instruction) :
    Reads [row] [instruction] := by
  intro rest
  rw [List.cons_append, List.nil_append, instructions?, if_neg hrow, hcommand]
  dsimp only
  rw [hread]
  cases instructions? none rest <;> rfl

end Written

end Script

end SealedBuild
