import SealedBuild.CommandLine.Arguments
import SealedBuild.PipelineFile

/-!
# Complaints

Why a command failed, as it is told to whoever gave the command: what could not be done, and
beneath it the causes, each the reason of the one before. A cause that stands alone is
indented; several are numbered. Further lines of a cause are indented below its first.
-/

namespace SealedBuild.CommandLine

/-- Why a command failed: what could not be done, and the causes, the nearest first. -/
structure Complaint where
  message : String
  causes : List String := []
  deriving DecidableEq, Inhabited

namespace Complaint

/-- A text with its first line behind a mark and the others behind a margin. -/
def hanging (mark margin text : String) : String :=
  mark ++ String.intercalate ("\n" ++ margin)
    ((Text.splitAt '\n' text.toList).map String.ofList)

/-- The mark of a numbered cause: the number, flush right in five places, and a colon. -/
def numberMark (n : Nat) : String :=
  let digits := toString n
  String.ofList (List.replicate (5 - digits.length) ' ') ++ digits ++ ": "

/-- Causes with their numbers, from a number on. -/
def numbered : Nat → List String → List String
  | _, [] => []
  | n, cause :: rest => hanging (numberMark n) "       " cause :: numbered (n + 1) rest

/-- The causes of a complaint, set out. -/
def causeBlock : List String → String
  | [] => ""
  | [cause] => "\n\nCaused by:\n" ++ hanging "    " "    " cause
  | causes => "\n\nCaused by:\n" ++ String.intercalate "\n" (numbered 0 causes)

/-- The complaint as it is told. -/
def text (complaint : Complaint) : String :=
  "Error: " ++ complaint.message ++ causeBlock complaint.causes ++ "\n"

/-- A pipeline file that gives no definition. -/
def ofPipelineFile (path : String) (fault : PipelineFileFault) : Complaint where
  message := "Failed to load pipeline config: " ++ path
  causes := fault.message :: fault.cause?.toList

/-- A failure in the course of something. -/
def ofFailure (what : String) (failure : Failure) : Complaint where
  message := what
  causes := [failure.message]

end Complaint

/-- The wording of a usage fault. -/
def UsageFault.message : UsageFault → String
  | noCommand => "a command is required"
  | unknownCommand name => "unrecognized command '" ++ name ++ "'"
  | unknownOption name => "unexpected option '" ++ name ++ "'"
  | noValue option => "a value is required for '--" ++ option ++ "'"
  | unwantedValue option => "'--" ++ option ++ "' takes no value"
  | repeated option => "'--" ++ option ++ "' cannot be used multiple times"
  | badValue argument value => "invalid value '" ++ value ++ "' for '" ++ argument ++ "'"
  | unwantedWord word => "unexpected argument '" ++ word ++ "'"
  | noBinary => "the executable to inspect is required"

end SealedBuild.CommandLine
