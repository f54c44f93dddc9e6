/-!
# Failures

What can go wrong in a run, by class. The class decides what a failed run reports as its
kind; the text says what happened. A file operation fails for one of the reasons in
`FileFault`.
-/

namespace SealedBuild

/-- Why an operation on files or programs was refused. -/
inductive FileFault where
  /-- Nothing is at the path, or a directory on the way to it is missing. -/
  | notFound
  /-- Something else is at the path already. -/
  | occupied
  /-- A part of the path that has to be a directory is none. -/
  | notDirectory
  /-- The path names a directory where a file is needed. -/
  | isDirectory
  /-- A name in the path is longer than a file system takes. -/
  | nameTooLong
  /-- The path holds a NUL character. -/
  | interiorNul
  /-- The file was to be read as text and is not UTF-8. -/
  | notText
  /-- The empty path has no absolute form. -/
  | emptyPath
  /-- A reason that another program or a backend reported. -/
  | reported (text : String)
  deriving DecidableEq, Inhabited

/-- The wording of a file fault. -/
def FileFault.message : FileFault → String
  | notFound => "No such file or directory (os error 2)"
  | occupied => "File exists (os error 17)"
  | notDirectory => "Not a directory (os error 20)"
  | isDirectory => "Is a directory (os error 21)"
  | nameTooLong => "File name too long (os error 36)"
  | interiorNul => "file name contained an unexpected NUL byte"
  | notText => "stream did not contain valid UTF-8"
  | emptyPath => "cannot make an empty path absolute"
  | reported text => text

/-- What went wrong in a run. -/
inductive Failure where
  /-- The build environment could not be provided. -/
  | provisioning (detail : String)
  /-- A build command failed. -/
  | compilation (detail : String)
  /-- The artifact was not where the next step expected it. -/
  | artifactHandoff (detail : String)
  /-- The artifact is there but not as it was declared to be. -/
  | invariantViolation (detail : String)
  | notFound (detail : String)
  | invalidInput (detail : String)
  | internal (detail : String)
  /-- A file operation failed. -/
  | io (fault : FileFault)
  deriving DecidableEq, Inhabited

namespace Failure

/-- The name of the failure's class in reports. -/
def kind : Failure → String
  | provisioning _ => "provisioning"
  | compilation _ => "compilation"
  | artifactHandoff _ => "artifact-handoff"
  | invariantViolation _ => "invariant-violation"
  | notFound _ => "not-found"
  | invalidInput _ => "invalid-input"
  | internal _ => "internal"
  | io _ => "io"

/-- The full wording of a failure. -/
def message : Failure → String
  | provisioning detail => "environment provisioning failed: " ++ detail
  | compilation detail => "compilation failed: " ++ detail
  | artifactHandoff detail => "artifact handoff failed: " ++ detail
  | invariantViolation detail => "artifact invariant violated: " ++ detail
  | notFound detail => "not found: " ++ detail
  | invalidInput detail => "invalid input: " ++ detail
  | internal detail => "internal error: " ++ detail
  | io fault => "IO error: " ++ fault.message

end Failure

end SealedBuild
