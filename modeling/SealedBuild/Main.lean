import SealedBuild.CommandLine
import Std.Time.DateTime.Timestamp

/-!
# The program

Reads the environment, the clock and the one pipeline file that a command may need, and
hands them to the command line. The program starts no other program and speaks to no engine:
on its host every program is missing, and so is the engine's socket.
-/

namespace SealedBuild.Program

/-- The variables of a process, as the system lists them: names and values around an equals
sign, each pair ended by a NUL. -/
def variablesOf (listing : List UInt8) : VarMap :=
  VarMap.ofList <|
    (Text.splitAt '\x00' (Utf8.decodeLossy listing).toList).filterMap fun entry =>
      (Text.cutFirst '=' entry).map fun (name, value) =>
        (String.ofList name, String.ofList value)

/-- The host of a process without programs and without an engine. -/
def bareHost (env : VarMap) (runId : RunId) : CommandLine.Host Unit where
  env
  runId
  git := fun _ _ => none
  lister := fun _ _ => .error .notFound
  engine := .error (CommandLine.Host.missingEngine env)

/-- The file that a command line asks for, if it asks for one. -/
def neededFile? (env : VarMap) (words : List String) : Option String :=
  match CommandLine.Invocation.ofWords env words with
  | .ok ⟨_, .validate file⟩ | .ok ⟨_, .render file⟩ | .ok ⟨_, .build file _⟩ => some file.path
  | _ => none

/-- The tree with a change made, or as it is if the change is refused. -/
def changed (files : FileTree) (change : FileTree → Except FileFault FileTree) : FileTree :=
  (change files).toOption.getD files

/-- The files below a working directory, as far as a command needs them: a path and what is
there. -/
def treeOf (workingDir path : String) (node : Option FileNode) : FileTree :=
  let start := (FileTree.createDirAll ⟨[], HostPath.names workingDir⟩ workingDir).1
  match node with
  | none => start
  | some .directory => (start.createDirAll path).1
  | some (.file _ content) =>
    changed (start.createDirAll (HostPath.directoryOf path)).1 (·.write path content)

/-- What is at a path of the host, if it can be read. -/
def readNode (path : String) : IO (Option FileNode) := do
  try
    if ← (← IO.FS.realPath path).isDir then return some .directory
    return some (.file FileTree.newFileMode (← IO.FS.readBinFile path).toList)
  catch _ => return none

/-- The variables of this process. -/
def readVariables : IO VarMap := do
  try
    return variablesOf (← IO.FS.readBinFile "/proc/self/environ").toList
  catch _ => return .empty

/-- The present instant. -/
def readClock : IO Instant := do
  let nanos := (← Std.Time.Timestamp.now).toNanosecondsSinceUnixEpoch.val
  return ⟨Int.fdiv nanos 1000000000, (Int.fmod nanos 1000000000).toNat⟩

/-- A fresh run identifier. -/
def readRunId : IO RunId := do
  let bytes ← IO.getRandomBytes 16
  return ⟨BitVec.ofNat 128 (bytes.toList.foldl (fun n byte => n * 256 + byte.toNat) 0)⟩

end SealedBuild.Program

open SealedBuild in
/-- Carries out a command line and ends with its exit code. -/
def main (words : List String) : IO UInt32 := do
  let env ← Program.readVariables
  let now ← Program.readClock
  let workingDir := toString (← IO.currentDir)
  let path := (Program.neededFile? env words).getD ""
  let files := Program.treeOf workingDir path (← Program.readNode path)
  let host := Program.bareHost env (← Program.readRunId)
  let (ending, _) := CommandLine.run host words { files, clock := fun _ => now, backend := () }
  IO.print ending.stdout
  IO.eprint ending.stderr
  return ending.exitCode.toUInt32
