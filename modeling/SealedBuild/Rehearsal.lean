import SealedBuild.Orchestrator

/-!
# Rehearsals

Backends that follow a script in place of a container engine. Every answer of the executor,
the inspector and the assembler is given beforehand, and every call on them is recorded, in
order and whether or not it then fails. A rehearsal may also change the staged file behind
the back of the runtime stage.
-/

namespace SealedBuild

/-- A call that was made on a backend. -/
inductive BackendCall where
  | canExecute (spec : JobSpec)
  | spawn (spec : JobSpec)
  | logs (handle : JobHandle)
  | wait (handle : JobHandle)
  | copyOut (handle : JobHandle) (path dest : String)
  | remove (handle : JobHandle)
  | inspect (path : String)
  | assemble (request : AssemblyRequest)
  deriving DecidableEq, Inhabited

namespace Rehearsal

/-- The calls on the backends so far. -/
abbrev Record := List BackendCall

/-- Adds a call to the record. -/
def record (call : BackendCall) : Act Record Unit :=
  Act.onBackend fun calls => ((), calls ++ [call])

/-- What lies at the copied path in the container. -/
inductive Deposit where
  | file (content : List UInt8)
  | directory
  deriving DecidableEq, Inhabited

/-- Puts a deposit at a path on the host. -/
def Deposit.place (deposit : Deposit) (dest : String) (files : FileTree) :
    Except FileFault FileTree :=
  match deposit with
  | file content => files.write dest content
  | directory => files.createDir dest

/-- The size of a deposit. -/
def Deposit.size : Deposit → Nat
  | file content => content.length
  | directory => 0

/-- The answers of an executor. -/
structure ExecutorScript where
  name : String
  available : Bool
  /-- The executor's name for the job, if it takes it. -/
  spawned : Except Failure String
  logs : Except Failure (List (LogStream × String))
  ended : Except Failure JobResult
  copied : Except Failure Deposit
  removed : Except Failure Unit

/-- The lines of a log, each with the time it is passed on. -/
def stamped : List (LogStream × String) → Act Record (List LogLine)
  | [] => pure []
  | (stream, content) :: rest => do
    let timestamp ← Act.now
    let lines ← stamped rest
    pure (⟨timestamp, stream, content⟩ :: lines)

/-- The executor that follows a script. -/
def executor (script : ExecutorScript) : Executor Record where
  name := script.name
  canExecute spec := do
    record (.canExecute spec)
    pure script.available
  spawn spec := do
    record (.spawn spec)
    pure (script.spawned.map fun executorId => ⟨spec.id, executorId, script.name⟩)
  logs handle := do
    record (.logs handle)
    match script.logs with
    | .error failure => pure (.error failure)
    | .ok lines => pure (.ok (← stamped lines))
  wait handle := do
    record (.wait handle)
    pure script.ended
  copyOut handle path dest := do
    record (.copyOut handle path dest)
    match script.copied with
    | .error failure => pure (.error failure)
    | .ok deposit =>
      match ← Act.changeFiles (deposit.place dest) with
      | .error fault => pure (.error (.io fault))
      | .ok () => pure (.ok deposit.size)
  remove handle := do
    record (.remove handle)
    pure script.removed

/-- The inspector with a given answer. -/
def inspector (answer : Except Failure Inspection) : Inspector Record where
  inspect path := do
    record (.inspect path)
    pure answer

/-- The assembler with a given answer. -/
def assembler (name : String) (answer : Except Failure String) : Assembler Record where
  name
  assemble request := do
    record (.assemble request)
    pure answer

/-- A change to a staged file by someone else. -/
inductive Tampering where
  | delete
  | directory
  | overwrite (content : List UInt8)
  deriving DecidableEq, Inhabited

/-- The files after a change at a path. A change that is refused leaves them as they are. -/
def Tampering.apply (tampering : Tampering) (path : String) (files : FileTree) : FileTree :=
  match tampering with
  | delete => files.remove path
  | directory => ((files.remove path).createDir path).toOption.getD files
  | overwrite content => (files.write path content).toOption.getD files

/-- A maker of artifacts whose staged files are changed once they are handed off. -/
def tampered (tampering : Tampering) (producer : Producer σ) : Producer σ where
  produce id spec fingerprint := do
    let (result, lines) ← producer.produce id spec fingerprint
    if let .ok handoff := result then
      Act.setFiles (tampering.apply handoff.artifact.stagedPath (← Act.files))
    pure (result, lines)
  discard := producer.discard

end Rehearsal

end SealedBuild
