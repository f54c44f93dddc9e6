import SealedBuild.Engine.Containers
import SealedBuild.Engine.Images
import SealedBuild.Orchestrator
import SealedBuild.Proofs.Act
import SealedBuild.Proofs.Ledger

/-!
# Runs as programs of accesses

A run touches the host and the daemon by a few kinds of access: it looks for a file, makes or drops
a directory, extracts an archive, or asks the daemon something. Between two accesses it computes.
A program tells the accesses of a run one by one, each with what is done with its answer, so that
the accesses of other runs can come between them. Carried out with nothing between, the program of a
run does what the run does.

The daemon keeps a state for each container name. Its answers are taken to depend on the container
named in the request, or on the content of a request for an image.
-/

namespace SealedBuild

/-! ## Daemons -/

/-- What a daemon is asked about one container. -/
inductive ContainerRequest : Type → Type where
  | create (config : ContainerConfig) : ContainerRequest (Except EngineFault String)
  | start : ContainerRequest (Except EngineFault Unit)
  | logs : ContainerRequest (EngineStream LogChunk)
  | state : ContainerRequest (Except EngineFault (Option ContainerState))
  | wait : ContainerRequest (EngineStream Int)
  | archive (path : String) : ContainerRequest (EngineStream (List UInt8))
  | remove : ContainerRequest (Except EngineFault Unit)

/-- A daemon whose containers have states in `κ`, which may include that there is none. -/
structure Daemon (κ : Type) where
  ping : Except EngineFault Unit
  /-- The answer to a request about the container of a name, and the container after it. -/
  container : {α : Type} → String → ContainerRequest α → κ → α × κ
  build : ImageBuild → EngineStream BuildMessage
  imageId : String → Except EngineFault (Option String)

/-- The containers of a daemon by name, and the images that a run has asked it for. -/
structure Dock (κ : Type) where
  containers : String → κ
  requested : List ImageBuild

namespace Daemon

variable {κ α : Type} (daemon : Daemon κ)

/-- Asks about one container. No other container takes part in it. -/
def ask (name : String) (request : ContainerRequest α) : Act (Dock κ) α :=
  Act.onBackend fun dock =>
    let (answer, container) := daemon.container name request (dock.containers name)
    (answer, { dock with
      containers := fun other => if other = name then container else dock.containers other })

/-- The daemon as an engine. -/
def engine : Engine (Dock κ) where
  ping := pure daemon.ping
  pull _ := pure ()
  create name config := daemon.ask name (.create config)
  start name := daemon.ask name .start
  logs name := daemon.ask name .logs
  containerState name := daemon.ask name .state
  wait name := daemon.ask name .wait
  archive name path := daemon.ask name (.archive path)
  remove name := daemon.ask name .remove
  build request :=
    Act.onBackend fun dock =>
      (daemon.build request, { dock with requested := dock.requested ++ [request] })
  imageId tag := pure (daemon.imageId tag)

end Daemon

/-! ## Accesses and programs -/

/-- One access of a run. -/
inductive Access : Type → Type 1 where
  | now : Access Instant
  | workingPath : Access String
  | find (path : String) : Access (Except FileFault FileNode)
  | createDirAll (path : String) : Access (Except FileFault Unit)
  | removeDirAll (path : String) : Access Unit
  | extract (archive : List UInt8) (dest : String) : Access (Except Failure Nat)
  | ping : Access (Except EngineFault Unit)
  | pull (image : String) : Access Unit
  | ask {α : Type} (container : String) (request : ContainerRequest α) : Access α
  | build (request : ImageBuild) : Access (EngineStream BuildMessage)
  | imageId (tag : String) : Access (Except EngineFault (Option String))

/-- Accesses, each with what is done with its answer, up to a result. -/
inductive Program (α : Type) : Type 1 where
  | done (result : α)
  | step {β : Type} (access : Access β) (next : β → Program α)

variable {κ α β : Type}

/-- What an access does. -/
def Access.act (daemon : Daemon κ) : Access α → Act (Dock κ) α
  | .now => Act.now
  | .workingPath => fun world => (world.files.workingPath, world)
  | .find path => fun world => (world.files.find path, world)
  | .createDirAll path => Act.workOnFiles fun files => files.createDirAll path
  | .removeDirAll path => do
    let _ ← Act.changeFiles fun files => files.removeDirAll path
  | .extract archive dest => Engine.extractTo archive dest
  | .ping => daemon.engine.ping
  | .pull image => daemon.engine.pull image
  | .ask container request => daemon.ask container request
  | .build request => daemon.engine.build request
  | .imageId tag => daemon.engine.imageId tag

namespace Access

variable {daemon : Daemon κ} (world : World (Dock κ))

theorem act_find (path : String) :
    (Access.find path).act daemon world = (world.files.find path, world) := rfl

theorem act_createDirAll (path : String) :
    (Access.createDirAll path).act daemon world =
      ((world.files.createDirAll path).2,
        { world with files := (world.files.createDirAll path).1 }) := rfl

theorem act_removeDirAll (path : String) :
    (Access.removeDirAll path).act daemon world =
      ((), { world with
        files := (world.files.removeDirAll path).toOption.getD world.files }) := by
  change ((Act.changeFiles fun files => files.removeDirAll path) >>= fun _ => pure () :
    Act (Dock κ) Unit) world = _
  rw [Act.bind_apply, Act.changeFiles_apply]
  cases world.files.removeDirAll path <;> rfl

theorem act_extract (archive : List UInt8) (dest : String) :
    (Access.extract archive dest).act daemon world =
      ((Extraction.extract archive dest world.files).2,
        { world with files := (Extraction.extract archive dest world.files).1 }) := rfl

theorem act_ask (container : String) (request : ContainerRequest α) :
    (Access.ask container request).act daemon world =
      let told := daemon.container container request (world.backend.containers container)
      (told.1, { world with
        backend := { world.backend with
          containers := fun other =>
            if other = container then told.2 else world.backend.containers other } }) := rfl

end Access

namespace Program

/-- A program continued by another. -/
def bind (program : Program α) (next : α → Program β) : Program β :=
  match program with
  | .done result => next result
  | .step access rest => .step access fun answer => (rest answer).bind next

instance : Monad Program where
  pure := done
  bind := bind

/-- The program of one access. -/
def access (access : Access α) : Program α :=
  .step access done

/-- A program carried out with nothing between its accesses. -/
def act (daemon : Daemon κ) : Program α → Act (Dock κ) α
  | .done result => pure result
  | .step access next => do (next (← access.act daemon)).act daemon

/-! ## Carrying programs out -/

section Act

variable {daemon : Daemon κ}

theorem act_access (access : Access α) : (Program.access access).act daemon = access.act daemon :=
  rfl

theorem act_bind (program : Program α) (next : α → Program β) :
    (program >>= next).act daemon = program.act daemon >>= fun a => (next a).act daemon := by
  induction program with
  | done result => rfl
  | step access rest ih =>
      funext world
      exact congrFun (ih (access.act daemon world).1) (access.act daemon world).2

theorem act_bind_congr {program : Program α} {next : α → Program β} {action : Act (Dock κ) α}
    {further : α → Act (Dock κ) β} (hprogram : program.act daemon = action)
    (hnext : ∀ a, (next a).act daemon = further a) :
    (program >>= next).act daemon = action >>= further := by
  rw [act_bind, hprogram, funext hnext]

/-- The bind of programs that may fail. -/
theorem act_run_bind_congr {program : ExceptT Failure Program α}
    {next : α → ExceptT Failure Program β} {action : ExceptT Failure (Act (Dock κ)) α}
    {further : α → ExceptT Failure (Act (Dock κ)) β}
    (hprogram : act daemon program.run = action.run)
    (hnext : ∀ a, act daemon (next a).run = (further a).run) :
    act daemon (program >>= next).run = (action >>= further).run := by
  change act daemon (program.run >>= ExceptT.bindCont next) =
    action.run >>= ExceptT.bindCont further
  refine act_bind_congr hprogram fun answer => ?_
  cases answer with
  | ok a => exact hnext a
  | error failure => rfl

/-- Looking at all files to find one of them is an access to that one. -/
theorem act_find_congr {path : String} {next : Except FileFault FileNode → Program β}
    {further : FileTree → Act (Dock κ) β}
    (hnext : ∀ files, (next (files.find path)).act daemon = further files) :
    (Program.access (.find path) >>= next).act daemon = Act.files >>= further := by
  funext world
  exact congrFun (hnext world.files) world

/-- A step that cannot fail, within a program that may. -/
theorem act_run_lift {program : Program α} {action : Act (Dock κ) α}
    (h : program.act daemon = action) :
    act daemon (monadLift program : ExceptT Failure Program α).run =
      (monadLift action : ExceptT Failure (Act (Dock κ)) α).run :=
  act_bind_congr h fun _ => rfl

/-- Looking at all files to find one of them, within a program that may fail. -/
theorem act_run_find_congr {path : String}
    {next : Except FileFault FileNode → ExceptT Failure Program β}
    {further : FileTree → ExceptT Failure (Act (Dock κ)) β}
    (hnext : ∀ files, act daemon (next (files.find path)).run = (further files).run) :
    act daemon
        ((monadLift (Program.access (.find path)) : ExceptT Failure Program _) >>= next).run =
      ((monadLift (Act.files : Act (Dock κ) FileTree) : ExceptT Failure _ _) >>= further).run := by
  funext world
  exact congrFun (hnext world.files) world

end Act

/-! ## Builder containers -/

def canExecute : Program Bool := do
  pure (← access .ping).toBool

def removeContainer (name : String) : Program (Except Failure Unit) := do
  pure ((← access (.ask name .remove)).mapError fun fault =>
    .internal ("cannot remove container: " ++ fault.message))

def startContainer (name : String) : Program (Except Failure Unit) := do
  match ← access (.ask name .start) with
  | .ok () => pure (.ok ())
  | .error fault =>
    let _ ← removeContainer name
    pure (.error (.provisioning
      ("cannot start container " ++ name ++ ": " ++ fault.message)))

def spawn (spec : JobSpec) : Program (Except Failure JobHandle) := do
  let container := Engine.containerName spec.id
  access (.pull spec.image)
  match ← access (.ask container (.create (Engine.containerConfig spec))) with
  | .error fault =>
    pure (.error (.provisioning
      ("cannot create container from " ++ spec.image ++ ": " ++ fault.message)))
  | .ok containerId =>
    match ← startContainer container with
    | .error failure => pure (.error failure)
    | .ok () => pure (.ok ⟨spec.id, containerId, Engine.name⟩)

def logLines : EngineStream LogChunk → Program (List LogLine)
  | [] => pure []
  | .error _ :: rest => logLines rest
  | .ok chunk :: rest => do
    let timestamp ← access .now
    let lines ← logLines rest
    pure (⟨timestamp, Engine.LogSource.stream chunk.source,
      Text.trimmedEnd (Utf8.decodeLossy chunk.bytes)⟩ :: lines)

def jobLogs (handle : JobHandle) : Program (Except Failure (List LogLine)) := do
  let chunks ← access (.ask (Engine.containerName handle.id) .logs)
  let lines ← logLines chunks
  pure (.ok lines)

def status (handle : JobHandle) : Program (Except Failure JobStatus) := do
  let container := Engine.containerName handle.id
  match ← access (.ask container .state) with
  | .error fault =>
    pure (.error (.notFound ("container " ++ container ++ ": " ++ fault.message)))
  | .ok none => pure (.error (.internal "container has no state"))
  | .ok (some state) => pure (.ok (Engine.statusOf state (← access .now)))

def waitForJob (handle : JobHandle) : Program (Except Failure JobResult) := do
  match ← status handle with
  | .error failure => pure (.error failure)
  | .ok current =>
    if current.isTerminal then pure (.ok ⟨current, Engine.exitCodeOf current⟩)
    else
      let exitCode :=
        Engine.waitedCode (← access (.ask (Engine.containerName handle.id) .wait))
      match ← status handle with
      | .error failure => pure (.error failure)
      | .ok status => pure (.ok ⟨status, exitCode⟩)

def copyOut (handle : JobHandle) (path dest : String) : Program (Except Failure Nat) := do
  let container := Engine.containerName handle.id
  match Engine.collected (← access (.ask container (.archive path))) with
  | .error fault => pure (.error (Engine.copyFailure container path fault))
  | .ok archive => access (.extract archive dest)

section Act

variable (daemon : Daemon κ)

theorem act_canExecute (job : JobSpec) :
    canExecute.act daemon = daemon.engine.executor.canExecute job :=
  act_bind_congr (act_access _) fun _ => rfl

theorem act_removeContainer (name : String) :
    (removeContainer name).act daemon = daemon.engine.removeContainer name :=
  act_bind_congr (act_access _) fun _ => rfl

theorem act_startContainer (name : String) :
    (startContainer name).act daemon = daemon.engine.startContainer name := by
  refine act_bind_congr (act_access _) fun answer => ?_
  cases answer with
  | ok _ => rfl
  | error fault => exact act_bind_congr (act_removeContainer daemon name) fun _ => rfl

theorem act_spawn (spec : JobSpec) : (spawn spec).act daemon = daemon.engine.spawn spec := by
  refine act_bind_congr (act_access _) fun _ => act_bind_congr (act_access _) fun answer => ?_
  cases answer with
  | error fault => rfl
  | ok containerId =>
      refine act_bind_congr (act_startContainer daemon _) fun started => ?_
      cases started <;> rfl

theorem act_logLines (chunks : EngineStream LogChunk) :
    (logLines chunks).act daemon = Engine.logLines chunks := by
  induction chunks with
  | nil => rfl
  | cons item rest ih =>
      cases item with
      | error fault => exact ih
      | ok chunk => exact act_bind_congr (act_access _) fun _ => act_bind_congr ih fun _ => rfl

theorem act_jobLogs (handle : JobHandle) :
    (jobLogs handle).act daemon = daemon.engine.jobLogs handle :=
  act_bind_congr (act_access _) fun chunks =>
    act_bind_congr (act_logLines daemon chunks) fun _ => rfl

theorem act_status (handle : JobHandle) :
    (status handle).act daemon = daemon.engine.status handle := by
  refine act_bind_congr (act_access _) fun answer => ?_
  rcases answer with fault | - | state
  · rfl
  · rfl
  · exact act_bind_congr (act_access _) fun _ => rfl

theorem act_waitForJob (handle : JobHandle) :
    (waitForJob handle).act daemon = daemon.engine.waitForJob handle := by
  refine act_bind_congr (act_status daemon handle) fun answer => ?_
  cases answer with
  | error failure => rfl
  | ok current =>
      dsimp only
      split
      · rfl
      · refine act_bind_congr (act_access _) fun codes => ?_
        refine act_bind_congr (act_status daemon handle) fun answer => ?_
        cases answer <;> rfl

theorem act_copyOut (handle : JobHandle) (path dest : String) :
    (copyOut handle path dest).act daemon = daemon.engine.copyOut handle path dest := by
  refine act_bind_congr (act_access _) fun parts => ?_
  cases Engine.collected parts with
  | error fault => rfl
  | ok archive => exact act_access _

end Act

/-! ## Image builds -/

def taggedImage (tag : String) : Program (Except Failure String) := do
  match ← access (.imageId tag) with
  | .error fault => pure (.error (.notFound ("image " ++ tag ++ ": " ++ fault.message)))
  | .ok none => pure (.error (.internal ("image " ++ tag ++ " has no id")))
  | .ok (some id) => pure (.ok id)

/-- The content of what was found, if it is a file. -/
def contentOf : FileNode → Except FileFault (List UInt8)
  | .file _ content => .ok content
  | .directory => .error .isDirectory

/-- The build context of a request, by what was found at its staged path. -/
def packed (request : AssemblyRequest) (found : Except FileFault FileNode) :
    Except Failure (List UInt8) :=
  match found.bind contentOf with
  | .ok content => .ok (Archive.write (BuildContext.newFiles request.containerfile content))
  | .error fault =>
    .error (.artifactHandoff
      ("cannot read artifact at " ++ request.artifact.stagedPath ++ ": " ++ fault.message))

def assemble (request : AssemblyRequest) : Program (Except Failure String) := do
  match packed request (← access (.find request.artifact.stagedPath)) with
  | .error failure => pure (.error failure)
  | .ok context =>
    match Engine.builtImage none
        (← access (.build ⟨request.tag, request.labels, context⟩)) with
    | .error failure => pure (.error failure)
    | .ok (some id) => pure (.ok id)
    | .ok none => taggedImage request.tag

section Act

variable (daemon : Daemon κ)

theorem act_taggedImage (tag : String) :
    (taggedImage tag).act daemon = daemon.engine.taggedImage tag := by
  refine act_bind_congr (act_access _) fun answer => ?_
  rcases answer with fault | - | id <;> rfl

theorem read_eq (files : FileTree) (path : String) :
    files.read path = (files.find path).bind contentOf := by
  unfold FileTree.read
  rcases files.find path with fault | - | ⟨mode, content⟩ <;> rfl

theorem packed_find (files : FileTree) (request : AssemblyRequest) :
    packed request (files.find request.artifact.stagedPath) = BuildContext.pack files request := by
  unfold packed
  rw [← read_eq]
  rfl

theorem act_assemble (request : AssemblyRequest) :
    (assemble request).act daemon = daemon.engine.assemble request := by
  refine act_find_congr fun files => ?_
  rw [packed_find]
  cases BuildContext.pack files request with
  | error failure => rfl
  | ok context =>
      refine act_bind_congr (act_access _) fun messages => ?_
      rcases Engine.builtImage none messages with failure | - | id
      · rfl
      · exact act_taggedImage daemon request.tag
      · rfl

end Act

end Program

end SealedBuild
