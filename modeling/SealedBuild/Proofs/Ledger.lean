import SealedBuild.Orchestrator
import SealedBuild.Proofs.Act

/-!
# Ledgers of backend calls

Any backends can be wrapped so that each call on them is written down: the call, its answer,
and the files of the host before and after it. Wrapping changes no answer and no world, so
what the ledger of a run shows is what happened in the plain run.
-/

namespace SealedBuild

variable {σ α β : Type}

/-- A call on a backend with the answer it got. -/
inductive Dealing where
  | canExecute (job : JobSpec) (answer : Bool)
  | spawn (job : JobSpec) (answer : Except Failure JobHandle)
  | logs (handle : JobHandle) (answer : Except Failure (List LogLine))
  | wait (handle : JobHandle) (answer : Except Failure JobResult)
  | copyOut (handle : JobHandle) (path dest : String) (answer : Except Failure Nat)
  | remove (handle : JobHandle) (answer : Except Failure Unit)
  | inspect (path : String) (answer : Except Failure Inspection)
  | assemble (request : AssemblyRequest) (answer : Except Failure String)

/-- A dealing with the files that it found and those that it left. -/
structure LedgerEntry where
  dealing : Dealing
  before : FileTree
  after : FileTree

/-- The dealings of a run, in order. -/
abbrev Ledger := List LedgerEntry

namespace World

/-- The world with an empty ledger beside its backends. -/
def opened (world : World σ) : World (σ × Ledger) where
  files := world.files
  clock := world.clock
  readings := world.readings
  backend := (world.backend, [])

/-- The world without its ledger. -/
def closed (world : World (σ × Ledger)) : World σ where
  files := world.files
  clock := world.clock
  readings := world.readings
  backend := world.backend.1

/-- The dealings so far. -/
def ledger (world : World (σ × Ledger)) : Ledger :=
  world.backend.2

@[simp] theorem closed_opened (world : World σ) : world.opened.closed = world := rfl

@[simp] theorem ledger_opened (world : World σ) : world.opened.ledger = [] := rfl

@[simp] theorem ledger_tick (world : World (σ × Ledger)) : world.tick.ledger = world.ledger := rfl

end World

/-- An action that is written into the ledger once it has been done. -/
def Act.entered (dealing : α → Dealing) (action : Act σ α) : Act (σ × Ledger) α := fun world =>
  let (answer, next) := action world.closed
  let entry := ⟨dealing answer, world.files, next.files⟩
  (answer, { next with backend := (next.backend, world.ledger ++ [entry]) })

/-- The ledger gains the one line of the dealing. -/
theorem Act.ledger_of_entered {dealing : α → Dealing} {action : Act σ α}
    {world next : World (σ × Ledger)} {answer : α}
    (h : Act.entered dealing action world = (answer, next)) :
    next.ledger = world.ledger ++ [⟨dealing answer, world.files, next.files⟩] := by
  cases h
  rfl

/-- An executor that enters its calls. -/
def Executor.entered (executor : Executor σ) : Executor (σ × Ledger) where
  name := executor.name
  canExecute job := Act.entered (.canExecute job) (executor.canExecute job)
  spawn job := Act.entered (.spawn job) (executor.spawn job)
  logs handle := Act.entered (.logs handle) (executor.logs handle)
  wait handle := Act.entered (.wait handle) (executor.wait handle)
  copyOut handle path dest :=
    Act.entered (.copyOut handle path dest) (executor.copyOut handle path dest)
  remove handle := Act.entered (.remove handle) (executor.remove handle)

/-- An inspector that enters its calls. -/
def Inspector.entered (inspector : Inspector σ) : Inspector (σ × Ledger) where
  inspect path := Act.entered (.inspect path) (inspector.inspect path)

/-- An assembler that enters its calls. -/
def Assembler.entered (assembler : Assembler σ) : Assembler (σ × Ledger) where
  name := assembler.name
  assemble request := Act.entered (.assemble request) (assembler.assemble request)

/-- A builder stage whose backends enter their calls. -/
def BuilderStage.entered (stage : BuilderStage σ) : BuilderStage (σ × Ledger) where
  executor := stage.executor.entered
  inspector := stage.inspector.entered
  stagingDir := stage.stagingDir
  retain := stage.retain

/-- A runtime stage whose assembler enters its calls. -/
def RuntimeStage.entered (stage : RuntimeStage σ) : RuntimeStage (σ × Ledger) where
  assembler := stage.assembler.entered
  tag := stage.tag

/-! ## Entering changes nothing else -/

/-- The first action does what the second one does, apart from the ledger. -/
def Act.Enters (action : Act (σ × Ledger) α) (plain : Act σ α) : Prop :=
  ∀ world, plain world.closed = ((action world).1, (action world).2.closed)

namespace Act.Enters

theorem of_entered (dealing : α → Dealing) (action : Act σ α) :
    Act.Enters (Act.entered dealing action) action := by
  intro world
  rfl

theorem pure (a : α) : Act.Enters (σ := σ) (Pure.pure a) (Pure.pure a) := by
  intro world
  rfl

theorem now : Act.Enters (σ := σ) Act.now Act.now := by
  intro world
  rfl

theorem files : Act.Enters (σ := σ) Act.files Act.files := by
  intro world
  rfl

theorem setFiles (tree : FileTree) : Act.Enters (σ := σ) (Act.setFiles tree) (Act.setFiles tree) := by
  intro world
  rfl

theorem bind {action : Act (σ × Ledger) α} {plain : Act σ α} {next : α → Act (σ × Ledger) β}
    {plainNext : α → Act σ β} (haction : Act.Enters action plain)
    (hnext : ∀ a, Act.Enters (next a) (plainNext a)) :
    Act.Enters (action >>= next) (plain >>= plainNext) := by
  intro world
  rw [Act.bind_apply, haction world]
  exact hnext _ _

/-- The bind of actions that may fail. -/
theorem run_bind {action : ExceptT Failure (Act (σ × Ledger)) α} {plain : ExceptT Failure (Act σ) α}
    {next : α → ExceptT Failure (Act (σ × Ledger)) β} {plainNext : α → ExceptT Failure (Act σ) β}
    (haction : Act.Enters action.run plain.run)
    (hnext : ∀ a, Act.Enters (next a).run (plainNext a).run) :
    Act.Enters (action >>= next).run (plain >>= plainNext).run := by
  intro world
  rw [Act.run_bind, Act.run_bind, haction world]
  rcases action.run world with ⟨failure | a, next⟩
  · rfl
  · exact hnext a next

theorem run_lift {action : Act (σ × Ledger) α} {plain : Act σ α} (h : Act.Enters action plain) :
    Act.Enters (monadLift action : ExceptT Failure (Act (σ × Ledger)) α).run
      (monadLift plain : ExceptT Failure (Act σ) α).run := by
  intro world
  rw [Act.run_lift, Act.run_lift, h world]

theorem workOnFiles (operation : FileTree → FileTree × Except FileFault Unit) :
    Act.Enters (σ := σ) (Act.workOnFiles operation) (Act.workOnFiles operation) :=
  bind files fun _ => bind (setFiles _) fun _ => pure _

theorem changeFiles (operation : FileTree → Except FileFault FileTree) :
    Act.Enters (σ := σ) (Act.changeFiles operation) (Act.changeFiles operation) := by
  apply bind files
  intro tree
  cases operation tree with
  | ok changed => exact bind (setFiles changed) fun _ => pure _
  | error fault => exact pure _

theorem discard (stage : BuilderStage σ) (id : RunId) :
    Act.Enters (stage.entered.discard id) (stage.discard id) := by
  unfold BuilderStage.discard
  change Act.Enters (if !stage.retain then _ else _) _
  split
  · exact bind (changeFiles _) fun _ => pure _
  · exact pure _

theorem verify (stage : BuilderStage σ) (spec : BuilderSpec) (path : String) :
    Act.Enters (stage.entered.verify spec path) (stage.verify spec path) := by
  apply run_bind (of_entered _ _)
  intro inspection
  apply run_bind (pure _)
  intro _
  apply run_bind (run_lift files)
  intro tree
  apply run_bind (pure _)
  intro measured
  exact run_bind (run_lift now) fun _ => pure _

theorem collect (stage : BuilderStage σ) (handle : JobHandle) (id : RunId) (spec : BuilderSpec)
    (fingerprint : String) :
    Act.Enters (stage.entered.collect handle id spec fingerprint)
      (stage.collect handle id spec fingerprint) := by
  apply run_bind (of_entered _ _)
  intro result
  cases Job.failureOfExit result.exitCode spec.artifactPath with
  | some failure => exact pure _
  | none =>
      apply run_bind (bind (workOnFiles _) fun _ => pure _)
      intro _
      apply run_bind (of_entered _ _)
      intro _
      exact run_bind (verify stage spec _) fun _ => pure _

theorem follow (stage : BuilderStage σ) (handle : JobHandle) (id : RunId) (spec : BuilderSpec)
    (fingerprint : String) :
    Act.Enters (stage.entered.follow handle id spec fingerprint)
      (stage.follow handle id spec fingerprint) := by
  apply bind (of_entered _ _)
  intro answer
  cases answer with
  | error failure => exact pure _
  | ok lines => exact bind (collect stage handle id spec fingerprint) fun _ => pure _

theorem produce (stage : BuilderStage σ) (id : RunId) (spec : BuilderSpec)
    (fingerprint : String) :
    Act.Enters (stage.entered.produce id spec fingerprint)
      (stage.produce id spec fingerprint) := by
  apply bind files
  intro tree
  cases Job.ofBuilder tree.workingPath id spec with
  | error failure => exact pure _
  | ok job =>
      apply bind (of_entered _ _)
      intro available
      cases available with
      | false => exact pure _
      | true =>
          apply bind (of_entered _ _)
          intro spawned
          cases spawned with
          | error failure => exact pure _
          | ok handle =>
              apply bind (follow stage handle id spec fingerprint)
              rintro ⟨result, lines⟩
              apply bind (of_entered _ _)
              intro _
              cases result with
              | ok handoff => exact pure _
              | error failure => exact bind (discard stage id) fun _ => pure _

theorem package (stage : RuntimeStage σ) (pipeline : String) (spec : RuntimeSpec)
    (handoff : Handoff) :
    Act.Enters (stage.entered.package pipeline spec handoff)
      (stage.package pipeline spec handoff) := by
  apply run_bind (run_lift files)
  intro tree
  apply run_bind (pure _)
  intro _
  apply run_bind (pure _)
  intro tag
  apply run_bind (of_entered _ _)
  intro imageId
  exact run_bind (run_lift now) fun _ => pure _

end Act.Enters

namespace BuilderStage

/-- Dropping what is staged calls no backend. -/
theorem ledger_discard (stage : BuilderStage σ) (id : RunId) (world : World (σ × Ledger)) :
    (stage.entered.discard id world).2.ledger = world.ledger := by
  unfold discard
  split
  · rw [Act.bind_apply, Act.changeFiles_apply]
    cases world.files.removeDirAll (stage.entered.runStaging id) <;> rfl
  · rfl

end BuilderStage

namespace Orchestrator

/-- The orchestrator on a builder stage and a runtime stage. -/
def ofStages (builder : BuilderStage σ) (runtime : RuntimeStage σ) : Orchestrator σ where
  producer := builder.producer
  runtime

variable (builder : BuilderStage σ) (runtime : RuntimeStage σ)

theorem enters_stageResult (stage : Stage) (startedAt : Instant) (failure : Option Failure) :
    Act.Enters (σ := σ) (stageResult stage startedAt failure)
      (stageResult stage startedAt failure) :=
  .bind .now fun _ => .pure _

theorem enters_fail (run : RunRecord) (stage : Stage) (failure : Failure) :
    Act.Enters (σ := σ) (fail run stage failure) (fail run stage failure) :=
  .bind .now fun _ => .pure _

theorem enters_taggedLine (image : RuntimeImage) :
    Act.Enters (σ := σ) (taggedLine image) (taggedLine image) :=
  .bind .now fun _ => .pure _

theorem enters_packageStage (definition : PipelineDefinition) (run : RunRecord)
    (handoff : Handoff) :
    Act.Enters ((ofStages builder.entered runtime.entered).packageStage definition run handoff)
      ((ofStages builder runtime).packageStage definition run handoff) := by
  apply Act.Enters.bind .now
  intro startedAt
  apply Act.Enters.bind (.package runtime _ _ handoff)
  intro packaged
  apply Act.Enters.bind (.discard builder _)
  intro _
  cases packaged with
  | ok image =>
      apply Act.Enters.bind (enters_stageResult _ _ _)
      intro result
      apply Act.Enters.bind (enters_taggedLine image)
      intro line
      exact .bind .now fun _ => .pure _
  | error failure =>
      apply Act.Enters.bind (enters_stageResult _ _ _)
      intro result
      exact .bind (enters_fail _ _ _) fun _ => .pure _

theorem enters_concludeBuild (definition : PipelineDefinition) (run : RunRecord)
    (startedAt : Instant) (produced : Except Failure Handoff) :
    Act.Enters
      ((ofStages builder.entered runtime.entered).concludeBuild definition run startedAt produced)
      ((ofStages builder runtime).concludeBuild definition run startedAt produced) := by
  cases produced with
  | error failure =>
      apply Act.Enters.bind (.discard builder _)
      intro _
      apply Act.Enters.bind (enters_stageResult _ _ _)
      intro result
      exact enters_fail _ _ _
  | ok handoff =>
      apply Act.Enters.bind (enters_stageResult _ _ _)
      intro result
      exact .bind (enters_packageStage builder runtime _ _ handoff) fun _ => .pure _

theorem enters_buildStage (definition : PipelineDefinition) (run : RunRecord) :
    Act.Enters ((ofStages builder.entered runtime.entered).buildStage definition run)
      ((ofStages builder runtime).buildStage definition run) := by
  apply Act.Enters.bind .now
  intro startedAt
  apply Act.Enters.bind (.produce builder _ _ _)
  rintro ⟨produced, lines⟩
  exact .bind (enters_concludeBuild builder runtime _ _ _ produced) fun _ => .pure _

/-- The check before a run calls no backend. -/
theorem precheck_entered (definition : PipelineDefinition) (fingerprint : String) :
    (ofStages builder.entered runtime.entered).precheck definition fingerprint =
      (ofStages builder runtime).precheck definition fingerprint := rfl

/-- A run on backends that enter their calls goes as the plain run does. -/
theorem enters_execute (id : RunId) (definition : PipelineDefinition) :
    Act.Enters ((ofStages builder.entered runtime.entered).execute id definition)
      ((ofStages builder runtime).execute id definition) := by
  apply Act.Enters.bind .now
  intro createdAt
  dsimp only
  rw [precheck_entered]
  cases (ofStages builder runtime).precheck definition _ with
  | error failure => exact enters_fail _ _ _
  | ok _ => exact enters_buildStage builder runtime _ _

end Orchestrator

end SealedBuild
