import Mathlib.Logic.Function.Basic
import SealedBuild.Proofs.Concurrent.Run

/-!
# Runs under way together

Several runs share the files of a host and the containers of a daemon. A schedule says whose access
is next, access by access; a run that is at its end lets its turn pass. Running one after the other
is one of the schedules.
-/

namespace SealedBuild

variable {ι κ : Type}

/-- The result of a program that is at its end. -/
def Program.result? {α : Type} : Program α → Option α
  | .done result => some result
  | .step _ _ => none

theorem Program.eq_done_of_result? {α : Type} {program : Program α} {result : α}
    (h : program.result? = some result) : program = .done result := by
  cases program with
  | done told => rw [Option.some.inj h]
  | step access next => cases h

/-- The files of a host and the containers of its daemon. -/
structure SharedHost (κ : Type) where
  files : FileTree
  containers : String → κ

namespace SharedHost

/-- The same files and the same containers. -/
structure Same (host host' : SharedHost κ) : Prop where
  workingDir : host.files.workingDir = host'.files.workingDir
  get? : ∀ location, host.files.get? location = host'.files.get? location
  containers : host.containers = host'.containers

/-- The part of a world that runs share. -/
def ofWorld (world : World (Dock κ)) : SharedHost κ :=
  ⟨world.files, world.backend.containers⟩

end SharedHost

/-- What one of several runs has of its own while it is under way. -/
structure Runner where
  program : Program (List Event × RunOutcome)
  clock : Nat → Instant
  readings : Nat
  requested : List ImageBuild

namespace Runner

/-- The world as the run sees it. -/
def world (runner : Runner) (host : SharedHost κ) : World (Dock κ) where
  files := host.files
  clock := runner.clock
  readings := runner.readings
  backend := ⟨host.containers, runner.requested⟩

/-- A run with the rest of its program, in the world that its last access has left. -/
def ofWorld (program : Program (List Event × RunOutcome)) (world : World (Dock κ)) : Runner where
  program
  clock := world.clock
  readings := world.readings
  requested := world.backend.requested

end Runner

namespace Assignment

variable (run : Assignment) (daemon : Daemon κ) (stagingDir : String) (host : SharedHost κ)

/-- The run before its first access. -/
def runner : Runner where
  program := run.program stagingDir
  clock := run.clock
  readings := 0
  requested := []

/-- The run with nobody else on the host: what it told, its outcome, and the world after it. -/
def alone : (List Event × RunOutcome) × World (Dock κ) :=
  (run.orchestrator stagingDir daemon).execute run.id run.definition
    { files := host.files, clock := run.clock, backend := ⟨host.containers, []⟩ }

theorem act_runner :
    (run.runner stagingDir).program.act daemon ((run.runner stagingDir).world host) =
      run.alone daemon stagingDir host :=
  congrFun (run.act_program stagingDir daemon) _

end Assignment

/-- Runs under way on a host. -/
structure Runs (ι κ : Type) where
  host : SharedHost κ
  runner : ι → Runner

namespace Runs

/-- The runs before any of them has begun. -/
def start (stagingDir : String) (host : SharedHost κ) (runs : ι → Assignment) : Runs ι κ :=
  ⟨host, fun i => (runs i).runner stagingDir⟩

/-- Every run is at its end. -/
def Ended (runs : Runs ι κ) : Prop :=
  ∀ i, ∃ told, (runs.runner i).program = .done told

variable [DecidableEq ι] (daemon : Daemon κ)

/-- One of the runs has come to a program in a world. -/
def reach (runs : Runs ι κ) (i : ι) (program : Program (List Event × RunOutcome))
    (world : World (Dock κ)) : Runs ι κ where
  host := .ofWorld world
  runner := Function.update runs.runner i (.ofWorld program world)

/-- The next access of one of the runs. -/
def step (runs : Runs ι κ) (i : ι) : Runs ι κ :=
  match (runs.runner i).program with
  | .done _ => runs
  | .step access next =>
    let (answer, world) := access.act daemon ((runs.runner i).world runs.host)
    runs.reach i (next answer) world

/-- The runs after the accesses of a schedule. -/
def after (runs : Runs ι κ) (schedule : List ι) : Runs ι κ :=
  schedule.foldl (fun runs i => runs.step daemon i) runs

variable {runs : Runs ι κ} {i : ι}

theorem after_append (schedule more : List ι) :
    runs.after daemon (schedule ++ more) = (runs.after daemon schedule).after daemon more :=
  List.foldl_append

theorem step_of_access {β : Type} {access : Access β} {next : β → Program _}
    (h : (runs.runner i).program = .step access next) :
    runs.step daemon i =
      runs.reach i (next (access.act daemon ((runs.runner i).world runs.host)).1)
        (access.act daemon ((runs.runner i).world runs.host)).2 := by
  rw [step, h]
  rfl

theorem step_of_done {told : List Event × RunOutcome}
    (h : (runs.runner i).program = .done told) : runs.step daemon i = runs := by
  rw [step, h]

/-! ## One after the other -/

theorem reach_self (runs : Runs ι κ) (i : ι) :
    runs.reach i (runs.runner i).program ((runs.runner i).world runs.host) = runs := by
  have hrunner : Runner.ofWorld (runs.runner i).program ((runs.runner i).world runs.host) =
      runs.runner i := rfl
  rw [reach, hrunner, Function.update_eq_self]
  rfl

theorem reach_reach (program last : Program (List Event × RunOutcome))
    (world world' : World (Dock κ)) :
    (runs.reach i program world).reach i last world' = runs.reach i last world' := by
  rw [reach, reach, Function.update_idem]
  rfl

/-- One of the runs can be carried to its end while the others wait. -/
theorem exists_after_done (runs : Runs ι κ) (i : ι) :
    ∃ turns, runs.after daemon (List.replicate turns i) =
      let ended := (runs.runner i).program.act daemon ((runs.runner i).world runs.host)
      runs.reach i (.done ended.1) ended.2 := by
  -- By induction on what is left of the run's program, from whatever runs have come to it.
  generalize hprogram : (runs.runner i).program = program
  induction program generalizing runs with
  | done told =>
      refine ⟨0, ?_⟩
      have hself := runs.reach_self i
      rw [hprogram] at hself
      exact hself.symm
  | step access next ih =>
      rcases hacted : access.act daemon ((runs.runner i).world runs.host) with ⟨answer, world⟩
      have hstep := step_of_access daemon hprogram
      rw [hacted] at hstep
      have hrunner : (runs.reach i (next answer) world).runner i = .ofWorld (next answer) world :=
        Function.update_self i _ _
      obtain ⟨turns, hturns⟩ := ih answer (runs.reach i (next answer) world)
        (congrArg Runner.program hrunner)
      refine ⟨turns + 1, ?_⟩
      rw [List.replicate_succ, after, List.foldl_cons, hstep, ← after, hturns, hrunner]
      rw [reach_reach, Program.act, Act.bind_apply, hacted]
      rfl

theorem program_reached {reached : Runs ι κ} {told : List Event × RunOutcome}
    {world : World (Dock κ)} (h : reached = runs.reach i (.done told) world) :
    (reached.runner i).program = .done told := by
  subst h
  unfold reach
  dsimp only
  rw [Function.update_self]
  rfl

theorem runner_reached {reached : Runs ι κ} {program : Program (List Event × RunOutcome)}
    {world : World (Dock κ)} (h : reached = runs.reach i program world) {j : ι} (hj : j ≠ i) :
    reached.runner j = runs.runner j := by
  rw [h]
  exact Function.update_of_ne hj _ _

/-- Runs can be carried to their ends one after the other. -/
theorem exists_after_order (stagingDir : String) (runs : ι → Assignment) (order : List ι)
    (hnodup : order.Nodup) (before : Runs ι κ)
    (hwaiting : ∀ i ∈ order, before.runner i = (runs i).runner stagingDir) :
    ∃ schedule,
      (before.after daemon schedule).host =
        order.foldl (fun host i => .ofWorld ((runs i).alone daemon stagingDir host).2)
          before.host ∧
      (∀ i ∈ order, ∃ told, ((before.after daemon schedule).runner i).program = .done told) ∧
      ∀ i, i ∉ order → (before.after daemon schedule).runner i = before.runner i := by
  induction order generalizing before with
  | nil => exact ⟨[], rfl, nofun, fun _ _ => rfl⟩
  | cons i order ih =>
      obtain ⟨hnot, hnodup⟩ := List.nodup_cons.mp hnodup
      obtain ⟨turns, hturns⟩ := before.exists_after_done daemon i
      rw [hwaiting i List.mem_cons_self, (runs i).act_runner] at hturns
      obtain ⟨schedule, hhost, hdone, hrest⟩ := ih hnodup
        (before.after daemon (List.replicate turns i)) fun j hj => by
          rw [runner_reached hturns fun h => hnot (h ▸ hj)]
          exact hwaiting j (List.mem_cons_of_mem i hj)
      refine ⟨List.replicate turns i ++ schedule, ?_, fun j hj => ?_, fun j hj => ?_⟩
      · rw [after_append, hhost, hturns]
        rfl
      · rw [after_append]
        rcases List.mem_cons.mp hj with rfl | hj
        · rw [hrest j hnot]
          exact ⟨_, program_reached hturns⟩
        · exact hdone j hj
      · rw [after_append, hrest j fun h => hj (List.mem_cons_of_mem i h),
          runner_reached hturns fun h => hj (h ▸ List.mem_cons_self)]

/-- Any runs of a list can be carried to their ends, from wherever they stand. -/
theorem exists_after_all_done (order : List ι) (before : Runs ι κ) :
    ∃ schedule, ∀ i, i ∈ order ∨ (∃ told, (before.runner i).program = .done told) →
      ∃ told, ((before.after daemon schedule).runner i).program = .done told := by
  induction order generalizing before with
  | nil => exact ⟨[], fun i h => h.resolve_left List.not_mem_nil⟩
  | cons i order ih =>
      obtain ⟨turns, hturns⟩ := before.exists_after_done daemon i
      obtain ⟨schedule, hdone⟩ := ih (before.after daemon (List.replicate turns i))
      refine ⟨List.replicate turns i ++ schedule, fun j hj => ?_⟩
      rw [after_append]
      refine hdone j ?_
      by_cases hji : j = i
      · subst hji
        exact .inr ⟨_, program_reached hturns⟩
      · rw [runner_reached hturns hji]
        exact hj.imp_left fun hmem => (List.mem_cons.mp hmem).resolve_left hji

end Runs

end SealedBuild
