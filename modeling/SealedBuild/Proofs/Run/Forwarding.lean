import Mathlib.Logic.Relation
import SealedBuild.Proofs.Run.Course

/-!
# Runs while they are told

A run tells its events while it goes on, and two tasks tell them. Once the builder stage is
announced, its producer sends log lines into a channel of some capacity, and a second task takes
them out again and tells each as an event. The run joins that task when the producer is done, and
only then concludes the stage and tells what follows. The tasks may be scheduled in any order:
every schedule comes to an end, and to the same one, which is that of `Orchestrator.execute`.

The producer's work is one action here, whose lines are known from its start; there is no time,
so a line that the producer gives up on is none of its lines.
-/

namespace SealedBuild.Forwarding

variable {σ : Type}

/-- A builder stage that has been announced and not yet joined. -/
structure Building (σ : Type) where
  run : RunRecord
  startedAt : Instant
  produced : Except Failure Handoff
  /-- The world that the producer leaves. -/
  built : World σ
  /-- The lines that the producer has yet to send. -/
  unsent : List LogLine
  channel : List LogLine
  told : List Event

/-- Where a run stands. -/
inductive Moment (σ : Type) where
  | ready (start : World σ)
  | building (stage : Building σ)
  | finished (told : List Event) (outcome : RunOutcome) (finish : World σ)

variable (o : Orchestrator σ) (id : RunId) (definition : PipelineDefinition)

/-- One step of one of the tasks. A full channel holds the producer up, an empty one the
forwarding task, and what is unsent or in the channel holds the run up. -/
inductive Step (capacity : Nat) : Moment σ → Moment σ → Prop where
  | refuse {start finish : World σ} {failure : Failure} {events : List Event}
      {outcome : RunOutcome}
      (hprecheck : o.precheck definition definition.fingerprint = .error failure)
      (hfail : Orchestrator.fail (RunRecord.start id definition start.instant) .builder failure
        start.tick = ((events, outcome), finish)) :
      Step capacity (.ready start) (.finished events outcome finish)
  | announce {start built : World σ} {produced : Except Failure Handoff} {lines : List LogLine}
      (hprecheck : o.precheck definition definition.fingerprint = .ok ())
      (hproduce : o.producer.produce id definition.builder definition.fingerprint
        start.tick.tick = ((produced, lines), built)) :
      Step capacity (.ready start) (.building {
        run := RunRecord.start id definition start.instant
        startedAt := start.tick.instant
        produced
        built
        unsent := lines
        channel := []
        told := [.stageStarted .builder] })
  | send {stage : Building σ} {line : LogLine} {unsent : List LogLine}
      (hunsent : stage.unsent = line :: unsent) (hroom : stage.channel.length < capacity) :
      Step capacity (.building stage)
        (.building { stage with unsent, channel := stage.channel ++ [line] })
  | forward {stage : Building σ} {line : LogLine} {channel : List LogLine}
      (hchannel : stage.channel = line :: channel) :
      Step capacity (.building stage)
        (.building { stage with channel, told := stage.told ++ [.stageLog .builder line] })
  | join {stage : Building σ} {finish : World σ} {events : List Event} {outcome : RunOutcome}
      (hunsent : stage.unsent = []) (hchannel : stage.channel = [])
      (hconclude : o.concludeBuild definition stage.run stage.startedAt stage.produced
        stage.built = ((events, outcome), finish)) :
      Step capacity (.building stage) (.finished (stage.told ++ events) outcome finish)

/-- The moments that some schedule leads to. -/
abbrev Reaches (capacity : Nat) : Moment σ → Moment σ → Prop :=
  Relation.ReflTransGen (Step o id definition capacity)

namespace Moment

/-- What a moment comes to: what has been told, what is on its way, and what is yet to come, with
the outcome and the last world. -/
def ends : Moment σ → (List Event × RunOutcome) × World σ
  | ready start => o.execute id definition start
  | building stage =>
      let concluded :=
        o.concludeBuild definition stage.run stage.startedAt stage.produced stage.built
      ((stage.told ++ (stage.channel ++ stage.unsent).map (.stageLog .builder) ++ concluded.1.1,
        concluded.1.2), concluded.2)
  | finished told outcome finish => ((told, outcome), finish)

/-- A bound on the steps that the tasks have left. A line is sent and then forwarded. -/
def left : Moment σ → Nat
  | ready start =>
      2 * (o.producer.produce id definition.builder definition.fingerprint
        start.tick.tick).1.2.length + 2
  | building stage => 2 * stage.unsent.length + stage.channel.length + 1
  | finished _ _ _ => 0

end Moment

variable {o id definition} {capacity : Nat} {moment next : Moment σ}

/-- No step changes what the run comes to. -/
theorem Step.ends_eq (h : Step o id definition capacity moment next) :
    next.ends o id definition = moment.ends o id definition := by
  cases h with
  | refuse hprecheck hfail =>
      rw [Moment.ends, Moment.ends, Orchestrator.execute_apply, hprecheck]
      exact hfail.symm
  | announce hprecheck hproduce =>
      exact (Orchestrator.execute_of_produce hprecheck hproduce rfl).symm
  | send hunsent hroom =>
      simp [Moment.ends, hunsent]
  | forward hchannel =>
      simp [Moment.ends, hchannel]
  | join hunsent hchannel hconclude =>
      simp [Moment.ends, hunsent, hchannel, hconclude]

theorem Step.left_lt (h : Step o id definition capacity moment next) :
    next.left o id definition < moment.left o id definition := by
  cases h with
  | refuse => exact Nat.succ_pos _
  | announce _ hproduce =>
      simp only [Moment.left, hproduce, List.length_nil]
      omega
  | send hunsent =>
      simp only [Moment.left, hunsent, List.length_append, List.length_cons, List.length_nil]
      omega
  | forward hchannel =>
      simp only [Moment.left, hchannel, List.length_cons]
      omega
  | join => exact Nat.succ_pos _

/-- No schedule goes on for ever. -/
theorem wellFounded_step (o : Orchestrator σ) (id : RunId) (definition : PipelineDefinition)
    (capacity : Nat) :
    WellFounded fun next moment : Moment σ => Step o id definition capacity moment next :=
  Subrelation.wf Step.left_lt (measure (Moment.left o id definition)).wf

theorem ends_of_reaches (h : Reaches o id definition capacity moment next) :
    next.ends o id definition = moment.ends o id definition := by
  induction h with
  | refl => rfl
  | tail _ hstep ih => rw [hstep.ends_eq, ih]

/-- Tasks that cannot go on are done: neither waits for the other for ever. -/
theorem eq_finished_of_stuck (hcapacity : 0 < capacity)
    (hstuck : ∀ next, ¬ Step o id definition capacity moment next) :
    ∃ told outcome finish, moment = .finished told outcome finish := by
  cases moment with
  | ready start =>
      cases hprecheck : o.precheck definition definition.fingerprint with
      | error failure => exact absurd (.refuse hprecheck rfl) (hstuck _)
      | ok _ => exact absurd (.announce hprecheck rfl) (hstuck _)
  | building stage =>
      -- An empty channel has room to send into; otherwise its first line can be taken out.
      cases hchannel : stage.channel with
      | cons line channel => exact absurd (.forward hchannel) (hstuck _)
      | nil =>
          cases hunsent : stage.unsent with
          | cons line unsent =>
              exact absurd (.send hunsent (by rwa [hchannel])) (hstuck _)
          | nil => exact absurd (.join hunsent hchannel rfl) (hstuck _)
  | finished told outcome finish => exact ⟨told, outcome, finish, rfl⟩

/-- A moment that no task can leave is the one that the run comes to. -/
theorem eq_ends_of_stuck (hcapacity : 0 < capacity)
    (hstuck : ∀ next, ¬ Step o id definition capacity moment next) :
    moment = .finished (moment.ends o id definition).1.1 (moment.ends o id definition).1.2
      (moment.ends o id definition).2 := by
  obtain ⟨told, outcome, finish, rfl⟩ := eq_finished_of_stuck hcapacity hstuck
  rfl

/-- From every moment some schedule leads on to the end that the run comes to. -/
theorem reaches_ends (o : Orchestrator σ) (id : RunId) (definition : PipelineDefinition)
    (hcapacity : 0 < capacity) (moment : Moment σ) :
    Reaches o id definition capacity moment
      (.finished (moment.ends o id definition).1.1 (moment.ends o id definition).1.2
        (moment.ends o id definition).2) := by
  induction moment using (wellFounded_step o id definition capacity).induction with
  | h moment ih =>
      by_cases hstuck : ∀ next, ¬ Step o id definition capacity moment next
      · rw [← eq_ends_of_stuck hcapacity hstuck]
      · obtain ⟨next, hnext⟩ := Classical.not_forall_not.mp hstuck
        rw [← hnext.ends_eq]
        exact .head hnext (ih next hnext)

end SealedBuild.Forwarding
