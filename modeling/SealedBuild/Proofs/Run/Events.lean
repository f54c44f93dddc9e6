import Mathlib.Logic.ExistsUnique
import SealedBuild.Proofs.Run.Forwarding

/-!
# Events and outcomes

The events of a run form one of four traces, by how far the run came, and its record and its
image say the same as its events. The producer and the assembler are arbitrary, and so is the
schedule of the task that forwards the builder's log: it changes neither what is told nor what the
run comes to.
-/

namespace SealedBuild

variable {σ : Type}

/-- How far a run can come. -/
inductive Ending where
  | refused
  | unbuilt
  | unpackaged
  | packaged
  deriving DecidableEq

/-- The events are a trace of a run that came so far. -/
def Ending.Fits : Ending → List Event → Prop
  | refused, events => ∃ failure, events = Trace.failed .builder failure
  | unbuilt, events =>
      ∃ lines failure, events = Trace.started lines (Trace.failed .builder failure)
  | unpackaged, events =>
      ∃ lines artifact failure, events =
        Trace.started lines (Trace.handedOff artifact ++ Trace.failed .runtime failure)
  | packaged, events =>
      ∃ lines artifact image timestamp, events =
        Trace.started lines (Trace.handedOff artifact ++ Trace.packaged image timestamp)

/-- How far a run came, read off its events. -/
def Ending.ofEvents (events : List Event) : Ending :=
  if .runCompleted .packaged ∈ events then packaged
  else if .stageStarted .runtime ∈ events then unpackaged
  else if .stageStarted .builder ∈ events then unbuilt
  else refused

theorem Trace.mem_started {event : Event} {lines : List LogLine} {others : List Event} :
    event ∈ Trace.started lines others ↔
      event = .stageStarted .builder ∨ (∃ line ∈ lines, event = .stageLog .builder line) ∨
        event ∈ others := by
  simp only [Trace.started, List.cons_append, List.mem_cons, List.mem_append, List.mem_map,
    eq_comm]

/-- The four kinds of trace exclude each other. -/
theorem Ending.ofEvents_eq_of_fits {ending : Ending} {events : List Event}
    (h : ending.Fits events) : ofEvents events = ending := by
  cases ending with
  | refused =>
      obtain ⟨failure, rfl⟩ := h
      simp [ofEvents, Trace.failed]
  | unbuilt =>
      obtain ⟨lines, failure, rfl⟩ := h
      simp [ofEvents, Trace.mem_started, Trace.failed]
  | unpackaged =>
      obtain ⟨lines, artifact, failure, rfl⟩ := h
      simp [ofEvents, Trace.mem_started, Trace.handedOff, Trace.failed]
  | packaged =>
      obtain ⟨lines, artifact, image, timestamp, rfl⟩ := h
      simp [ofEvents, Trace.mem_started, Trace.packaged]

/-- The stage that an event tells the start of. -/
def Event.startedStage? : Event → Option Stage
  | stageStarted stage => some stage
  | _ => none

/-- The line of the builder's log that an event tells. -/
def Event.builderLine? : Event → Option LogLine
  | stageLog .builder line => some line
  | _ => none

/-- The record and the image of a run say the same as its events. -/
structure RunOutcome.Agrees (outcome : RunOutcome) (events : List Event) : Prop where
  last : events.getLast? = some (.runCompleted outcome.run.state)
  /-- The state tells that the run is over, as that of a run that is building does not. -/
  terminal : outcome.run.state.isTerminal = true ∧ RunState.building.isTerminal = false
  finished : outcome.run.finishedAt.isSome = true
  stages : outcome.run.stages.map StageResult.stage = events.filterMap Event.startedStage?
  told :
    ∀ result ∈ outcome.run.stages,
      .stageCompleted result.stage result.succeeded result.message ∈ events
  succeeded : ∀ result ∈ outcome.run.stages.dropLast, result.succeeded = true
  image : outcome.image.isSome = true ↔ outcome.run.state = .packaged
  /-- Either every stage succeeded, or the last event of a stage, the last stage result and
  the state tell of one failure. -/
  verdict :
    (outcome.run.state = .packaged ∧ ∀ result ∈ outcome.run.stages, result.succeeded = true) ∨
      ∃ stage, ∃ failure : Failure,
        outcome.run.state = .failed stage failure.kind failure.message ∧
        .stageCompleted stage false (some failure.message) ∈ events ∧
        ∀ result ∈ outcome.run.stages.getLast?,
          result.stage = stage ∧ result.succeeded = false ∧
            result.message = some failure.message

theorem Trace.filterMap_startedStage (lines : List LogLine) (others : List Event) :
    (started lines others).filterMap Event.startedStage? =
      .builder :: others.filterMap Event.startedStage? := by
  have hlogs : (lines.map (Event.stageLog .builder)).filterMap Event.startedStage? = [] := by
    rw [List.filterMap_map]
    exact List.filterMap_eq_nil_iff.mpr fun _ _ => rfl
  rw [started, List.filterMap_append, List.filterMap_cons, hlogs]
  rfl

theorem Trace.filterMap_builderLine (lines : List LogLine) (others : List Event) :
    (started lines others).filterMap Event.builderLine? =
      lines ++ others.filterMap Event.builderLine? := by
  have hlogs : (lines.map (Event.stageLog .builder)).filterMap Event.builderLine? = lines := by
    rw [List.filterMap_map]
    exact List.filterMap_some
  rw [started, List.filterMap_append, List.filterMap_cons, hlogs]
  rfl

theorem Trace.getLast?_started (lines : List LogLine) {others : List Event}
    (hothers : others ≠ []) : (started lines others).getLast? = others.getLast? := by
  rw [started, List.getLast?_append, List.getLast?_eq_some_getLast hothers, Option.some_or]

namespace Orchestrator

variable {o : Orchestrator σ} {id : RunId} {definition : PipelineDefinition}
  {start finish : World σ} {events : List Event} {outcome : RunOutcome}

/-- Three records of one course cannot drift apart. -/
theorem Course.agrees (h : o.Course id definition start events outcome finish) :
    outcome.Agrees events := by
  cases h with
  | refused =>
      exact ⟨rfl, ⟨rfl, rfl⟩, rfl, rfl, nofun, nofun, by simp [RunRecord.closed],
        .inr ⟨_, _, rfl, List.mem_cons_self, nofun⟩⟩
  | unbuilt =>
      refine ⟨?_, ⟨rfl, rfl⟩, rfl, ?_, ?_, nofun, by simp [RunRecord.closed], .inr ?_⟩
      · rw [Trace.getLast?_started _ (by nofun)]
        rfl
      · rw [Trace.filterMap_startedStage]
        rfl
      · simp [RunRecord.closed, Trace.mem_started, Trace.failed, StageResult.between]
      · refine ⟨_, _, rfl, Trace.mem_started.mpr (.inr (.inr List.mem_cons_self)), ?_⟩
        rintro result ⟨⟩
        exact ⟨rfl, rfl, rfl⟩
  | unpackaged =>
      refine ⟨?_, ⟨rfl, rfl⟩, rfl, ?_, ?_, ?_, by simp [RunRecord.closed], .inr ?_⟩
      · rw [Trace.getLast?_started _ (by nofun)]
        rfl
      · rw [Trace.filterMap_startedStage]
        rfl
      · simp [RunRecord.closed, Trace.mem_started, Trace.handedOff, Trace.failed,
          StageResult.between]
      · simp [RunRecord.closed, StageResult.between]
      · refine ⟨_, _, rfl, Trace.mem_started.mpr (.inr (.inr ?_)), ?_⟩
        · exact List.mem_append_right _ List.mem_cons_self
        · rintro result ⟨⟩
          exact ⟨rfl, rfl, rfl⟩
  | packaged =>
      refine ⟨?_, ⟨rfl, rfl⟩, rfl, ?_, ?_, ?_, by simp [RunRecord.closed], .inl ⟨rfl, ?_⟩⟩
      · rw [Trace.getLast?_started _ (by nofun)]
        rfl
      · rw [Trace.filterMap_startedStage]
        rfl
      · simp [RunRecord.closed, Trace.mem_started, Trace.handedOff, Trace.packaged,
          StageResult.between]
      · simp [RunRecord.closed, StageResult.between]
      · simp [RunRecord.closed, StageResult.between]

theorem Course.exists_fits (h : o.Course id definition start events outcome finish) :
    ∃ ending : Ending, ending.Fits events := by
  cases h with
  | refused => exact ⟨.refused, _, rfl⟩
  | unbuilt => exact ⟨.unbuilt, _, _, rfl⟩
  | unpackaged => exact ⟨.unpackaged, _, _, _, rfl⟩
  | packaged => exact ⟨.packaged, _, _, _, _, rfl⟩

theorem Course.existsUnique_fits (h : o.Course id definition start events outcome finish) :
    ∃! ending : Ending, ending.Fits events := by
  obtain ⟨ending, hfits⟩ := h.exists_fits
  refine ⟨ending, hfits, ?_⟩
  intro other hother
  rw [← Ending.ofEvents_eq_of_fits hother, Ending.ofEvents_eq_of_fits hfits]

/-- A run of every orchestrator tells exactly one of the four traces, the one that belongs to
what its check, its producer and its packaging answered. Its log lines are those of the
producer, in order; its outcome says the same as its events. The same holds while its log is
forwarded by a task of its own: no schedule of the tasks goes on for ever, from every moment the
run can still come to these events and this outcome, and it can stop nowhere else. -/
theorem execute_tells_one_trace (o : Orchestrator σ) (id : RunId)
    (definition : PipelineDefinition) (world : World σ) :
    let events := (o.execute id definition world).1.1
    let outcome := (o.execute id definition world).1.2
    let finish := (o.execute id definition world).2
    (match o.precheck definition definition.fingerprint with
      | .error failure => events = Trace.failed .builder failure
      | .ok () =>
          match o.producer.produce id definition.builder definition.fingerprint
            world.tick.tick with
          | ((.error failure, lines), _) =>
              events = Trace.started lines (Trace.failed .builder failure) ∧
                events.filterMap Event.builderLine? = lines
          | ((.ok handoff, lines), built) =>
              events.filterMap Event.builderLine? = lines ∧
                match o.runtime.package definition.name definition.runtime handoff
                  built.tick.tick with
                | (.error failure, _) =>
                    events = Trace.started lines
                      (Trace.handedOff handoff.artifact ++ Trace.failed .runtime failure)
                | (.ok image, _) =>
                    ∃ timestamp, events = Trace.started lines
                      (Trace.handedOff handoff.artifact ++ Trace.packaged image timestamp)) ∧
    (∃! ending : Ending, ending.Fits events) ∧
    outcome.Agrees events ∧
    ∀ capacity > 0,
      (WellFounded fun next moment => Forwarding.Step o id definition capacity moment next) ∧
      ∀ moment, Forwarding.Reaches o id definition capacity (.ready world) moment →
        Forwarding.Reaches o id definition capacity moment (.finished events outcome finish) ∧
        ((∀ next, ¬ Forwarding.Step o id definition capacity moment next) →
          moment = .finished events outcome finish) := by
  intro events outcome finish
  have hcourse : o.Course id definition world events outcome finish := course_of_execute rfl
  refine ⟨?_, hcourse.existsUnique_fits, hcourse.agrees, ?_⟩
  · clear_value events outcome finish
    cases hcourse with
    | refused hprecheck => rw [hprecheck]
    | unbuilt hprecheck hproduce =>
        simp only [hprecheck, hproduce, Trace.filterMap_builderLine, true_and]
        exact List.append_nil _
    | unpackaged hprecheck hproduce hpackage =>
        simp only [hprecheck, hproduce, hpackage, Trace.filterMap_builderLine, and_true]
        exact List.append_nil _
    | packaged hprecheck hproduce hpackage =>
        simp only [hprecheck, hproduce, hpackage, Trace.filterMap_builderLine]
        exact ⟨List.append_nil _, _, rfl⟩
  · intro capacity hcapacity
    refine ⟨Forwarding.wellFounded_step o id definition capacity, fun moment hreaches => ?_⟩
    have hends : moment.ends o id definition = ((events, outcome), finish) :=
      Forwarding.ends_of_reaches hreaches
    refine ⟨?_, fun hstuck => ?_⟩
    · have hgoes := Forwarding.reaches_ends o id definition hcapacity moment
      rwa [hends] at hgoes
    · have hover := Forwarding.eq_ends_of_stuck hcapacity hstuck
      rwa [hends] at hover

end Orchestrator

end SealedBuild
