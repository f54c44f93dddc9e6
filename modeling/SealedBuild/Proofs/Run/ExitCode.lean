import SealedBuild.Engine.Connection
import SealedBuild.Engine.Containers
import SealedBuild.Proofs.Run.Stages

/-!
# The exit code of a job

A wait takes the exit code of a job from one of two answers of the engine: the state of a container
that has stopped already, or else the first item of the engine's own wait, which may carry the code
as a fault. On the way the code is cut down to thirty-two bits, so that a job is taken for one that
succeeded exactly when its code is a multiple of 2 ^ 32. Zero is the only one that means it.
-/

namespace SealedBuild

/-- The container neither runs nor is paused. -/
def ContainerState.Stopped (state : ContainerState) : Prop :=
  state.running.getD false = false ∧ state.paused.getD false = false

instance (state : ContainerState) : Decidable state.Stopped :=
  inferInstanceAs (Decidable (_ ∧ _))

/-- Which answer of an engine an exit code is reported in. -/
inductive CodeSource where
  | inspection
  | wait
  deriving DecidableEq

namespace Engine

variable {σ : Type} {engine : Engine σ} {handle : JobHandle} {world last : World σ}
  {state : ContainerState} {result : JobResult}

/-! ## What is reported -/

/-- The code that the first item of a wait reports, as such or as a fault. -/
def reportedCode? : EngineStream Int → Option Int
  | .ok code :: _ => some code
  | .error (.exited code) :: _ => some code
  | _ => none

/-- The exit code that the engine reports for a job: that of the container's state if it has
stopped, and otherwise that of a wait. -/
def reported? (engine : Engine σ) (handle : JobHandle) (world : World σ) :
    Option (CodeSource × Int) :=
  let inspected := engine.containerState (containerName handle.id) world
  match inspected.1 with
  | .ok (some state) =>
    if state.Stopped then state.exitCode.map (.inspection, ·)
    else
      let waited := engine.wait (containerName handle.id) inspected.2.tick
      (reportedCode? waited.1).map (.wait, ·)
  | _ => none

variable {told : World σ}

theorem reported?_of_stopped
    (hstate : engine.containerState (containerName handle.id) world = (.ok (some state), told))
    (hstopped : state.Stopped) :
    engine.reported? handle world = state.exitCode.map (.inspection, ·) := by
  rw [reported?, hstate]
  exact if_pos hstopped

theorem reported?_of_not_stopped
    (hstate : engine.containerState (containerName handle.id) world = (.ok (some state), told))
    (hgoing : ¬ state.Stopped) :
    engine.reported? handle world =
      (reportedCode? (engine.wait (containerName handle.id) told.tick).1).map (.wait, ·) := by
  rw [reported?, hstate]
  exact if_neg hgoing

/-! ## What is made of it -/

theorem exitWord_eq_zero_iff {code : Int} : exitWord code = 0 ↔ 4294967296 ∣ code :=
  Int.dvd_iff_bmod_eq_zero.symm

theorem waitedCode_eq (stream : EngineStream Int) :
    waitedCode stream = (reportedCode? stream).map exitWord := by
  rcases stream with - | ⟨fault | code, rest⟩
  · rfl
  · cases fault <;> rfl
  · rfl

theorem isTerminal_statusOf_iff {now : Instant} :
    (statusOf state now).isTerminal = true ↔ state.Stopped := by
  unfold statusOf ContainerState.Stopped
  cases state.running.getD false with
  | true => exact iff_of_false nofun nofun
  | false =>
      cases state.paused.getD false with
      | true => exact iff_of_false nofun nofun
      | false =>
          refine iff_of_true ?_ ⟨rfl, rfl⟩
          by_cases hzero : state.exitCode.map exitWord = some 0 <;>
            simp [hzero, JobStatus.isTerminal]

/-- A container that has stopped is told to have succeeded exactly when its code was cut down to
zero. -/
theorem statusOf_of_stopped (h : state.Stopped) (now : Instant) :
    state.exitCode.map exitWord = some 0 ∧
        (∃ startedAt finishedAt, statusOf state now = .succeeded startedAt finishedAt) ∨
      state.exitCode.map exitWord ≠ some 0 ∧ ∃ startedAt finishedAt message, statusOf state now =
        .failed startedAt finishedAt (state.exitCode.map exitWord) message := by
  unfold statusOf
  rw [h.1, h.2]
  by_cases hzero : state.exitCode.map exitWord = some 0
  · simp [hzero]
  · simp [hzero]

theorem exitCodeOf_statusOf (h : state.Stopped) (now : Instant) :
    exitCodeOf (statusOf state now) = state.exitCode.map exitWord := by
  rcases statusOf_of_stopped h now with ⟨hzero, _, _, hstatus⟩ | ⟨-, _, _, _, hstatus⟩
  · rw [hstatus, hzero, exitCodeOf]
  · rw [hstatus, exitCodeOf]

/-! ## Waiting -/

theorem state_of_status {current : JobStatus}
    (h : engine.status handle world = (.ok current, last)) :
    ∃ state told, engine.containerState (containerName handle.id) world = (.ok (some state), told) ∧
      current = statusOf state told.instant ∧ last = told.tick := by
  unfold status at h
  obtain ⟨answer, told, hanswer, hrest⟩ := Act.bind_eq h
  rcases answer with fault | - | state
  · cases hrest
  · cases hrest
  · cases hrest
    exact ⟨state, told, hanswer, rfl, rfl⟩

/-- The ways in which a wait succeeds. -/
inductive Waited (engine : Engine σ) (handle : JobHandle) (world : World σ) : JobResult → Prop where
  /-- The container has stopped already. -/
  | stopped {state : ContainerState} {told : World σ}
      (hstate : engine.containerState (containerName handle.id) world = (.ok (some state), told))
      (hstopped : state.Stopped) :
      Waited engine handle world
        ⟨statusOf state told.instant, exitCodeOf (statusOf state told.instant)⟩
  /-- The engine waits until it has. -/
  | awaited {state : ContainerState} {told : World σ}
      (hstate : engine.containerState (containerName handle.id) world = (.ok (some state), told))
      (hgoing : ¬ state.Stopped) (status : JobStatus) :
      Waited engine handle world
        ⟨status, waitedCode (engine.wait (containerName handle.id) told.tick).1⟩

theorem waited_of_waitForJob (h : engine.waitForJob handle world = (.ok result, last)) :
    engine.Waited handle world result := by
  unfold waitForJob at h
  obtain ⟨answer, looked, hlooked, hrest⟩ := Act.bind_eq h
  cases answer with
  | error failure => cases hrest
  | ok current =>
      obtain ⟨state, told, hstate, rfl, rfl⟩ := state_of_status hlooked
      dsimp only at hrest
      by_cases hstopped : state.Stopped
      · rw [if_pos (isTerminal_statusOf_iff.mpr hstopped)] at hrest
        cases hrest
        exact .stopped hstate hstopped
      · rw [if_neg (mt isTerminal_statusOf_iff.mp hstopped)] at hrest
        obtain ⟨stream, asked, hwait, hend⟩ := Act.bind_eq hrest
        obtain ⟨answer, seen, -, hdone⟩ := Act.bind_eq hend
        cases answer with
        | error failure => cases hdone
        | ok status =>
            cases hdone
            have hcode : stream = (engine.wait (containerName handle.id) told.tick).1 :=
              (congrArg Prod.fst hwait).symm
            rw [hcode]
            exact .awaited hstate hstopped status

/-- The exit code of a wait is the reported one, cut down. -/
theorem Waited.exitCode_eq (h : engine.Waited handle world result) :
    result.exitCode = (engine.reported? handle world).map fun report => exitWord report.2 := by
  cases h with
  | stopped hstate hstopped =>
      rw [reported?_of_stopped hstate hstopped, exitCodeOf_statusOf hstopped, Option.map_map]
      rfl
  | awaited hstate hgoing =>
      rw [reported?_of_not_stopped hstate hgoing, waitedCode_eq, Option.map_map]
      rfl

/-- Where the code is that of a stopped container, the status goes by it too. -/
theorem Waited.succeeded (h : engine.Waited handle world result) {code : Int}
    (hreported : engine.reported? handle world = some (.inspection, code))
    (hzero : exitWord code = 0) :
    ∃ startedAt finishedAt, result.status = .succeeded startedAt finishedAt := by
  cases h with
  | @stopped state told hstate hstopped =>
      rw [reported?_of_stopped hstate hstopped] at hreported
      obtain ⟨_, hcode, ⟨⟩⟩ := Option.map_eq_some_iff.mp hreported
      have hword : state.exitCode.map exitWord = some 0 := by rw [hcode, Option.map_some, hzero]
      rcases statusOf_of_stopped hstopped told.instant with ⟨-, hsucceeded⟩ | ⟨hne, -⟩
      · exact hsucceeded
      · exact absurd hword hne
  | awaited hstate hgoing =>
      rw [reported?_of_not_stopped hstate hgoing] at hreported
      obtain ⟨_, -, ⟨⟩⟩ := Option.map_eq_some_iff.mp hreported

/-- No failure is told exactly where a multiple of 2 ^ 32 was reported. -/
theorem Waited.failureOfExit_eq_none_iff (h : engine.Waited handle world result)
    (artifactPath : String) :
    Job.failureOfExit result.exitCode artifactPath = none ↔
      ∃ source code, engine.reported? handle world = some (source, code) ∧ 4294967296 ∣ code := by
  rw [Job.failureOfExit_eq_none_iff, h.exitCode_eq, Option.map_eq_some_iff]
  simp only [exitWord_eq_zero_iff, Prod.exists]

/-- A job that no failure is told of ended with the exit code zero. -/
def MeansZero (engine : Engine σ) (handle : JobHandle) (world : World σ) (result : JobResult)
    (artifactPath : String) : Prop :=
  Job.failureOfExit result.exitCode artifactPath = none →
    ∃ source, engine.reported? handle world = some (source, 0)

/-- Whatever the engine answers, a wait that takes a job for a success means the exit code zero
exactly if the engine reported no other multiple of 2 ^ 32. If the container had stopped before the
wait, its status says that it succeeded too. -/
theorem meansZero_iff (h : engine.waitForJob handle world = (.ok result, last))
    (artifactPath : String) :
    (engine.MeansZero handle world result artifactPath ↔
      ∀ source code, engine.reported? handle world = some (source, code) →
        4294967296 ∣ code → code = 0) ∧
    ∀ code, engine.reported? handle world = some (.inspection, code) →
      Job.failureOfExit result.exitCode artifactPath = none →
        ∃ startedAt finishedAt, result.status = .succeeded startedAt finishedAt := by
  have hwaited := waited_of_waitForJob h
  have hnone := hwaited.failureOfExit_eq_none_iff artifactPath
  refine ⟨⟨fun hmeans source code hreported hdvd => ?_, fun hzero hjudged => ?_⟩,
    fun code hreported hjudged => ?_⟩
  · obtain ⟨_, hreported'⟩ := hmeans (hnone.mpr ⟨source, code, hreported, hdvd⟩)
    cases hreported.symm.trans hreported'
    rfl
  · obtain ⟨source, code, hreported, hdvd⟩ := hnone.mp hjudged
    obtain rfl := hzero source code hreported hdvd
    exact ⟨source, hreported⟩
  · obtain ⟨_, _, hreported', hdvd⟩ := hnone.mp hjudged
    cases hreported.symm.trans hreported'
    exact hwaited.succeeded hreported (exitWord_eq_zero_iff.mpr hdvd)

/-- An engine whose one container runs until it is waited for, and then has ended with a code. The
state says whether it has. -/
def endingWith (code : Int) : Engine Bool where
  ping := pure (.ok ())
  pull _ := pure ()
  create name _ := pure (.ok name)
  start _ := pure (.ok ())
  logs _ := pure []
  containerState _ := fun world =>
    (.ok (some { running := some (!world.backend), exitCode := some code }), world)
  wait _ := Act.onBackend fun _ => (endings [.ok code], true)
  archive _ _ := pure []
  remove _ := pure (.ok ())
  build _ := pure []
  imageId _ := pure (.ok none)

/-- The host of such an engine. -/
def endingWorld (ended : Bool) : World Bool where
  files := default
  clock _ := default
  backend := ended

/-- The job in its container. -/
def sampleHandle : JobHandle :=
  ⟨⟨1⟩, "container", name⟩

/-- A code beyond thirty-two bits that is no multiple is told as a failure, zero as a success. -/
theorem meansZero_endingWith :
    (∃ result last,
      (endingWith 4294967397).waitForJob sampleHandle (endingWorld false) = (.ok result, last) ∧
        (Job.failureOfExit result.exitCode "/out/service").isSome = true ∧
        (endingWith 4294967397).MeansZero sampleHandle (endingWorld false) result "/out/service") ∧
    ∃ result last,
      (endingWith 0).waitForJob sampleHandle (endingWorld true) = (.ok result, last) ∧
        (endingWith 0).reported? sampleHandle (endingWorld true) = some (.inspection, 0) ∧
        Job.failureOfExit result.exitCode "/out/service" = none ∧
        ∃ startedAt finishedAt, result.status = .succeeded startedAt finishedAt := by
  have hfailed : (endingWith 4294967397).waitForJob sampleHandle (endingWorld false) =
    (.ok _, _) := rfl
  have hended : (endingWith 0).waitForJob sampleHandle (endingWorld true) = (.ok _, _) := rfl
  refine ⟨⟨_, _, hfailed, by decide, (meansZero_iff hfailed "/out/service").1.mpr ?_⟩,
    ⟨_, _, hended, rfl, rfl, (meansZero_iff hended "/out/service").2 0 rfl rfl⟩⟩
  intro source code hreported hdvd
  cases hreported
  exact absurd hdvd (by decide)

/-- A job that ended with 2 ^ 32 is taken for one that succeeded. -/
theorem high_code_not_meansZero :
    (endingWith 4294967296).reported? sampleHandle (endingWorld false) =
        some (.wait, 4294967296) ∧
      ∃ result last,
        (endingWith 4294967296).waitForJob sampleHandle (endingWorld false) = (.ok result, last) ∧
          result.exitCode = some 0 ∧
          Job.failureOfExit result.exitCode "/out/service" = none ∧
          ¬ (endingWith 4294967296).MeansZero sampleHandle (endingWorld false) result
            "/out/service" := by
  refine ⟨rfl, _, _, rfl, rfl, rfl, fun hmeans => ?_⟩
  obtain ⟨_, hreported⟩ := hmeans rfl
  cases hreported

end Engine

end SealedBuild
