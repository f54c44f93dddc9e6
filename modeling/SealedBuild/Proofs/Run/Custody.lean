import SealedBuild.Engine.Connection
import SealedBuild.Engine.Containers
import SealedBuild.Proofs.Ledger
import SealedBuild.Proofs.Run.Stages

/-!
# What becomes of the builder container

A builder stage asks for one container at most, and removes the one that it got when it asks
nothing more of it, however the job went. The engine's executor in turn takes back a container
that it created and could not start. The executor, the inspector and the connection to the
engine are arbitrary. That a removal succeeds is not promised; no result depends on it.
-/

namespace SealedBuild

variable {σ α : Type}

/-! ## Dealings of a part of a run -/

namespace World

variable {kind : Dealing → Prop}

/-- Between two worlds, only dealings of a kind have been entered in the ledger. -/
def Deals (kind : Dealing → Prop) (world last : World (σ × Ledger)) : Prop :=
  ∃ entries, last.ledger = world.ledger ++ entries ∧ ∀ entry ∈ entries, kind entry.dealing

theorem deals_of_ledger_eq {world last : World (σ × Ledger)} (h : last.ledger = world.ledger) :
    Deals kind world last :=
  ⟨[], by rw [h, List.append_nil], fun _ hmem => absurd hmem List.not_mem_nil⟩

instance : IsPreorder (World (σ × Ledger)) (Deals kind) where
  refl _ := deals_of_ledger_eq rfl
  trans world middle last := by
    rintro ⟨first, hfirst, hfirstKind⟩ ⟨second, hsecond, hsecondKind⟩
    refine ⟨first ++ second, ?_, List.forall_mem_append.mpr ⟨hfirstKind, hsecondKind⟩⟩
    rw [hsecond, hfirst, List.append_assoc]

end World

theorem Act.deals_entered {kind : Dealing → Prop} {dealing : α → Dealing}
    (hkind : ∀ answer, kind (dealing answer)) (action : Act σ α) :
    (Act.entered dealing action).Leads (World.Deals kind) := by
  intro world
  refine ⟨_, Act.ledger_of_entered rfl, ?_⟩
  rw [List.forall_mem_singleton]
  exact hkind _

/-! ## The builder stage -/

/-- A dealing in between: it asks something of a running job, or of what came out of it. -/
def Dealing.Serves (handle : JobHandle) : Dealing → Prop
  | logs h _ | wait h _ | copyOut h _ _ _ => h = handle
  | inspect _ _ => True
  | canExecute _ _ | spawn _ _ | remove _ _ | assemble _ _ => False

/-- The dealings of a builder stage with a container: none, none that came to a container, or
all between its start and its one removal. The job is the one that was planned, if any was. -/
inductive Custody (planned : Except Failure JobSpec) : List Dealing → Prop where
  | unplanned {failure : Failure} (hplanned : planned = .error failure) : Custody planned []
  | unavailable {job : JobSpec} (hplanned : planned = .ok job) :
      Custody planned [.canExecute job false]
  | unspawned {job : JobSpec} {failure : Failure} (hplanned : planned = .ok job) :
      Custody planned [.canExecute job true, .spawn job (.error failure)]
  | released {job : JobSpec} {handle : JobHandle} {between : List Dealing}
      {answer : Except Failure Unit} (hplanned : planned = .ok job)
      (hbetween : ∀ dealing ∈ between, dealing.Serves handle) :
      Custody planned
        (.canExecute job true :: .spawn job (.ok handle) :: between ++ [.remove handle answer])

namespace BuilderStage

variable (stage : BuilderStage σ) (handle : JobHandle) (id : RunId) (spec : BuilderSpec)
  (fingerprint : String)

theorem deals_collect :
    (stage.entered.collect handle id spec fingerprint).Leads
      (World.Deals (Dealing.Serves handle)) := by
  refine Act.Leads.run_bind (Act.deals_entered (fun _ => by rfl) _) fun result => ?_
  cases Job.failureOfExit result.exitCode spec.artifactPath with
  | some failure => exact .pure _
  | none =>
      -- Making the directory and reading the clock are no calls.
      have hprepare (operation : FileTree → FileTree × Except FileFault Unit) :
          (Act.workOnFiles operation : Act (σ × Ledger) _).Leads
            (World.Deals (Dealing.Serves handle)) :=
        fun _ => World.deals_of_ledger_eq rfl
      apply Act.Leads.run_bind (.bind (hprepare _) fun _ => .pure _)
      intro _
      refine Act.Leads.run_bind (Act.deals_entered (fun _ => by rfl) _) fun _ => ?_
      refine Act.Leads.run_bind (leads_verify ?_ ?_ _) fun _ => .pure _
      · exact fun path => Act.deals_entered (fun _ => trivial) _
      · exact fun _ => World.deals_of_ledger_eq rfl

theorem deals_follow :
    (stage.entered.follow handle id spec fingerprint).Leads
      (World.Deals (Dealing.Serves handle)) := by
  refine Act.Leads.bind (Act.deals_entered (fun _ => by rfl) _) fun answer => ?_
  cases answer with
  | error failure => exact .pure _
  | ok lines => exact .bind (deals_collect stage handle id spec fingerprint) fun _ => .pure _

variable {stage handle id spec fingerprint} {start finish : World (σ × Ledger)}
  {outcome : Except Failure Handoff × List LogLine}

/-- Once there is a container, it is served and then removed, and nothing is asked after that. -/
theorem released_of_follow {job : JobSpec}
    (hplanned : Job.ofBuilder start.files.workingPath id spec = .ok job) {spawned : World _}
    (hspawned : spawned.ledger.map LedgerEntry.dealing =
      start.ledger.map LedgerEntry.dealing ++
        [.canExecute job true, .spawn job (.ok handle)])
    (h : (do
      let (result, lines) ← stage.entered.follow handle id spec fingerprint
      let _ ← stage.entered.executor.remove handle
      if let .error _ := result then stage.entered.discard id
      pure (result, lines)) spawned = (outcome, finish)) :
    ∃ dealings, Custody (Job.ofBuilder start.files.workingPath id spec) dealings ∧
      finish.ledger.map LedgerEntry.dealing =
        start.ledger.map LedgerEntry.dealing ++ dealings := by
  obtain ⟨⟨result, lines⟩, followed, hfollow, hremoving⟩ := Act.bind_eq h
  obtain ⟨answer, removed, hremove, hleaving⟩ := Act.bind_eq hremoving
  obtain ⟨entries, hentries, hserves⟩ := deals_follow stage handle id spec fingerprint spawned
  rw [hfollow] at hentries
  -- What was staged may be dropped at the end, which is no call.
  have hfinish : finish.ledger = removed.ledger := by
    cases result with
    | ok handoff =>
        cases hleaving
        rfl
    | error failure =>
        obtain ⟨_, dropped, hdiscard, hdone⟩ := Act.bind_eq hleaving
        cases hdone
        rw [← ledger_discard stage id removed, hdiscard]
  have hcustody : Custody (Job.ofBuilder start.files.workingPath id spec)
      (.canExecute job true :: .spawn job (.ok handle) :: entries.map LedgerEntry.dealing ++
        [.remove handle answer]) :=
    .released hplanned (List.forall_mem_map.mpr hserves)
  refine ⟨_, hcustody, ?_⟩
  rw [hfinish, Act.ledger_of_entered hremove, hentries, List.map_append, List.map_append, hspawned]
  simp only [List.map_cons, List.map_nil, List.append_assoc, List.cons_append, List.nil_append]

theorem custody_of_produce
    (h : stage.entered.produce id spec fingerprint start = (outcome, finish)) :
    ∃ dealings, Custody (Job.ofBuilder start.files.workingPath id spec) dealings ∧
      finish.ledger.map LedgerEntry.dealing =
        start.ledger.map LedgerEntry.dealing ++ dealings := by
  unfold produce at h
  obtain ⟨files, _, hfiles, hplanning⟩ := Act.bind_eq h
  cases hfiles
  cases hplanned : Job.ofBuilder start.files.workingPath id spec with
  | error failure =>
      rw [hplanned] at hplanning
      cases hplanning
      exact ⟨[], .unplanned rfl, (List.append_nil _).symm⟩
  | ok job =>
      rw [hplanned] at hplanning
      obtain ⟨available, asked, hasked, hoffered⟩ := Act.bind_eq hplanning
      have hasking := Act.ledger_of_entered hasked
      cases available with
      | false =>
          cases hoffered
          refine ⟨_, .unavailable rfl, ?_⟩
          rw [hasking, List.map_append, List.map_singleton]
      | true =>
          obtain ⟨answer, spawned, hspawned, hstarted⟩ := Act.bind_eq hoffered
          have hspawning := Act.ledger_of_entered hspawned
          cases answer with
          | error failure =>
              cases hstarted
              refine ⟨[.canExecute job true, .spawn job (.error failure)], .unspawned rfl, ?_⟩
              rw [hspawning, hasking, List.append_assoc, List.map_append]
              rfl
          | ok handle =>
              rw [← hplanned]
              refine released_of_follow hplanned ?_ hstarted
              rw [hspawning, hasking, List.append_assoc, List.map_append]
              rfl

/-- What a stage does before it removes its container. -/
def beforeRemoval (stage : BuilderStage σ) (id : RunId) (spec : BuilderSpec)
    (fingerprint : String) : Act σ (Except Failure Handoff × List LogLine) := do
  match Job.ofBuilder (← Act.files).workingPath id spec with
  | .error failure => pure (.error failure, [])
  | .ok job =>
    if ← stage.executor.canExecute job then
      match ← stage.executor.spawn job with
      | .error failure => pure (.error failure, [])
      | .ok handle => stage.follow handle id spec fingerprint
    else
      pure (.error (.internal
        ("executor '" ++ stage.executor.name ++ "' is not available")), [])

/-- The result is settled before the container is removed. -/
theorem fst_produce (stage : BuilderStage σ) (id : RunId) (spec : BuilderSpec)
    (fingerprint : String) (world : World σ) :
    (stage.produce id spec fingerprint world).1 =
      (stage.beforeRemoval id spec fingerprint world).1 := by
  unfold produce beforeRemoval
  rw [Act.bind_apply, Act.bind_apply]
  cases Job.ofBuilder (Act.files world).1.workingPath id spec with
  | error failure => rfl
  | ok job =>
      dsimp only
      rw [Act.bind_apply, Act.bind_apply]
      rcases stage.executor.canExecute job (Act.files world).2 with ⟨_ | _, asked⟩
      · rfl
      · rw [if_pos rfl, if_pos rfl, Act.bind_apply, Act.bind_apply]
        rcases stage.executor.spawn job asked with ⟨failure | handle, spawned⟩
        · rfl
        · dsimp only
          rw [Act.bind_apply]
          rcases stage.follow handle id spec fingerprint spawned with
            ⟨⟨failure | handoff, lines⟩, followed⟩ <;> rfl

/-- The stage with another way to remove containers. -/
def removing (stage : BuilderStage σ) (remove : JobHandle → Act σ (Except Failure Unit)) :
    BuilderStage σ :=
  { stage with executor := { stage.executor with remove } }

/-- What a removal answers, and even what it does, is not seen in the result. -/
theorem fst_produce_removing (stage : BuilderStage σ)
    (remove : JobHandle → Act σ (Except Failure Unit)) (id : RunId) (spec : BuilderSpec)
    (fingerprint : String) (world : World σ) :
    ((stage.removing remove).produce id spec fingerprint world).1 =
      (stage.produce id spec fingerprint world).1 := by
  rw [fst_produce, fst_produce]
  rfl

end BuilderStage

/-! ## The engine's executor -/

/-- A request to an engine with the reply that it got. -/
structure Exchange where
  request : EngineRequest
  reply : EngineReply

namespace World

/-- The world with no exchange kept beside its backends yet. -/
def listening (world : World σ) : World (σ × List Exchange) :=
  { world with backend := (world.backend, []) }

/-- The exchanges so far. -/
def exchanges (world : World (σ × List Exchange)) : List Exchange :=
  world.backend.2

end World

/-- A connection that keeps its exchanges. It answers as the connection itself does. -/
def Connection.kept (send : Connection σ) : Connection (σ × List Exchange) := fun request world =>
  let (reply, next) := send request { world with backend := world.backend.1 }
  (reply, { next with backend := (next.backend, world.exchanges ++ [⟨request, reply⟩]) })

namespace Engine

/-- The request that fetches the image of a job. -/
def pullRequest (job : JobSpec) : EngineRequest :=
  { endpoint := .pull, query := [("fromImage", job.image)] }

/-- The request that creates the container of a job. -/
def createRequest (job : JobSpec) : EngineRequest where
  endpoint := .create
  query := [("name", containerName job.id)]
  body := .json (containerBody (containerConfig job))

/-- The request that starts the container of a job. -/
def startRequest (job : JobSpec) : EngineRequest :=
  { endpoint := .start (containerName job.id) }

/-- The request that removes the container of a job, also when it runs. -/
def removeRequest (job : JobSpec) : EngineRequest :=
  { endpoint := .remove (containerName job.id), query := [("force", "true")] }

/-- The exchanges by which a job gets its container, and what comes of them. Only a container
that was created and not started is removed; the failure to start it is what is told. -/
inductive Launch (job : JobSpec) : List Exchange → Except Failure JobHandle → Prop where
  | uncreated {pulled created : EngineReply} {fault : EngineFault}
      (hcreate : created.value .createdId = .error fault) :
      Launch job [⟨pullRequest job, pulled⟩, ⟨createRequest job, created⟩]
        (.error (.provisioning
          ("cannot create container from " ++ job.image ++ ": " ++ fault.message)))
  | unstarted {pulled created started removed : EngineReply} {containerId : String}
      {fault : EngineFault} (hcreate : created.value .createdId = .ok containerId)
      (hstart : started.unit = .error fault) :
      Launch job [⟨pullRequest job, pulled⟩, ⟨createRequest job, created⟩,
          ⟨startRequest job, started⟩, ⟨removeRequest job, removed⟩]
        (.error (.provisioning
          ("cannot start container " ++ containerName job.id ++ ": " ++ fault.message)))
  | started {pulled created started : EngineReply} {containerId : String}
      (hcreate : created.value .createdId = .ok containerId) (hstart : started.unit = .ok ()) :
      Launch job [⟨pullRequest job, pulled⟩, ⟨createRequest job, created⟩,
          ⟨startRequest job, started⟩]
        (.ok ⟨job.id, containerId, name⟩)

section Spawning

variable {send : Connection σ} {job : JobSpec} {world fetched made tried last : World σ}
  {pulled created started removed : EngineReply}

theorem create_apply (hpull : send (pullRequest job) world = (pulled, fetched))
    (hcreate : send (createRequest job) fetched = (created, made)) :
    (ofConnection send).create (containerName job.id) (containerConfig job)
        ((ofConnection send).pull job.image world).2 = (created.value .createdId, made) := by
  have hfetched : ((ofConnection send).pull job.image world).2 = fetched :=
    congrArg Prod.snd hpull
  rw [hfetched]
  exact congrArg (fun answer => (answer.1.value .createdId, answer.2)) hcreate

theorem spawn_of_uncreated (hpull : send (pullRequest job) world = (pulled, fetched))
    (hcreate : send (createRequest job) fetched = (created, made)) {fault : EngineFault}
    (hfault : created.value .createdId = .error fault) :
    (ofConnection send).spawn job world =
      (.error (.provisioning
        ("cannot create container from " ++ job.image ++ ": " ++ fault.message)), made) := by
  unfold spawn
  simp only [Act.bind_apply, create_apply hpull hcreate, hfault, Act.pure_apply]

theorem startContainer_apply (hstart : send (startRequest job) made = (started, tried))
    (hremove : send (removeRequest job) tried = (removed, last)) :
    (ofConnection send).startContainer (containerName job.id) made =
      match started.unit with
      | .ok () => (.ok (), tried)
      | .error fault =>
        (.error (.provisioning
          ("cannot start container " ++ containerName job.id ++ ": " ++ fault.message)), last) := by
  have hstarting : (ofConnection send).start (containerName job.id) made = (started.unit, tried) :=
    congrArg (fun answer : EngineReply × World σ => (answer.1.unit, answer.2)) hstart
  have hremoving : ((ofConnection send).removeContainer (containerName job.id) tried).2 = last :=
    congrArg Prod.snd hremove
  unfold startContainer
  rw [Act.bind_apply, hstarting]
  cases started.unit with
  | ok _ => rfl
  | error fault => simp only [Act.bind_apply, hremoving, Act.pure_apply]

theorem spawn_of_created (hpull : send (pullRequest job) world = (pulled, fetched))
    (hcreate : send (createRequest job) fetched = (created, made))
    (hstart : send (startRequest job) made = (started, tried))
    (hremove : send (removeRequest job) tried = (removed, last)) {containerId : String}
    (hid : created.value .createdId = .ok containerId) :
    (ofConnection send).spawn job world =
      match started.unit with
      | .ok () => (.ok ⟨job.id, containerId, name⟩, tried)
      | .error fault =>
        (.error (.provisioning
          ("cannot start container " ++ containerName job.id ++ ": " ++ fault.message)), last) := by
  unfold spawn
  simp only [Act.bind_apply, create_apply hpull hcreate, hid, startContainer_apply hstart hremove]
  cases started.unit <;> rfl

end Spawning

theorem kept_apply {send : Connection σ} {request : EngineRequest} {reply : EngineReply}
    {world next : World σ} (h : send request world = (reply, next)) (told : List Exchange) :
    send.kept request { world with backend := (world.backend, told) } =
      (reply, { next with backend := (next.backend, told ++ [⟨request, reply⟩]) }) := by
  unfold Connection.kept
  dsimp only
  rw [h]
  rfl

/-- Keeping the exchanges changes no result, and they are those of a launch. -/
theorem launch_of_spawn (send : Connection σ) (job : JobSpec) (host : World σ) :
    let kept := (ofConnection send.kept).spawn job host.listening
    kept.1 = ((ofConnection send).spawn job host).1 ∧ Launch job kept.2.exchanges kept.1 := by
  rcases hpull : send (pullRequest job) host with ⟨pulled, fetched⟩
  rcases hcreate : send (createRequest job) fetched with ⟨created, made⟩
  have hpull' := kept_apply hpull []
  have hcreate' := kept_apply hcreate ([] ++ [⟨pullRequest job, pulled⟩])
  dsimp only [World.listening]
  cases hid : created.value .createdId with
  | error fault =>
      rw [spawn_of_uncreated hpull' hcreate' hid, spawn_of_uncreated hpull hcreate hid]
      exact ⟨rfl, .uncreated hid⟩
  | ok containerId =>
      rcases hstart : send (startRequest job) made with ⟨started, tried⟩
      rcases hremove : send (removeRequest job) tried with ⟨removed, last⟩
      rw [spawn_of_created hpull' hcreate' (kept_apply hstart _) (kept_apply hremove _) hid,
        spawn_of_created hpull hcreate hstart hremove hid]
      cases hunit : started.unit with
      | ok _ => exact ⟨rfl, .started hid hunit⟩
      | error fault => exact ⟨rfl, .unstarted hid hunit⟩

end Engine

/-- A builder container is neither leaked nor removed twice. The calls of a builder stage, which
are those of the same stage on backends that enter them, form a custody of at most one
container, and no result depends on the removal. On the engine, a container that was created and
could not be started is removed once, and one that was not created never is. -/
theorem BuilderStage.container_released (stage : BuilderStage σ) (id : RunId) (spec : BuilderSpec)
    (fingerprint : String) (world : World σ) :
    let told := stage.produce id spec fingerprint world
    let entered := stage.entered.produce id spec fingerprint world.opened
    entered.1 = told.1 ∧
    Custody (Job.ofBuilder world.files.workingPath id spec)
      (entered.2.ledger.map LedgerEntry.dealing) ∧
    (∀ remove, ((stage.removing remove).produce id spec fingerprint world).1 = told.1) ∧
    ∀ {τ : Type} (send : Connection τ) (job : JobSpec) (host : World τ),
      let kept := (Engine.ofConnection send.kept).spawn job host.listening
      kept.1 = ((Engine.ofConnection send).spawn job host).1 ∧
        Engine.Launch job kept.2.exchanges kept.1 := by
  intro told entered
  have hsame : entered.1 = told.1 :=
    (congrArg Prod.fst (Act.Enters.produce stage id spec fingerprint world.opened)).symm
  obtain ⟨dealings, hcustody, hledger⟩ := custody_of_produce
    (rfl : stage.entered.produce id spec fingerprint world.opened = (entered.1, entered.2))
  have hdealings : entered.2.ledger.map LedgerEntry.dealing = dealings := hledger
  refine ⟨hsame, ?_, fun remove => fst_produce_removing stage remove id spec fingerprint world,
    Engine.launch_of_spawn⟩
  rw [hdealings]
  exact hcustody

end SealedBuild
