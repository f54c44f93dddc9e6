import SealedBuild.Proofs.Concurrent.Directory
import SealedBuild.Proofs.Concurrent.Own
import SealedBuild.Proofs.Concurrent.Schedule

/-!
# Isolation of concurrent runs

Runs with different short identifiers share a staging directory and a daemon and do not disturb
each other: in whatever order their accesses come, each run tells and asks what it would alone, and
in the end the host is as if they had run one after the other.

Each run is followed beside the world that it would have alone. Every access gives the same answer
in both and changes both alike, so that what remains of the run stays what remains of it alone.
-/

namespace SealedBuild

variable {ι κ α : Type}

/-- The way to a staging directory is one that no run can change under another. Where it leads back
by double dots, it matters what it has left. Of the three parts none can be done without: where one
alone is missing, runs may disturb each other, as the last results of this module show. -/
structure Steady (files : FileTree) (stagingDir : String) (ids : ι → RunId) : Prop where
  /-- The way leads through no run's own directory. -/
  apart : ∀ i, ∀ location ∈ files.way stagingDir,
    ¬ files.place stagingDir (ids i).short <+: location
  /-- No file is on the way behind a missing location. -/
  clear : files.Clear (files.way stagingDir)
  /-- While the way is broken off, nothing is at the place of a run's own directory. -/
  vacant : ∀ i, ∀ earlier ∈ files.way stagingDir, files.get? earlier = none →
    ∀ location, files.place stagingDir (ids i).short <+: location → files.get? location = none

/-- On a host as hosts are, the way is steady where the path of the staging directory has no double
dots. -/
theorem steady_of_plain {files : FileTree} {stagingDir : String} (hgrounded : files.Grounded)
    (hplain : ".." ∉ HostPath.names stagingDir) (ids : ι → RunId) :
    Steady files stagingDir ids := by
  have hidle : ∀ name ∈ HostPath.names stagingDir, HostPath.isIdle name = false := by
    intro name hname
    rw [HostPath.names_eq] at hname
    simpa using (List.mem_filter.mp hname).2
  have hway := FileTree.pairwise_scanl hidle hplain (files.startOf stagingDir)
  have htarget : ∀ location ∈ files.way stagingDir, location <+: files.target stagingDir := by
    intro location hmem
    obtain ⟨front, hfront⟩ := FileTree.way_eq_concat files stagingDir
    rw [← FileTree.way, hfront] at hway
    rw [hfront, List.mem_append, List.mem_singleton] at hmem
    rcases hmem with hmem | rfl
    · exact (List.pairwise_append.mp hway).2.2 location hmem _ (List.mem_singleton_self _)
    · exact List.prefix_rfl
  refine ⟨fun i location hmem hown => ?_, ?_, fun i earlier hearlier hmissing location hown => ?_⟩
  · have hlength := (hown.trans (htarget location hmem)).length_le
    rw [FileTree.place, List.length_append, List.length_singleton] at hlength
    omega
  · refine hway.imp fun hbehind hmissing mode content hfile => ?_
    rw [hgrounded.missing hbehind hmissing] at hfile
    cases hfile
  · refine hgrounded.missing ?_ hmissing
    exact (htarget earlier hearlier).trans ((List.prefix_append _ _).trans hown)

/-! ## One access in two worlds -/

/-- A world that runs share agrees with that of a run alone about all that is the run's own, the
files apart. -/
structure Twin (container : String) (own shared : World (Dock κ)) : Prop where
  clock : shared.clock = own.clock
  readings : shared.readings = own.readings
  requested : shared.backend.requested = own.backend.requested
  container : shared.backend.containers container = own.backend.containers container

/-- An access has been made in the world of a run alone and in the one that it shares. -/
structure Acted (start : FileTree) (stagingDir short container : String) (made : Bool)
    (own own' shared shared' : World (Dock κ)) : Prop where
  twin : Twin container own' shared'
  others : ∀ name, name ≠ container →
    shared'.backend.containers name = shared.backend.containers name
  files : start.Parallel stagingDir short own.files own'.files shared.files shared'.files
  alone : start.Alone stagingDir short made own'.files

section Access

variable {start : FileTree} {stagingDir short container : String} {made : Bool}
  {own shared : World (Dock κ)}

/-- An access that changes the files alone. -/
theorem acted_of_files {files files' : FileTree} (htwin : Twin container own shared)
    (hparallel : start.Parallel stagingDir short own.files files shared.files files')
    (halone : start.Alone stagingDir short made files) :
    Acted start stagingDir short container made own { own with files } shared
      { shared with files := files' } :=
  ⟨⟨htwin.clock, htwin.readings, htwin.requested, htwin.container⟩, fun _ _ => rfl, hparallel,
    halone⟩

variable (daemon : Daemon κ) {run : Assignment} {access : Access α}

/-- A permitted access has the same answer in both worlds and changes them alike. -/
theorem Access.act_twin (hpermitted : access.Permitted (run.belongings stagingDir) made)
    (hname : HostPath.Ordinary run.definition.builder.artifactName)
    (hapart : ∀ location ∈ start.way stagingDir,
      ¬ start.place stagingDir run.id.short <+: location)
    (hclear : start.Clear (start.way stagingDir))
    (htwin : Twin (Engine.containerName run.id) own shared)
    (halone : start.Alone stagingDir run.id.short made own.files)
    (hbeside : start.Beside stagingDir run.id.short own.files shared.files) :
    (access.act daemon shared).1 = (access.act daemon own).1 ∧
      Acted start stagingDir run.id.short (Engine.containerName run.id)
        (access.leaves made (access.act daemon own).1) own (access.act daemon own).2
        shared (access.act daemon shared).2 := by
  have hshort := run.id.ordinary_short
  have hstay : Acted start stagingDir run.id.short (Engine.containerName run.id) made own own
      shared shared := ⟨htwin, fun _ _ => rfl, .refl hbeside, halone⟩
  obtain ⟨hclock, hreadings, hrequested, hcontainer⟩ := id htwin
  -- A permitted access is about the run's own, of which both worlds have the same.
  cases access with
  | now =>
      refine ⟨?_, ⟨hclock, congrArg (· + 1) hreadings, hrequested, hcontainer⟩, fun _ _ => rfl,
        .refl hbeside, halone⟩
      simp only [Access.act, Act.now, hclock, hreadings]
  | workingPath =>
      refine ⟨?_, hstay⟩
      simp only [Access.act, FileTree.workingPath, hbeside.workingDir]
  | find path =>
      obtain ⟨hmade, hpath⟩ := hpermitted
      replace hpath : path = HostPath.join (HostPath.join stagingDir run.id.short)
        run.definition.builder.artifactName := hpath
      rw [Access.act_find, Access.act_find, hpath, Access.leaves]
      exact ⟨FileTree.find_artifact halone hbeside hapart hshort hmade hname, hstay⟩
  | createDirAll path =>
      obtain ⟨hmade, hpath⟩ := hpermitted
      replace hpath : path = HostPath.join stagingDir run.id.short := hpath
      rw [Access.act_createDirAll, Access.act_createDirAll, hpath, Access.leaves]
      dsimp only
      obtain ⟨hresult, hparallel, halone'⟩ :=
        FileTree.createDirAll_parallel halone hbeside hapart hshort hmade hclear
      exact ⟨hresult, acted_of_files htwin hparallel halone'⟩
  | removeDirAll path =>
      have hpath : path = HostPath.join stagingDir run.id.short := hpermitted
      rw [Access.act_removeDirAll, Access.act_removeDirAll, hpath, Access.leaves]
      dsimp only
      obtain ⟨hparallel, halone'⟩ := FileTree.removeDirAll_parallel halone hbeside hapart hshort
      exact ⟨rfl, acted_of_files htwin hparallel halone'⟩
  | extract archive dest =>
      obtain ⟨hmade, hpath⟩ := hpermitted
      replace hpath : dest = HostPath.join (HostPath.join stagingDir run.id.short)
        run.definition.builder.artifactName := hpath
      rw [Access.act_extract, Access.act_extract, hpath, Access.leaves]
      dsimp only
      obtain ⟨hresult, hparallel, halone'⟩ :=
        FileTree.extract_parallel halone hbeside hapart hshort hmade hname archive
      rw [← hmade] at halone'
      exact ⟨hresult, acted_of_files htwin hparallel halone'⟩
  | ping => exact ⟨rfl, hstay⟩
  | pull image => exact ⟨rfl, hstay⟩
  | ask container request =>
      have hcontainer' : container = Engine.containerName run.id := hpermitted
      rw [Access.act_ask, Access.act_ask, hcontainer', hcontainer, Access.leaves]
      refine ⟨rfl, ⟨hclock, hreadings, hrequested, ?_⟩, fun name hother => if_neg hother,
        .refl hbeside, halone⟩
      dsimp only
      rw [if_pos rfl, if_pos rfl]
  | build request =>
      exact ⟨rfl, ⟨hclock, hreadings, congrArg (· ++ [request]) hrequested, hcontainer⟩,
        fun _ _ => rfl, .refl hbeside, halone⟩
  | imageId tag => exact ⟨rfl, hstay⟩

end Access

/-! ## Runs beside what they would be alone -/

theorem containerName_injective {id id' : RunId}
    (h : Engine.containerName id = Engine.containerName id') : id.short = id'.short := by
  have hlist := congrArg String.toList h
  simp only [Engine.containerName, String.toList_append, List.append_assoc,
    List.append_cancel_left_eq, List.append_cancel_right_eq] at hlist
  exact String.toList_injective hlist

/-- Every run has before it what it would have before it alone, in a world of its own beside the
shared one. -/
structure Matched (daemon : Daemon κ) (stagingDir : String) (host : SharedHost κ)
    (assigned : ι → Assignment) (runs : Runs ι κ) (worlds : ι → World (Dock κ))
    (mades : ι → Bool) : Prop where
  rest : ∀ i, (runs.runner i).program.act daemon (worlds i) =
    (assigned i).alone daemon stagingDir host
  keeps : ∀ i, (runs.runner i).program.Keeps ((assigned i).belongings stagingDir) (mades i)
    fun _ _ => True
  twin : ∀ i, Twin (Engine.containerName (assigned i).id) (worlds i)
    ((runs.runner i).world runs.host)
  alone : ∀ i, host.files.Alone stagingDir (assigned i).id.short (mades i) (worlds i).files
  files : host.files.Merged stagingDir (fun i => (assigned i).id.short)
    (fun i => (worlds i).files) runs.host.files
  elsewhere : ∀ name, (∀ i, name ≠ Engine.containerName (assigned i).id) →
    runs.host.containers name = host.containers name

section Isolation

variable (daemon : Daemon κ) (stagingDir : String) (host : SharedHost κ)
  (assigned : ι → Assignment)

/-- At the start nothing sets the worlds apart. -/
theorem matched_start (hsteady : Steady host.files stagingDir fun i => (assigned i).id) :
    Matched daemon stagingDir host assigned (.start stagingDir host assigned)
      (fun i => ((assigned i).runner stagingDir).world host) fun _ => false where
  rest i := (assigned i).act_runner daemon stagingDir host
  keeps i := (assigned i).keeps_program stagingDir
  twin _ := ⟨rfl, rfl, rfl, rfl⟩
  alone i := ⟨rfl, rfl, fun _ _ => .inl rfl, nofun, fun _ => hsteady.vacant i⟩
  files := .refl _ _ _
  elsewhere _ _ := rfl

variable {daemon stagingDir host assigned} [DecidableEq ι]
  (hnames : ∀ i, HostPath.Ordinary (assigned i).definition.builder.artifactName)
  (hdistinct : Function.Injective fun i => (assigned i).id.short)
  (hsteady : Steady host.files stagingDir fun i => (assigned i).id)
include hnames hdistinct hsteady

/-- An access of one run leaves every run matched. -/
theorem matched_step {runs : Runs ι κ} {worlds : ι → World (Dock κ)} {mades : ι → Bool}
    (h : Matched daemon stagingDir host assigned runs worlds mades) (i : ι) :
    ∃ worlds' mades',
      Matched daemon stagingDir host assigned (runs.step daemon i) worlds' mades' := by
  have hrest := h.rest i
  have hkeeps := h.keeps i
  cases hprogram : (runs.runner i).program with
  | done told =>
      rw [Runs.step_of_done daemon hprogram]
      exact ⟨worlds, mades, h⟩
  | step access next =>
      rw [hprogram] at hrest hkeeps
      obtain ⟨hpermitted, hnext⟩ := hkeeps
      obtain ⟨hanswer, hacted⟩ := access.act_twin daemon hpermitted (hnames i) (hsteady.apart i)
        hsteady.clear (h.twin i) (h.alone i) (h.files.beside h.alone hsteady.apart i)
      rw [Runs.step_of_access daemon hprogram, hanswer]
      replace hrest : (next (access.act daemon (worlds i)).1).act daemon
          (access.act daemon (worlds i)).2 = (assigned i).alone daemon stagingDir host := hrest
      -- The run of the access goes on in both its worlds, and the other runs stand still.
      generalize access.act daemon ((runs.runner i).world runs.host) = shared at hacted
      generalize access.act daemon (worlds i) = own at hrest hacted
      obtain ⟨answer, world⟩ := own
      have hself : (runs.reach i (next answer) shared.2).runner i =
          .ofWorld (next answer) shared.2 := Function.update_self _ _ _
      have hother (j : ι) (hj : j ≠ i) :
          (runs.reach i (next answer) shared.2).runner j = runs.runner j :=
        Function.update_of_ne hj _ _
      refine ⟨Function.update worlds i world,
        Function.update mades i (access.leaves (mades i) answer), ?_, ?_, ?_, ?_, ?_, ?_⟩
      · intro j
        by_cases hj : j = i
        · subst hj
          rw [hself, Function.update_self]
          exact hrest
        · rw [hother j hj, Function.update_of_ne hj]
          exact h.rest j
      · intro j
        by_cases hj : j = i
        · subst hj
          rw [hself, Function.update_self]
          exact hnext answer
        · rw [hother j hj, Function.update_of_ne hj]
          exact h.keeps j
      · intro j
        by_cases hj : j = i
        · subst hj
          rw [hself, Function.update_self]
          exact hacted.twin
        · rw [hother j hj, Function.update_of_ne hj]
          have htwin := h.twin j
          have hname :
              Engine.containerName (assigned j).id ≠ Engine.containerName (assigned i).id :=
            fun heq => hj (hdistinct (containerName_injective heq))
          exact ⟨htwin.clock, htwin.readings, htwin.requested,
            (hacted.others _ hname).trans htwin.container⟩
      · intro j
        by_cases hj : j = i
        · subst hj
          rw [Function.update_self, Function.update_self]
          exact hacted.alone
        · rw [Function.update_of_ne hj, Function.update_of_ne hj]
          exact h.alone j
      · have hfiles := h.files.step h.alone hsteady.apart hdistinct hacted.files
        have htrees : (fun j => (Function.update worlds i world j).files) =
            Function.update (fun j => (worlds j).files) i world.files :=
          funext fun j => Function.apply_update (fun _ => World.files) worlds i world j
        rw [htrees]
        exact hfiles
      · intro name hname
        exact (hacted.others name (hname i)).trans (h.elsewhere name hname)

variable (daemon) in
theorem matched_after (schedule : List ι) :
    ∃ worlds mades, Matched daemon stagingDir host assigned
      ((Runs.start stagingDir host assigned).after daemon schedule) worlds mades := by
  induction schedule using List.reverseRecOn with
  | nil => exact ⟨_, _, matched_start daemon stagingDir host assigned hsteady⟩
  | append_singleton schedule i ih =>
      obtain ⟨worlds, mades, h⟩ := ih
      rw [Runs.after_append]
      exact matched_step hnames hdistinct hsteady h i

omit [DecidableEq ι] hnames hdistinct hsteady in
/-- A run that is at its end has told and asked what it would have alone. -/
theorem Matched.ended {runs : Runs ι κ} {worlds : ι → World (Dock κ)} {mades : ι → Bool}
    (h : Matched daemon stagingDir host assigned runs worlds mades) {i : ι}
    {told : List Event × RunOutcome} (hdone : (runs.runner i).program = .done told) :
    (assigned i).alone daemon stagingDir host = (told, worlds i) := by
  have hrest := h.rest i
  rw [hdone] at hrest
  exact hrest.symm

omit [DecidableEq ι] hnames hdistinct hsteady in
/-- Where all runs are at their ends, the host is settled by what each would do alone. -/
theorem Matched.same {runs runs' : Runs ι κ} {worlds worlds' : ι → World (Dock κ)}
    {mades mades' : ι → Bool} (h : Matched daemon stagingDir host assigned runs worlds mades)
    (h' : Matched daemon stagingDir host assigned runs' worlds' mades') (hended : runs.Ended)
    (hended' : runs'.Ended) : runs.host.Same runs'.host := by
  -- What a run leaves is settled by the run alone, so it is the same under both schedules.
  obtain rfl : worlds = worlds' := by
    funext i
    obtain ⟨told, hdone⟩ := hended i
    obtain ⟨told', hdone'⟩ := hended' i
    exact (Prod.mk.inj ((h.ended hdone).symm.trans (h'.ended hdone'))).2
  refine ⟨h.files.workingDir.trans h'.files.workingDir.symm, h.files.get?_eq h'.files, ?_⟩
  funext name
  by_cases hown : ∃ i, name = Engine.containerName (assigned i).id
  · obtain ⟨i, rfl⟩ := hown
    exact (h.twin i).container.trans (h'.twin i).container.symm
  · have hother := not_exists.mp hown
    exact (h.elsewhere name hother).trans (h'.elsewhere name hother).symm

end Isolation

/-- However the accesses of runs with different short identifiers are scheduled, each run that is at
its end has told and asked what it would have alone; when all are, the host is as if they had run
one after the other, in any order; and they can always be gone on with until then. -/
theorem isolated_after [DecidableEq ι] (daemon : Daemon κ) {stagingDir : String}
    {host : SharedHost κ} {assigned : ι → Assignment}
    (hnames : ∀ i, HostPath.Ordinary (assigned i).definition.builder.artifactName)
    (hdistinct : Function.Injective fun i => (assigned i).id.short)
    (hsteady : Steady host.files stagingDir fun i => (assigned i).id) (schedule : List ι) :
    let runs := (Runs.start stagingDir host assigned).after daemon schedule
    (∀ i told, (runs.runner i).program = .done told →
      told = ((assigned i).alone daemon stagingDir host).1 ∧
        (runs.runner i).requested =
          ((assigned i).alone daemon stagingDir host).2.backend.requested) ∧
    ∀ order : List ι, order.Nodup → (∀ i, i ∈ order) →
      (runs.Ended → runs.host.Same
        (order.foldl (fun host i => .ofWorld ((assigned i).alone daemon stagingDir host).2) host)) ∧
      ∃ more, (runs.after daemon more).Ended := by
  intro runs
  obtain ⟨worlds, mades, h⟩ := matched_after daemon hnames hdistinct hsteady schedule
  refine ⟨fun i told hdone => ?_, fun order hnodup hall => ⟨fun hended => ?_, ?_⟩⟩
  · rw [h.ended hdone]
    exact ⟨rfl, (h.twin i).requested⟩
  · -- One run after the other is a schedule as well.
    obtain ⟨serial, hhost, hdone, -⟩ := Runs.exists_after_order daemon stagingDir assigned order
      hnodup (.start stagingDir host assigned) fun _ _ => rfl
    obtain ⟨worlds', mades', h'⟩ := matched_after daemon hnames hdistinct hsteady serial
    have hsame := h.same h' hended fun i => hdone i (hall i)
    rw [hhost] at hsame
    exact hsame
  · obtain ⟨more, hdone⟩ := Runs.exists_after_all_done daemon order runs
    exact ⟨more, fun i => hdone i (.inl (hall i))⟩

/-! ## Two sample runs -/

/-- A daemon that makes every container and builds every image. -/
def Daemon.willing : Daemon Bool where
  ping := .ok ()
  container
    | name, .create _, _ => (.ok name, true)
    | _, .start, there => (.ok (), there)
    | _, .logs, there => ([], there)
    | _, .state, there => (.ok (some { exitCode := some 0 }), there)
    | _, .wait, there => ([.ok 0], there)
    | _, .archive _, there => ([.ok (Archive.write [⟨"service", 0o755, [127]⟩])], there)
    | _, .remove, _ => (.ok (), false)
  build _ := [.ok { imageId := some "sha256:1" }]
  imageId _ := .ok none

/-- Two runs of one definition, of which one keeps its artifact. -/
def Assignment.sample (kept : Bool) : Assignment where
  id := if kept then ⟨2⟩ else ⟨1⟩
  definition := .sample
  retain := kept
  tag := none
  inspect _ _ := .ok ⟨.x86_64, [], none, false, []⟩
  clock _ := ⟨0, 0⟩

/-- A host without containers whose files lie at its root. -/
def SharedHost.sample (nodes : List (List String × FileNode)) : SharedHost Bool :=
  ⟨⟨nodes, []⟩, fun _ => false⟩

theorem ordinary_sample (kept : Bool) :
    HostPath.Ordinary (Assignment.sample kept).definition.builder.artifactName := by
  cases kept <;> decide +kernel

theorem injective_sample : Function.Injective fun kept => (Assignment.sample kept).id.short := by
  have hdistinct : ∀ kept kept',
      (Assignment.sample kept).id.short = (Assignment.sample kept').id.short → kept = kept' := by
    decide +kernel
  exact hdistinct

theorem alternating_runs_isolated :
    let runs := (Runs.start "/staging" (.sample []) Assignment.sample).after .willing
      (List.replicate 30 [false, true]).flatten
    let alone (kept : Bool) := (Assignment.sample kept).alone .willing "/staging" (.sample [])
    (∀ kept, HostPath.Ordinary (Assignment.sample kept).definition.builder.artifactName) ∧
      (Function.Injective fun kept => (Assignment.sample kept).id.short) ∧
      (Steady (SharedHost.sample []).files "/staging" fun kept => (Assignment.sample kept).id) ∧
      (∀ kept, ∃ told, (runs.runner kept).program = .done told ∧ told.2.success = true ∧
        told = (alone kept).1 ∧
        (runs.runner kept).requested = (alone kept).2.backend.requested) ∧
      runs.host.Same ([false, true].foldl
        (fun host kept => .ofWorld ((Assignment.sample kept).alone .willing "/staging" host).2)
        (.sample [])) := by
  have hgrounded : (SharedHost.sample []).files.Grounded := by
    intro location name hnode
    simp [SharedHost.sample, FileTree.get?] at hnode
  have hplain : ".." ∉ HostPath.names "/staging" := by decide
  have hsteady := steady_of_plain hgrounded hplain fun kept => (Assignment.sample kept).id
  have hsuccess : ∀ kept, ((((Runs.start "/staging" (.sample []) Assignment.sample).after .willing
      (List.replicate 30 [false, true]).flatten).runner kept).program.result?.map
        fun told => told.2.success) = some true := by
    decide +kernel
  obtain ⟨hown, hhost⟩ := isolated_after .willing ordinary_sample injective_sample hsteady
    (List.replicate 30 [false, true]).flatten
  dsimp only
  generalize (Runs.start "/staging" (.sample []) Assignment.sample).after .willing
    (List.replicate 30 [false, true]).flatten = runs at hsuccess hown hhost ⊢
  have hdone : ∀ kept, ∃ told, (runs.runner kept).program = .done told ∧ told.2.success = true := by
    intro kept
    obtain ⟨told, hresult, htold⟩ := Option.map_eq_some_iff.mp (hsuccess kept)
    exact ⟨told, Program.eq_done_of_result? hresult, htold⟩
  refine ⟨ordinary_sample, injective_sample, hsteady, fun kept => ?_, ?_⟩
  · obtain ⟨told, htold, hsucceeded⟩ := hdone kept
    exact ⟨told, htold, hsucceeded, hown kept told htold⟩
  · exact (hhost [false, true] (by decide) (by decide)).1 fun kept =>
      (hdone kept).imp fun _ h => h.1

/-! ## Without a steady way -/

/-- A run whose stages have failed otherwise than they would alone has told something else. -/
theorem exists_told_ne {program : Program (List Event × RunOutcome)}
    {alone : List Event × RunOutcome} {messages messages' : List (Option String)}
    (htold : (program.result?.map fun told => told.2.run.stages.map StageResult.message) =
      some messages)
    (halone : alone.2.run.stages.map StageResult.message = messages') (hne : messages ≠ messages') :
    ∃ told, program = .done told ∧ told ≠ alone ∧
      told.2.run.stages.map StageResult.message = messages := by
  obtain ⟨told, hresult, hmessages⟩ := Option.map_eq_some_iff.mp htold
  refine ⟨told, Program.eq_done_of_result? hresult, ?_, hmessages⟩
  rintro rfl
  exact hne (hmessages.symm.trans halone)

/-- Where the way to the staging directory leads back by a double dot to a file, the first run makes
the directory before it, and the second one is then told that the file is no directory. Alone it
makes the directory itself, and is told that there is something else already. -/
theorem way_back_to_file_tells_runs_apart :
    let runs := (Runs.start "fresh/../taken" (.sample [(["taken"], .file 0o644 [])])
      Assignment.sample).after .willing (List.replicate 30 false ++ List.replicate 30 true)
    let alone := (Assignment.sample true).alone .willing "fresh/../taken"
      (.sample [(["taken"], .file 0o644 [])])
    (∀ kept, HostPath.Ordinary (Assignment.sample kept).definition.builder.artifactName) ∧
      (Function.Injective fun kept => (Assignment.sample kept).id.short) ∧
      ∃ told, (runs.runner true).program = .done told ∧ told ≠ alone.1 ∧
        told.2.run.stages.map StageResult.message =
          [some "IO error: Not a directory (os error 20)"] ∧
        alone.1.2.run.stages.map StageResult.message =
          [some "IO error: File exists (os error 17)"] := by
  have hshared : ((((Runs.start "fresh/../taken" (.sample [(["taken"], .file 0o644 [])])
      Assignment.sample).after .willing (List.replicate 30 false ++ List.replicate 30 true)).runner
        true).program.result?.map fun told => told.2.run.stages.map StageResult.message) =
      some [some "IO error: Not a directory (os error 20)"] := by
    decide +kernel
  have halone : ((Assignment.sample true).alone .willing "fresh/../taken"
      (.sample [(["taken"], .file 0o644 [])])).1.2.run.stages.map StageResult.message =
      [some "IO error: File exists (os error 17)"] := by
    decide +kernel
  obtain ⟨told, hdone, hother, htold⟩ := exists_told_ne hshared halone (by decide)
  exact ⟨ordinary_sample, injective_sample, told, hdone, hother, htold, halone⟩

/-- No file is in the way on a host that has directories only. -/
theorem clear_sample {nodes : List (List String × FileNode)}
    (hnodes : ∀ entry ∈ nodes, entry.2 = .directory) (locations : List (List String)) :
    (SharedHost.sample nodes).files.Clear locations := by
  refine List.pairwise_of_forall fun earlier later _ mode content hfile => ?_
  unfold SharedHost.sample FileTree.get? at hfile
  split at hfile
  · cases hfile
  · obtain ⟨front, back, rfl, -⟩ := List.lookup_eq_some_iff.mp hfile
    have hnode := hnodes (later, .file mode content) (by simp)
    cases hnode

/-- Where the way to the staging directory leads through the own directory of the run that keeps
nothing, this run discards it while the other one, which alone would succeed, is between its
artifact and its image. Nothing else about the way is amiss: it leads to no file, and nothing is at
the place of a run's own directory. -/
theorem way_through_own_directory_tells_runs_apart :
    let files := (SharedHost.sample []).files
    let runs := (Runs.start "000000000001/.." (.sample []) Assignment.sample).after .willing
      (List.replicate 15 true ++ List.replicate 30 false ++ List.replicate 30 true)
    let alone := (Assignment.sample true).alone .willing "000000000001/.." (.sample [])
    (∀ kept, HostPath.Ordinary (Assignment.sample kept).definition.builder.artifactName) ∧
      (Function.Injective fun kept => (Assignment.sample kept).id.short) ∧
      files.Clear (files.way "000000000001/..") ∧
      (∀ kept, ∀ location, files.place "000000000001/.." (Assignment.sample kept).id.short <+:
        location → files.get? location = none) ∧
      ∃ told, (runs.runner true).program = .done told ∧ told ≠ alone.1 ∧
        told.2.run.stages.map StageResult.message =
          [none, some ("artifact handoff failed: artifact missing at " ++
            "000000000001/../000000000002/service: No such file or directory (os error 2)")] ∧
        alone.1.2.run.stages.map StageResult.message = [none, none] := by
  have hshared : ((((Runs.start "000000000001/.." (.sample []) Assignment.sample).after .willing
      (List.replicate 15 true ++ List.replicate 30 false ++ List.replicate 30 true)).runner
        true).program.result?.map fun told => told.2.run.stages.map StageResult.message) =
      some [none, some ("artifact handoff failed: artifact missing at " ++
        "000000000001/../000000000002/service: No such file or directory (os error 2)")] := by
    decide +kernel
  have halone : ((Assignment.sample true).alone .willing "000000000001/.."
      (.sample [])).1.2.run.stages.map StageResult.message = [none, none] := by
    decide +kernel
  have hvacant : ∀ kept, ∀ location, (SharedHost.sample []).files.place "000000000001/.."
      (Assignment.sample kept).id.short <+: location →
        (SharedHost.sample []).files.get? location = none := by
    intro kept location hown
    refine if_neg ?_
    rintro rfl
    exact FileTree.place_ne_nil _ _ _ (List.prefix_nil.mp hown)
  obtain ⟨told, hdone, hother, htold⟩ := exists_told_ne hshared halone (by decide)
  exact ⟨ordinary_sample, injective_sample, clear_sample (by simp) _, hvacant, told, hdone, hother,
    htold, halone⟩

/-- The sample runs, of which the one that keeps nothing has a source tree without a path. It fails
before it has a container, and discards its directory. -/
def Assignment.unsourced (kept : Bool) : Assignment :=
  if kept then .sample true
  else
    let run := Assignment.sample false
    { run with
      definition := { run.definition with
        builder := { run.definition.builder with source := some ⟨"", "/src"⟩ } } }

/-- A host with something at the directory of the run that keeps nothing. -/
def SharedHost.leftover : SharedHost Bool :=
  .sample [(["staging"], .directory), (["staging", "000000000001"], .directory)]

/-- Where something lies at a run's own directory and the way there leads back from a missing
directory, what the run discards depends on whether the other one has made that directory. So the
host is not the same as if the runs had come the other way round. Nothing else about the way is
amiss: it leads through no run's own directory, and to no file. -/
theorem leftover_behind_missing_way_tells_orders_apart :
    let files := SharedHost.leftover.files
    let runs := (Runs.start "gone/../staging" .leftover Assignment.unsourced).after .willing
      (List.replicate 30 true ++ List.replicate 30 false)
    let serial := [false, true].foldl (fun host kept => .ofWorld
      ((Assignment.unsourced kept).alone .willing "gone/../staging" host).2) SharedHost.leftover
    (∀ kept, HostPath.Ordinary (Assignment.unsourced kept).definition.builder.artifactName) ∧
      (Function.Injective fun kept => (Assignment.unsourced kept).id.short) ∧
      (∀ kept, ∀ location ∈ files.way "gone/../staging",
        ¬ files.place "gone/../staging" (Assignment.unsourced kept).id.short <+: location) ∧
      files.Clear (files.way "gone/../staging") ∧
      runs.Ended ∧ ¬ runs.host.Same serial ∧
        runs.host.files.get? ["staging", "000000000001"] = none ∧
        serial.files.get? ["staging", "000000000001"] = some .directory := by
  have hnames : ∀ kept,
      HostPath.Ordinary (Assignment.unsourced kept).definition.builder.artifactName := by
    intro kept
    have hname := ordinary_sample kept
    cases kept <;> exact hname
  have hdistinct : Function.Injective fun kept => (Assignment.unsourced kept).id.short := by
    have hsame : ∀ kept, (Assignment.unsourced kept).id = (Assignment.sample kept).id := by decide
    simpa only [hsame] using injective_sample
  obtain ⟨hended, hdropped⟩ :
      (∀ kept, (((Runs.start "gone/../staging" .leftover Assignment.unsourced).after .willing
        (List.replicate 30 true ++ List.replicate 30 false)).runner
          kept).program.result?.isSome = true) ∧
      ((Runs.start "gone/../staging" .leftover Assignment.unsourced).after .willing
        (List.replicate 30 true ++ List.replicate 30 false)).host.files.get?
          ["staging", "000000000001"] = none := by
    decide +kernel
  have hleft : ([false, true].foldl (fun host kept => .ofWorld
      ((Assignment.unsourced kept).alone .willing "gone/../staging" host).2)
        SharedHost.leftover).files.get? ["staging", "000000000001"] = some .directory := by
    decide +kernel
  dsimp only
  generalize (Runs.start "gone/../staging" .leftover Assignment.unsourced).after .willing
    (List.replicate 30 true ++ List.replicate 30 false) = runs at hended hdropped ⊢
  generalize [false, true].foldl (fun host kept => .ofWorld
    ((Assignment.unsourced kept).alone .willing "gone/../staging" host).2)
      SharedHost.leftover = serial at hleft ⊢
  refine ⟨hnames, hdistinct, by decide +kernel, clear_sample (by simp) _, fun kept => ?_,
    fun hsame => ?_, hdropped, hleft⟩
  · obtain ⟨told, htold⟩ := Option.isSome_iff_exists.mp (hended kept)
    exact ⟨told, Program.eq_done_of_result? htold⟩
  · have hget := hsame.get? ["staging", "000000000001"]
    rw [hdropped, hleft] at hget
    cases hget

end SealedBuild
