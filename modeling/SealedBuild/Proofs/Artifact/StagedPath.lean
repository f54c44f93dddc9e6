import SealedBuild.Proofs.Definition
import SealedBuild.Proofs.Files.Tree
import SealedBuild.Proofs.Run.Stages

/-!
# Where an artifact is staged

An accepted artifact path is absolute and does not end in a slash. Two kinds of such paths still
name no file: those without any name, and those whose last name is a double dot. Their artifact
name is the whole path, which then takes the place of the run's own directory. Of every other
accepted path the artifact name is a single name, and the artifact is staged right in the run's
own directory.
-/

namespace SealedBuild

namespace BuilderSpec

/-- The artifact has a single name, and each run stages it under that name right in its own
directory. -/
structure StagedInside (spec : BuilderSpec) : Prop where
  ordinary : HostPath.Ordinary spec.artifactName
  path : ∀ {σ : Type} (stage : BuilderStage σ) (id : RunId),
    stage.stagedPath id spec = stage.runStaging id ++ "/" ++ spec.artifactName
  location : ∀ {σ : Type} (stage : BuilderStage σ) (id : RunId) (files : FileTree),
    files.target (stage.stagedPath id spec) =
      files.target (stage.runStaging id) ++ [spec.artifactName]

variable {spec : BuilderSpec}

/-- A run's own directory is continued by an ordinary name behind one slash. -/
theorem stagedInside_of_ordinary (h : HostPath.Ordinary spec.artifactName) :
    spec.StagedInside where
  ordinary := h
  path stage id := by
    have hslash : (stage.runStaging id).endsWith "/" = false :=
      HostPath.endsWith_join id.ordinary_short
    have hempty : (stage.runStaging id).isEmpty = false := FileTree.join_ne_empty id.ordinary_short
    rw [BuilderStage.stagedPath, HostPath.join, h.isAbsolute_eq, hempty, hslash]
    rfl
  location _ _ _ := FileTree.target_join h

theorem isAbsolute_artifactPath (hvalid : spec.validate = .ok ()) :
    HostPath.isAbsolute spec.artifactPath = true := by
  obtain ⟨-, -, hpath⟩ := check_eq_ok_iff.mp (mapError_eq_ok_iff.mp hvalid)
  unfold checkFilePath at hpath
  cases hstarts : spec.artifactPath.startsWith "/" with
  | true => exact hstarts
  | false => simp [hstarts] at hpath

/-- A path that names no file stands for the artifact name itself. -/
theorem artifactName_of_fileName?_eq_none (h : HostPath.fileName? spec.artifactPath = none) :
    spec.artifactName = spec.artifactPath := by
  rw [artifactName, h, Option.getD_none]

theorem artifactName_of_fileName?_eq_some {name : String}
    (h : HostPath.fileName? spec.artifactPath = some name) : spec.artifactName = name := by
  rw [artifactName, h, Option.getD_some]

theorem not_ordinary_of_fileName?_eq_none (hvalid : spec.validate = .ok ())
    (h : HostPath.fileName? spec.artifactPath = none) : ¬ HostPath.Ordinary spec.artifactName := by
  rw [artifactName_of_fileName?_eq_none h]
  intro hordinary
  have habsolute := isAbsolute_artifactPath hvalid
  rw [hordinary.isAbsolute_eq] at habsolute
  cases habsolute

/-- The artifact of an accepted builder stage is staged in the run's own directory exactly when
its path has a last name that is no double dot. -/
theorem stagedInside_iff (hvalid : spec.validate = .ok ()) :
    spec.StagedInside ↔
      ∃ name, (HostPath.names spec.artifactPath).getLast? = some name ∧ name ≠ ".." := by
  simp only [← HostPath.fileName?_eq_some_iff]
  constructor
  · intro h
    cases hname : HostPath.fileName? spec.artifactPath with
    | none => exact (not_ordinary_of_fileName?_eq_none hvalid hname h.ordinary).elim
    | some name => exact ⟨name, rfl⟩
  · rintro ⟨name, hname⟩
    apply stagedInside_of_ordinary
    rw [artifactName_of_fileName?_eq_some hname]
    exact HostPath.ordinary_fileName hname

/-- The sample builder stage with another artifact path. -/
def sampleAt (path : String) : BuilderSpec :=
  { PipelineDefinition.sample.builder with artifactPath := path }

theorem stagedInside_sampleAt :
    (sampleAt "/out/./service/.").validate = .ok () ∧
      (sampleAt "/out/./service/.").StagedInside := by
  have hvalid : (sampleAt "/out/./service/.").validate = .ok () :=
    eq_ok_iff_toBool.mpr (by decide +kernel)
  exact ⟨hvalid, (stagedInside_iff hvalid).mpr ⟨"service", by decide +kernel, by decide⟩⟩

/-- A path that ends in a double dot is accepted, and no run stages it in its own directory. -/
theorem parent_path_not_stagedInside :
    (sampleAt "/build/..").validate = .ok () ∧
      (sampleAt "/build/..").artifactName = "/build/.." ∧
      (∀ {σ : Type} (stage : BuilderStage σ) (id : RunId),
        stage.stagedPath id (sampleAt "/build/..") = "/build/..") ∧
      ¬ (sampleAt "/build/..").StagedInside := by
  have hname : (sampleAt "/build/..").artifactName = "/build/.." := by decide +kernel
  refine ⟨eq_ok_iff_toBool.mpr (by decide +kernel), hname, fun stage id => ?_, fun h => ?_⟩
  · have habsolute : HostPath.isAbsolute "/build/.." = true := by decide +kernel
    rw [BuilderStage.stagedPath, hname, HostPath.join, habsolute, if_pos rfl]
  · have hordinary := h.ordinary
    rw [hname] at hordinary
    exact absurd hordinary (by decide +kernel)

end BuilderSpec

end SealedBuild
