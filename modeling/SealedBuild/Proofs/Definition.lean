import SealedBuild.Pipeline
import SealedBuild.Proofs.Outcome

/-!
# Accepted declarations

What each check of a pipeline's declaration lets through. A declaration is accepted exactly
when all of its parts are.
-/

namespace SealedBuild

theorem ne_empty_of_checkFilePath {what path : String} (h : checkFilePath what path = .ok ()) :
    path ≠ "" := by
  rintro rfl
  cases h

theorem BuildEnvironment.check_eq_ok_iff {e : BuildEnvironment} :
    e.check = .ok () ↔
      e.toolchain.isPinned = true ∧ Text.allBlank e.crypto.library = false ∧
        ∀ name ∈ e.extraEnv.names, e.derivedEnv.contains name = false := by
  unfold check
  cases e.toolchain.isPinned with
  | false => simp
  | true =>
      cases Text.allBlank e.crypto.library with
      | true => simp
      | false =>
          cases hfound : e.extraEnv.names.find? e.derivedEnv.contains with
          | none => simpa using hfound
          | some name =>
              have hmem := List.mem_of_find?_eq_some hfound
              have hderived := List.find?_some hfound
              simp only [Bool.not_true, Bool.false_eq_true, if_false, reduceCtorEq, true_and,
                false_iff]
              intro hnone
              rw [hnone name hmem] at hderived
              cases hderived

theorem BuilderSpec.check_eq_ok_iff {spec : BuilderSpec} :
    spec.check = .ok () ↔
      spec.environment.check = .ok () ∧ spec.commands ≠ [] ∧
        checkFilePath "artifact path" spec.artifactPath = .ok () := by
  unfold check
  cases spec.commands with
  | nil => simp [check_bind_eq_ok_iff, throw_ne_ok]
  | cons command commands => simp [check_bind_eq_ok_iff, mapError_eq_ok_iff]

theorem RuntimeSpec.check_eq_ok_iff {spec : RuntimeSpec} :
    spec.check = .ok () ↔
      Text.allBlank spec.baseImage = false ∧
        checkFilePath "destination" spec.destination = .ok () ∧
        ∀ tag ∈ spec.tag, ImageTag.check tag = .ok () := by
  unfold check
  cases Text.allBlank spec.baseImage with
  | true => simp [check_bind_eq_ok_iff, throw_ne_ok]
  | false => cases spec.tag <;> simp [check_bind_eq_ok_iff, mapError_eq_ok_iff]

theorem PipelineDefinition.validate_eq_ok_iff {definition : PipelineDefinition} :
    definition.validate = .ok () ↔
      Text.allBlank definition.name = false ∧ definition.builder.check = .ok () ∧
        definition.runtime.check = .ok () := by
  rw [validate, mapError_eq_ok_iff, check]
  cases Text.allBlank definition.name <;> simp [check_bind_eq_ok_iff, throw_ne_ok]

/-- A declaration that is accepted. -/
def PipelineDefinition.sample : PipelineDefinition where
  name := "service"
  builder := {
    environment := .ofToolchain ⟨"rust", "1.75"⟩ (.ofLibrary "openssl")
    source := none
    commands := ["make"]
    artifactPath := "/out/service" }
  runtime := ⟨"scratch", "/service", some "service:1"⟩

theorem PipelineDefinition.validate_sample : sample.validate = .ok () :=
  eq_ok_iff_toBool.mpr (by decide +kernel)

end SealedBuild
