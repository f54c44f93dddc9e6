import SealedBuild.Proofs.Run.Phases

/-!
# The path in the test of an artifact

The script of a job names the artifact's path in its last command only, as one word in each of two
conditions and as a part of the message. Each of these reads as the path itself, whatever characters
it has. What `echo` makes of its operand is left to the shell.
-/

namespace SealedBuild.Job

open Script Text

/-- The rows of a job before its last one do not depend on the artifact's path. -/
theorem exists_rows_eq (spec : BuilderSpec) :
    ∃ earlier, ∀ path, rows { spec with artifactPath := path } = earlier ++ [expectationRow path] :=
  ⟨(spec.environment.installScript.toList.flatMap fun install =>
      "echo '[isobuild] provisioning'".toList :: guardedRows install provisioningExit) ++
    "echo '[isobuild] compiling'".toList :: spec.commands.flatMap (guardedRows · compilationExit),
    fun path => by simp [rows]⟩

theorem exists_script_eq (spec : BuilderSpec) :
    ∃ earlier, ∀ path,
      (script { spec with artifactPath := path }).toList =
        earlier ++ (expectationRow path ++ ['\n']) := by
  obtain ⟨earlier, hrows⟩ := exists_rows_eq spec
  refine ⟨earlier.flatMap (· ++ ['\n']), fun path => ?_⟩
  rw [toList_script, hrows, List.flatMap_append, List.flatMap_singleton]

/-- A path with both quotes, a dollar, a backslash and a line feed. -/
def quotingPath : String := "/out/it's \"$HOME\"\\\n"

end SealedBuild.Job
