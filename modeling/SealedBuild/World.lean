import SealedBuild.FileTree
import SealedBuild.Instant

/-!
# Worlds

What a run acts on: the files of the host, a clock, and the state that its backends keep.
An action is a function from a world to a result and the world after it, so that a run can
be followed step by step.
-/

namespace SealedBuild

/-- The files, the clock and the backends' state. The clock gives an instant for each time
it has been read. -/
structure World (σ : Type) where
  files : FileTree
  clock : Nat → Instant
  readings : Nat := 0
  backend : σ

/-- An action with backends of state `σ`. -/
abbrev Act (σ : Type) := StateM (World σ)

namespace Act

/-- Reads the clock. -/
def now : Act σ Instant := fun world =>
  (world.clock world.readings, { world with readings := world.readings + 1 })

/-- The files as they are. -/
def files : Act σ FileTree := fun world =>
  (world.files, world)

/-- Puts other files in place. -/
def setFiles (files : FileTree) : Act σ Unit := fun world =>
  ((), { world with files })

/-- Changes the files by an operation that may be refused, in which case they stay. -/
def changeFiles (operation : FileTree → Except FileFault FileTree) :
    Act σ (Except FileFault Unit) := do
  match operation (← files) with
  | .ok changed =>
    setFiles changed
    pure (.ok ())
  | .error fault => pure (.error fault)

/-- Changes the files by an operation that may stop on the way. What it did stays. -/
def workOnFiles (operation : FileTree → FileTree × Except FileFault Unit) :
    Act σ (Except FileFault Unit) := do
  let (changed, result) := operation (← files)
  setFiles changed
  pure result

/-- Acts on the backends' state alone. -/
def onBackend (step : σ → α × σ) : Act σ α := fun world =>
  let (result, backend) := step world.backend
  (result, { world with backend })

end Act

end SealedBuild
