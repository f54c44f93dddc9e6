import SealedBuild.Inspection
import SealedBuild.Job
import SealedBuild.RuntimeImage
import SealedBuild.World

/-!
# Backends

The three services that a run depends on. An executor runs the builder job in a container
and gives files out of it; an inspector reads the headers of an executable; an assembler
makes an image from a request. Every service may fail, and acts on the world it is called
in.
-/

namespace SealedBuild

/-- Runs jobs in containers. -/
structure Executor (σ : Type) where
  name : String
  /-- Whether the executor can run jobs at present. -/
  canExecute : JobSpec → Act σ Bool
  spawn : JobSpec → Act σ (Except Failure JobHandle)
  /-- The log lines of a job, up to its end. A caller gives up a log that is still open two
  seconds after the job's end. There is no time here, so that limit is not modelled: the lines
  are those that arrived within it. -/
  logs : JobHandle → Act σ (Except Failure (List LogLine))
  /-- Waits for a job to end. -/
  wait : JobHandle → Act σ (Except Failure JobResult)
  /-- Copies one regular file out of an ended job, from a path in the container to one on
  the host, and gives its size. -/
  copyOut : JobHandle → String → String → Act σ (Except Failure Nat)
  /-- Removes a job and its files. -/
  remove : JobHandle → Act σ (Except Failure Unit)

/-- Reads the headers of the executable at a path. -/
structure Inspector (σ : Type) where
  inspect : String → Act σ (Except Failure Inspection)

/-- Makes images. -/
structure Assembler (σ : Type) where
  name : String
  /-- Makes an image and gives its id. -/
  assemble : AssemblyRequest → Act σ (Except Failure String)

end SealedBuild
