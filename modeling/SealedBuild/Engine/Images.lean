import SealedBuild.BuildContext
import SealedBuild.Engine

/-!
# Image builds

The assembler on a container engine: it packs the build context, has the image built, and
takes the id that the build tells last. A build that tells none is looked up by its tag.
-/

namespace SealedBuild.Engine

variable {σ : Type}

/-- The id that the messages of a build tell last, or the failure that ends them. -/
def builtImage (found : Option String) : EngineStream BuildMessage →
    Except Failure (Option String)
  | [] => .ok found
  | .error fault :: _ => .error (.artifactHandoff ("image build failed: " ++ fault.message))
  | .ok message :: rest =>
    match message.error with
    | some error => .error (.artifactHandoff (Text.trimmed error))
    | none => builtImage (message.imageId.or found) rest

/-- The id of the image that bears a tag. -/
def taggedImage (engine : Engine σ) (tag : String) : Act σ (Except Failure String) := do
  match ← engine.imageId tag with
  | .error fault => pure (.error (.notFound ("image " ++ tag ++ ": " ++ fault.message)))
  | .ok none => pure (.error (.internal ("image " ++ tag ++ " has no id")))
  | .ok (some id) => pure (.ok id)

/-- Makes the image of a request. -/
def assemble (engine : Engine σ) (request : AssemblyRequest) : Act σ (Except Failure String) := do
  match BuildContext.pack (← Act.files) request with
  | .error failure => pure (.error failure)
  | .ok context =>
    match builtImage none (← engine.build ⟨request.tag, request.labels, context⟩) with
    | .error failure => pure (.error failure)
    | .ok (some id) => pure (.ok id)
    | .ok none => engine.taggedImage request.tag

/-- The assembler on an engine. -/
def assembler (engine : Engine σ) : Assembler σ where
  name := name
  assemble := engine.assemble

end SealedBuild.Engine
