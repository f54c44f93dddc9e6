import SealedBuild.Document.Reader
import SealedBuild.FileTree
import SealedBuild.Pipeline
import SealedBuild.Text.Escaped
import SealedBuild.Variables

/-!
# Pipeline files

From a document to the definition of a pipeline. A document holds a `pipeline` node, one
`builder` block and one `runtime` block; nodes of other names mean nothing. Commands and the
values of variables keep references without a value, a tag with one is refused, and the
definition that results has to pass its own check.
-/

namespace SealedBuild

/-- Why a pipeline file gives no definition. -/
inductive PipelineFileFault where
  /-- The text is no document. -/
  | noDocument
  | missing (what : String)
  | invalidValue (field reason : String)
  | duplicate (what : String)
  /-- The definition does not pass its check. -/
  | invalid (fault : DefinitionFault)
  /-- The file cannot be read. -/
  | unreadable (fault : FileFault)
  deriving DecidableEq, Inhabited

namespace PipelineFileFault

/-- The wording of every fault of syntax. -/
def syntaxFaultText : String :=
  "Failed to parse KDL document"

/-- The wording of the fault beneath, where there is one. -/
def cause? : PipelineFileFault → Option String
  | noDocument => some syntaxFaultText
  | invalid fault => some fault.toFailure.message
  | unreadable fault => some fault.message
  | _ => none

/-- The wording of a fault. -/
def message : PipelineFileFault → String
  | noDocument => "KDL parse error: " ++ syntaxFaultText
  | missing what => "missing required field: " ++ what
  | invalidValue field reason => "invalid value for " ++ field ++ ": " ++ reason
  | duplicate what => "duplicate definition: " ++ what
  | invalid fault => "invalid pipeline: " ++ fault.toFailure.message
  | unreadable fault => "IO error: " ++ fault.message

end PipelineFileFault

namespace PipelineFile

/-- A result of reading a part of a pipeline file. -/
abbrev Result (α : Type) := Except PipelineFileFault α

/-- A value that has to be there. -/
def require (what : String) : Option α → Result α
  | some value => .ok value
  | none => .error (.missing what)

/-! ## The builder block -/

/-- The toolchain of a node: an image with a version, or both in one text around its last
colon. What follows that colon is no version if it holds a slash. -/
def toolchain (node : Node) : Result Toolchain := do
  let image ← require "toolchain image" node.firstText?
  match node.textProperty? "version" with
  | some version => pure ⟨image, version⟩
  | none =>
    match Text.cutLast ':' image.toList with
    | some (repository, version) =>
      if version.contains '/' then throw (.missing ("version for toolchain '" ++ image ++ "'"))
      else pure ⟨String.ofList repository, String.ofList version⟩
    | none => throw (.missing ("version for toolchain '" ++ image ++ "'"))

/-- The stems of shared objects that a `crypto` node declares: its properties of that name,
or else the texts of the first child of that name. -/
def sharedObjects (node : Node) : List String :=
  match (node.properties "shared-objects").filterMap Value.text? with
  | [] =>
    ((node.children?.getD []).find? fun child => child.name = "shared-objects").elim []
      Node.texts
  | stems => stems

/-- The linkage that a `crypto` node declares, and whether it is static. -/
def crypto (node : Node) : Result (CryptoLinkage × Bool) := do
  let library ← require "crypto library" node.firstText?
  let stems := sharedObjects node
  let linkage : CryptoLinkage := {
    library
    libDir := node.textProperty? "lib-dir"
    includeDir := node.textProperty? "include-dir"
    sharedObjects := if stems.isEmpty then CryptoLinkage.defaultSharedObjects library else stems }
  pure (linkage, (node.truthProperty? "static").getD true)

/-- The variables of an `env` block. -/
def bindings (node : Node) : List (String × String) :=
  (node.children?.getD []).filterMap fun child =>
    child.firstText?.map fun value => (child.name, value)

/-- What has been read of a builder block. -/
structure BuilderDraft where
  toolchain : Option Toolchain := none
  packageManager : PackageManager := .apt
  packages : List String := []
  crypto : Option CryptoLinkage := none
  flags : BuildFlags := {}
  source : Option SourceMount := none
  env : VarMap := .empty
  commands : List String := []
  artifactPath : Option String := none

/-- The draft with what one more node of the block declares. -/
def BuilderDraft.add (baseDir : String) (draft : BuilderDraft) (node : Node) :
    Result BuilderDraft :=
  match node.name with
  | "toolchain" => do
    let toolchain ← PipelineFile.toolchain node
    pure { draft with toolchain := some toolchain }
  | "package-manager" =>
    let name := node.firstText?.getD ""
    match PackageManager.ofName? name with
    | some packageManager => .ok { draft with packageManager }
    | none => .error (.invalidValue "package-manager" (PackageManager.unknownText name))
  | "packages" => .ok { draft with packages := draft.packages ++ node.texts }
  | "crypto" => do
    let (linkage, staticCrypto) ← PipelineFile.crypto node
    pure { draft with crypto := some linkage, flags := { draft.flags with staticCrypto } }
  | "strip" =>
    match node.firstTruth? with
    | some strip => .ok { draft with flags := { draft.flags with strip } }
    | none => .error (.invalidValue "strip" "expected #true or #false")
  | "source" => do
    let dir ← require "source path" node.firstText?
    pure { draft with
      source := some ⟨HostPath.join baseDir dir, SourceMount.defaultPath⟩ }
  | "env" => .ok { draft with env := draft.env.insertAll (bindings node) }
  | "run" => .ok { draft with commands := draft.commands ++ node.firstText?.toList }
  | "artifact" => .ok { draft with artifactPath := node.firstText? }
  | _ => .ok draft

/-- The builder stage that a complete draft declares. -/
def BuilderDraft.finish (draft : BuilderDraft) : Result BuilderSpec := do
  let toolchain ← require "builder toolchain" draft.toolchain
  let crypto ← require "builder crypto" draft.crypto
  let artifactPath ← require "builder artifact" draft.artifactPath
  pure {
    environment := {
      toolchain
      packageManager := draft.packageManager
      packages := NameSet.ofList draft.packages
      crypto
      flags := draft.flags
      extraEnv := draft.env }
    source := draft.source
    commands := draft.commands
    artifactPath }

/-- The builder stage of a builder block, its references as they are written. -/
def builder (baseDir : String) (node : Node) : Result BuilderSpec := do
  let children ← require "builder body" node.children?
  let draft ← children.foldlM (BuilderDraft.add baseDir) {}
  draft.finish

/-- The builder stage with the references in commands and in the values of variables
replaced. -/
def interpolated (vars : Variables) (spec : BuilderSpec) : BuilderSpec :=
  { spec with
    commands := spec.commands.map vars.interpolate
    environment := { spec.environment with
      extraEnv := spec.environment.extraEnv.mapValues vars.interpolate } }

/-! ## The runtime block -/

/-- A tag with all its references replaced. -/
def tag (vars : Variables) (written : String) : Result String :=
  (vars.interpolateStrict written).mapError fun missing =>
    let references := missing.map fun name => String.ofList (Piece.written name.toList)
    .invalidValue "tag"
      ("'" ++ written ++ "' needs " ++ String.intercalate ", " references ++
        " which cannot be resolved here")

/-- What has been read of a runtime block. -/
structure RuntimeDraft where
  baseImage : Option String := none
  destination : Option String := none
  entrypoint : Option (List String) := none
  tag : Option String := none

/-- The draft with what one more node of the block declares. -/
def RuntimeDraft.add (vars : Variables) (draft : RuntimeDraft) (node : Node) :
    Result RuntimeDraft :=
  match node.name with
  | "image" => .ok { draft with baseImage := node.firstText? }
  | "destination" => .ok { draft with destination := node.firstText? }
  | "entrypoint" => .ok { draft with entrypoint := some node.texts }
  | "tag" =>
    match node.firstText? with
    | some written => do
      let tag ← PipelineFile.tag vars written
      pure { draft with tag := some tag }
    | none => .ok draft
  | _ => .ok draft

/-- The runtime stage that a complete draft declares. An entry point may only restate the
command that follows from the destination. -/
def RuntimeDraft.finish (draft : RuntimeDraft) : Result RuntimeSpec := do
  let baseImage ← require "runtime image" draft.baseImage
  let destination ← require "runtime destination" draft.destination
  let spec : RuntimeSpec := ⟨baseImage, destination, draft.tag⟩
  match draft.entrypoint with
  | some entrypoint =>
    if entrypoint = spec.entryCommand then pure spec
    else
      throw (.invalidValue "entrypoint"
        ("must be exactly [\"" ++ destination ++ "\"] with no arguments, got " ++
          Text.escapedList entrypoint))
  | none => pure spec

/-- The runtime stage of a runtime block. -/
def runtime (vars : Variables) (node : Node) : Result RuntimeSpec := do
  let children ← require "runtime body" node.children?
  let draft ← children.foldlM (RuntimeDraft.add vars) {}
  draft.finish

/-! ## The whole file -/

/-- What has been read of the nodes at the top. -/
structure FileDraft where
  name : String := ""
  builder : Option Node := none
  runtime : Option Node := none

/-- The draft with what one more node at the top declares. -/
def FileDraft.add (draft : FileDraft) (node : Node) : Result FileDraft :=
  match node.name with
  | "pipeline" => do
    let name ← require "pipeline name" node.firstText?
    pure { draft with name }
  | "builder" =>
    if draft.builder.isSome then .error (.duplicate "builder")
    else .ok { draft with builder := some node }
  | "runtime" =>
    if draft.runtime.isSome then .error (.duplicate "runtime")
    else .ok { draft with runtime := some node }
  | _ => .ok draft

/-- The definition that the nodes of a document declare. The pipeline's name and its
toolchain take the place of whatever the variables hold for them. -/
def ofDocument (document : List Node) (baseDir : String) (vars : Variables) :
    Result PipelineDefinition := do
  let draft ← document.foldlM FileDraft.add {}
  if draft.name.isEmpty then throw (.missing "pipeline name")
  let builderNode ← require "builder" draft.builder
  let runtimeNode ← require "runtime" draft.runtime
  let raw ← builder baseDir builderNode
  let vars := { vars with
    pipelineName := draft.name
    toolchain := raw.environment.toolchain }
  let runtime ← runtime vars runtimeNode
  let definition : PipelineDefinition := ⟨draft.name, interpolated vars raw, runtime⟩
  definition.check.mapError .invalid
  pure definition

/-- The definition that a text declares; relative source paths start at `baseDir`. -/
def ofText (text baseDir : String) (vars : Variables) : Result PipelineDefinition :=
  match Document.parse? text with
  | some document => ofDocument document baseDir vars
  | none => .error .noDocument

/-- The definition in the file at a path; relative source paths start at its directory. -/
def load (files : FileTree) (path : String) (vars : Variables) : Result PipelineDefinition := do
  let content ← (files.read path).mapError .unreadable
  match Utf8.decode? content with
  | some text => ofText text (HostPath.directoryOf path) vars
  | none => throw (.unreadable .notText)

end PipelineFile

end SealedBuild
