import SealedBuild.Engine.LogFrames
import SealedBuild.Engine.Messages
import SealedBuild.Engine.Target
import SealedBuild.Json.Decoder

/-!
# Connections to an engine

The requests and replies that an engine's interface consists of, and the engine that a
connection reaches. A reply whose status is neither a success nor `304` refuses the request.
-/

namespace SealedBuild

/-- What a request is for. -/
inductive Endpoint where
  | ping
  | pull
  | image (tag : String)
  | create
  | start (container : String)
  | wait (container : String)
  | logs (container : String)
  | inspect (container : String)
  | archive (container : String)
  | remove (container : String)
  | build
  deriving DecidableEq, Inhabited

/-- The method and the path of an endpoint. -/
def Endpoint.route : Endpoint → String × String
  | ping => ("GET", "/_ping")
  | pull => ("POST", "/images/create")
  | image tag => ("GET", "/images/" ++ tag ++ "/json")
  | create => ("POST", "/containers/create")
  | start container => ("POST", "/containers/" ++ container ++ "/start")
  | wait container => ("POST", "/containers/" ++ container ++ "/wait")
  | logs container => ("GET", "/containers/" ++ container ++ "/logs")
  | inspect container => ("GET", "/containers/" ++ container ++ "/json")
  | archive container => ("GET", "/containers/" ++ container ++ "/archive")
  | remove container => ("DELETE", "/containers/" ++ container)
  | build => ("POST", "/build")

/-- What a request carries. -/
inductive RequestBody where
  | nothing
  | json (value : Json)
  | archive (bytes : List UInt8)
  deriving Inhabited

/-- A request to an engine. -/
structure EngineRequest where
  endpoint : Endpoint
  query : List (String × String) := []
  body : RequestBody := .nothing
  deriving Inhabited

/-- The version of the interface, with which every path starts. -/
def Endpoint.version : String := "v1.47"

/-- Where a request goes below the version. A query of its own replaces one that its path
holds. -/
def EngineRequest.target (request : EngineRequest) : RequestTarget :=
  let target := (RequestTarget.ofText
    ("/" ++ Endpoint.version ++ request.endpoint.route.2)).below Endpoint.version
  if request.query.isEmpty then target else { target with query := request.query }

/-- A reply of an engine. -/
structure EngineReply where
  status : Nat
  body : List UInt8
  deriving Inhabited

/-- What sends a request and gives the reply. -/
abbrev Connection (σ : Type) := EngineRequest → Act σ EngineReply

namespace EngineReply

/-- Whether a reply grants its request. -/
def granted (reply : EngineReply) : Bool :=
  (200 ≤ reply.status && reply.status < 300) || reply.status == 304

/-- What a refusing reply says: the message in its body, or else its body. Bytes that are no
text are replaced before the body is read. -/
def refusal (reply : EngineReply) : EngineFault :=
  let said := Utf8.decodeLossy reply.body
  if said.isEmpty then .refused reply.status ""
  else
    match Engine.Message.refusal.read (Utf8.encode said) with
    | .ok detail => .refused reply.status detail
    | .error fault =>
      if fault.reason.kind = .ended then .unreadable fault.message
      else .refused reply.status said

/-- Whether the status of a reply says that it has no body. -/
def isBodiless (reply : EngineReply) : Bool :=
  reply.status == 204 || reply.status == 304

/-- The body of a reply, unless it refuses the request. -/
def accepted (reply : EngineReply) : Except EngineFault (List UInt8) :=
  if reply.granted then .ok (if reply.isBodiless then [] else reply.body)
  else .error reply.refusal

/-- Whether the request was granted, whatever the body. -/
def unit (reply : EngineReply) : Except EngineFault Unit :=
  reply.accepted.map fun _ => ()

/-- The message in the body of a reply. -/
def value (reply : EngineReply) (message : Engine.Message α) : Except EngineFault α :=
  reply.accepted.bind message.readWhole

/-- The items in the body of a reply. -/
def stream (reply : EngineReply) (items : List UInt8 → EngineStream α) : EngineStream α :=
  match reply.accepted with
  | .ok body => items body
  | .error fault => [.error fault]

end EngineReply

namespace Engine

variable {σ : Type}

/-- The body of a request for a container. -/
def containerBody (config : ContainerConfig) : Json :=
  .object <|
    [("Image", .text config.image)] ++
    (if config.command.isEmpty then [] else [("Cmd", Json.texts config.command)]) ++
    [("Env", Json.texts config.env)] ++
    config.workingDir.toList.map (fun dir => ("WorkingDir", .text dir)) ++
    [("AttachStdout", .bool true), ("AttachStderr", .bool true), ("Tty", .bool false),
      ("HostConfig", .object
        (config.binds.toList.map fun binds => ("Binds", Json.texts binds)))]

/-- The query of a request for an image build. -/
def buildQuery (build : ImageBuild) : List (String × String) :=
  [("dockerfile", AssemblyRequest.containerfileName), ("t", build.tag), ("pull", "true"),
    ("rm", "true"), ("forcerm", "true"), ("labels", (Json.ofVarMap build.labels).compact)]

/-- A message of an image build that tells of an error breaks the stream. -/
def withoutErrors : EngineStream BuildMessage → EngineStream BuildMessage
  | [] => []
  | .error fault :: _ => [.error fault]
  | .ok message :: rest =>
    if message.error.isSome then [.error .failedBuild] else .ok message :: withoutErrors rest

/-- Exit codes above zero come as faults. -/
def endings (codes : EngineStream Int) : EngineStream Int :=
  codes.map fun item => item.bind fun code =>
    if 0 < code then .error (.exited code) else .ok code

/-- The engine at the end of a connection. -/
def ofConnection (send : Connection σ) : Engine σ where
  ping := do
    pure (← send { endpoint := .ping }).unit
  pull image := do
    let _ ← send { endpoint := .pull, query := [("fromImage", image)] }
  create container config := do
    let reply ← send {
      endpoint := .create
      query := [("name", container)]
      body := .json (containerBody config) }
    pure (reply.value .createdId)
  start container := do
    pure (← send { endpoint := .start container }).unit
  logs container := do
    let reply ← send {
      endpoint := .logs container
      query := [("follow", "true"), ("stdout", "true"), ("stderr", "true")] }
    pure (reply.stream fun body => (LogFrame.decode body).map .ok)
  containerState container := do
    pure ((← send { endpoint := .inspect container }).value .inspectedState)
  wait container := do
    let reply ← send { endpoint := .wait container, query := [("condition", "not-running")] }
    pure (endings (reply.stream Message.waitCode.stream))
  archive container path := do
    let reply ← send { endpoint := .archive container, query := [("path", path)] }
    pure (reply.stream fun body => [.ok body])
  remove container := do
    pure (← send { endpoint := .remove container, query := [("force", "true")] }).unit
  build build := do
    let reply ← send {
      endpoint := .build
      query := buildQuery build
      body := .archive build.context }
    pure (withoutErrors (reply.stream Message.build.stream))
  imageId tag := do
    pure ((← send { endpoint := .image tag }).value .inspectedImage)

end Engine

end SealedBuild
