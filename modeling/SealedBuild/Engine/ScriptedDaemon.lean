import SealedBuild.Engine.Connection

/-!
# Scripted daemons

An engine whose replies are given beforehand, by the kind of request. The replies of a kind
are used in turn and the last one is repeated; a kind without replies is granted with an
empty body. Every request is recorded.
-/

namespace SealedBuild

/-- The kind of request that a method and the segments of a path stand for. Every path below
the images that ends as a description does is one of an image. -/
def RequestTarget.kind? : String → List String → Option String
  | "GET", ["_ping"] => some "ping"
  | "POST", ["images", "create"] => some "pull"
  | "GET", "images" :: below => if below.getLast? = some "json" then some "image" else none
  | "POST", ["containers", "create"] => some "create"
  | "POST", ["containers", _, "start"] => some "start"
  | "POST", ["containers", _, "wait"] => some "wait"
  | "GET", ["containers", _, "logs"] => some "logs"
  | "GET", ["containers", _, "json"] => some "inspect"
  | "GET", ["containers", _, "archive"] => some "archive"
  | "DELETE", ["containers", _] => some "remove"
  | "POST", ["build"] => some "build"
  | _, _ => none

/-- A daemon's replies still to come, by kind, and the requests so far. -/
structure ScriptedDaemon where
  replies : List (String × List EngineReply) := []
  requests : List EngineRequest := []
  deriving Inhabited

namespace ScriptedDaemon

/-- The reply to a kind without replies. -/
def usualReply : EngineReply :=
  ⟨200, []⟩

/-- The next reply of a list, and the list after it. -/
def turn : List EngineReply → EngineReply × List EngineReply
  | [] => (usualReply, [])
  | [reply] => (reply, [reply])
  | reply :: rest => (reply, rest)

/-- The next reply of a kind, and the replies after it. -/
def next (kind : String) :
    List (String × List EngineReply) → EngineReply × List (String × List EngineReply)
  | [] => (usualReply, [])
  | (other, replies) :: rest =>
    if other = kind then
      let (reply, replies) := turn replies
      (reply, (other, replies) :: rest)
    else
      let (reply, rest) := next kind rest
      (reply, (other, replies) :: rest)

/-- Takes a request. One of no kind is granted, as is one of a kind without replies. -/
def take (request : EngineRequest) (daemon : ScriptedDaemon) : EngineReply × ScriptedDaemon :=
  let (reply, replies) :=
    match RequestTarget.kind? request.endpoint.route.1 request.target.segments with
    | some kind => next kind daemon.replies
    | none => (usualReply, daemon.replies)
  (reply, ⟨replies, daemon.requests ++ [request]⟩)

/-- The connection to the daemon. -/
def connection : Connection ScriptedDaemon := fun request =>
  Act.onBackend (take request)

/-- The daemon as an engine. -/
def engine : Engine ScriptedDaemon :=
  Engine.ofConnection connection

end ScriptedDaemon

end SealedBuild
