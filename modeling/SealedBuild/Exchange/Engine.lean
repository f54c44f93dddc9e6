import SealedBuild.BuildContext
import SealedBuild.Engine.ScriptedDaemon
import SealedBuild.Exchange.Failure
import SealedBuild.Json.Bytes

/-!
# Engines in JSON

The reading of scripts for daemons, and the JSON form of the requests that they took. Of a
query only the values that say something are shown.
-/

namespace SealedBuild

open Json (Decoder Reading)

namespace LogFrame

/-- Reads a frame: the number of its stream and its bytes. -/
def ofJson? : Decoder (List UInt8)
  | .list [stream, content] => do
    let source ← (Decoder.natural 3 stream).bind fun n => sourceOf? n.toUInt8
    pure (encode ⟨source, ← Decoder.bytes content⟩)
  | _ => none

end LogFrame

namespace EngineReply

/-- Reads the body of a reply: frames of a log, lines of JSON, one JSON value, or bytes. JSON
is sent with the fields of objects in the order of their names. -/
def readBody (json : Json) : Reading (List UInt8) := do
  if let some frames ← json.maybe "frames" (Decoder.listOf LogFrame.ofJson?) then
    return frames.flatten
  if let some lines ← json.maybe "lines" (Decoder.listOf Decoder.whole) then
    return Utf8.encode (String.join (lines.map fun line => line.ordered.compact ++ "\n"))
  if let some value := json.field? "json" then
    return Utf8.encode value.ordered.compact
  json.bytesOr "body"

def read (json : Json) : Reading EngineReply := do
  let status ← json.fieldOr "status" 200 (Decoder.natural 65536)
  pure ⟨status, ← readBody json⟩

/-- Reads the replies of a kind: one, or a list of them. -/
def readAll : Json → Reading (List EngineReply)
  | .list replies => replies.mapM read
  | .null => .ok []
  | reply => (read reply).map ([·])

end EngineReply

/-- Reads the script of a daemon: an object with the replies of every kind. -/
def ScriptedDaemon.read : Json → Reading ScriptedDaemon
  | .object fields => do
    let replies ← fields.mapM fun (field : String × Json) => do
      pure (field.1, ← EngineReply.readAll field.2)
    pure { replies }
  | _ => .error "daemon"

namespace EngineRequest

/-- Values of a query that say nothing. -/
def idleValues : List String :=
  ["", "0", "false", "[]"]

/-- A value of a query as it is shown: an object where it is the text of one, and nothing
where it says nothing. -/
def shownValue? (value : String) : Option Json :=
  match Json.parse value with
  | .ok (.object []) => none
  | .ok (.object fields) => some (.object fields)
  | _ => if idleValues.contains value then none else some (.text value)

/-- The query as it is shown. -/
def shownQuery (query : List (String × String)) : Json :=
  .object <| query.filterMap fun (name, value) =>
    if name == "version" && value == "1" then none
    else (shownValue? value).map fun shown => (name, shown)

/-- The entries of an archive, each with its name and its permissions. -/
def shownEntries (entries : List (String × Nat)) : Json :=
  .list (entries.map fun (name, mode) => .list [.text name, .integer mode])

/-- An archive as the list of its entries. -/
def shownArchive (archive : List UInt8) : Json :=
  Json.ofResult shownEntries (BuildContext.list archive)

def toJson (request : EngineRequest) : Json :=
  let target := request.target
  .object <|
    [("request", .text (request.endpoint.route.1 ++ " " ++ target.path)),
      ("query", shownQuery target.query)] ++
      match request.body with
      | .nothing => []
      | .json value => [("body", value)]
      | .archive bytes => [("entries", shownArchive bytes)]

end EngineRequest

end SealedBuild
