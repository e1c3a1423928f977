import TestForge.Json.Printer
import TestForge.Json.Reader
import TestForge.Operation.Call
import TestForge.ToolServer.Catalog

/-!
# Tool sessions

A session answers requests one by one. A call of a tool decodes its arguments before the operation
sees them, so that it answers what the operation itself would.
-/

namespace TestForge.ToolServer

variable {σ : Type}

/-! ## Calls -/

/-- What a call of a tool comes to. -/
structure ToolResult where
  text : String
  isError : Bool
  deriving DecidableEq

inductive RequestError where
  | undecodable (e : Json.DecodeError)
  | noSuchTool
  | noSuchMethod (name : String)
  deriving DecidableEq

def RequestError.code : RequestError → Int
  | .undecodable _ | .noSuchTool => -32602
  | .noSuchMethod _ => -32601

def RequestError.message : RequestError → String
  | .undecodable e => "failed to deserialize parameters: " ++ e.message
  | .noSuchTool => "tool not found"
  | .noSuchMethod name => name

/-- A report or a rejection as JSON. -/
def resultJson : Except Rejection Report → Json
  | .ok report => report.toJson
  | .error e => .obj [("success", .bool false), ("error", .str e.message)]

/-- A rejected call counts as an error, and so does a report that is not one of success. -/
def isFailure : Except Rejection Report → Bool
  | .ok report => !report.success
  | .error _ => true

def ToolResult.of (result : Except Rejection Report) : ToolResult :=
  ⟨(resultJson result).sorted.pretty, isFailure result⟩

/-- Calls the tool of a name: its arguments are decoded, written again and handed on. -/
def callTool (d : Dispatcher σ) (name : String) (arguments : Json) (w : World σ) :
    Except RequestError ToolResult × World σ :=
  match Operation.ofName? name with
  | none => (.error .noSuchTool, w)
  | some op =>
    match Dispatcher.Request.decode op arguments with
    | .error e => (.error (.undecodable e), w)
    | .ok request =>
      match d.call name request.toJson.sorted w with
      | (result, w) => (.ok (.of result), w)

def ToolResult.toJson (r : ToolResult) : Json :=
  .obj [("content", .arr [.obj [("type", .str "text"), ("text", .str r.text)]]),
    ("isError", .bool r.isError)]

/-! ## Requests -/

def instructions : String :=
  "Generates Kotlin service tests and verifies them with the project's Gradle build."

def serverJson : Json :=
  .obj [("name", .str "testsmith"), ("title", .str "testsmith"), ("version", .str "0.1.0")]

def usualProtocol : String := "2024-11-05"

/-- What a session says when it begins. -/
def greeting (params : Json) : Json :=
  let protocol := ((params.get? "protocolVersion").bind Json.str?).getD usualProtocol
  .obj [("protocolVersion", .str protocol), ("capabilities", .obj [("tools", .obj [])]),
    ("serverInfo", serverJson), ("instructions", .str instructions)]

/-- The arguments of a call; none count as an empty object. -/
def argumentsOf (params : Json) : Json :=
  match params.get? "arguments" with
  | none | some .null => .obj []
  | some j => j

def answer (d : Dispatcher σ) (method : String) (params : Json) (w : World σ) :
    Except RequestError Json × World σ :=
  match method with
  | "initialize" => (.ok (greeting params), w)
  | "ping" => (.ok (.obj []), w)
  | "tools/list" => (.ok catalog, w)
  | "tools/call" =>
    let name := ((params.get? "name").bind Json.str?).getD ""
    match callTool d name (argumentsOf params) w with
    | (.ok result, w) => (.ok result.toJson, w)
    | (.error e, w) => (.error e, w)
  | _ => (.error (.noSuchMethod method), w)

/-- The response to a request of a number or name. -/
def response (id : Json) : Except RequestError Json → Json
  | .ok result => .obj [("jsonrpc", .str "2.0"), ("id", id), ("result", result)]
  | .error e =>
    .obj [("jsonrpc", .str "2.0"), ("id", id),
      ("error", .obj [("code", .num (.int e.code)), ("message", .str e.message)])]

/-- Takes a message: a request has an answer, a notification has none. -/
def receive (d : Dispatcher σ) (message : Json) (w : World σ) : Option Json × World σ :=
  match message.get? "id", (message.get? "method").bind Json.str? with
  | some id, some method =>
    match answer d method ((message.get? "params").getD (.obj [])) w with
    | (result, w) => (some (response id result), w)
  | _, _ => (none, w)

/-! ## Whole sessions -/

/-- The answers to a list of messages, each on a line. -/
def receiveAll (d : Dispatcher σ) : List Json → World σ → List String × World σ
  | [], w => ([], w)
  | message :: rest, w =>
    match receive d message w with
    | (reply, w) =>
      match receiveAll d rest w with
      | (replies, w) => ((reply.map Json.compact).toList ++ replies, w)

/-- The messages of a text, one on each line; other lines are passed over. -/
def messagesOf (input : String) : List Json :=
  (input.splitOn "\n").filterMap fun line => (Json.read line).toOption

end TestForge.ToolServer
