import RemoteConsole.Command.Executor
import RemoteConsole.Endpoint.Commands
import RemoteConsole.Http.MediaType
import RemoteConsole.Rpc.Peer

/-!
# Answers of an endpoint

`EndpointConfig.answer` is the envelope with which an endpoint answers a request:
a refusal if the request may not be carried out, and otherwise what came of
running its command line. `EndpointConfig.reply` answers a body, which may be no
request at all; even then the answer is an envelope.
-/

namespace RemoteConsole

/-- Why a body holds no request. -/
inductive BodyFault where
  /-- It is not said to be JSON. -/
  | unlabelled
  /-- It is no request. -/
  | unreadable (fault : Json.Fault)
  deriving Repr, DecidableEq

/-- What a caller is told about a body. -/
def BodyFault.message : BodyFault → String
  | unlabelled => "Expected request with `Content-Type: application/json`"
  | unreadable .malformed =>
    "Failed to parse the request body as JSON: " ++ Json.Fault.malformed.message
  | unreadable .mismatched =>
    "Failed to deserialize the JSON body into the target type: " ++ Json.Fault.mismatched.message

/-- A message as it arrives: what it is said to be, and its text. -/
structure Body where
  type? : Option String
  text : String
  deriving Repr, DecidableEq

namespace Body

def json (text : String) : Body := ⟨some "application/json", text⟩

def request (b : Body) : Except BodyFault Request :=
  if (b.type?.bind MediaType.ofText?).any MediaType.isJson then
    (Request.read b.text).mapError .unreadable
  else .error .unlabelled

end Body

namespace EndpointConfig

def executor (c : EndpointConfig) : Executor Responder := .localOnly c.commands

/-- The status and the products of running a line. -/
def run (c : EndpointConfig) (line : String) : Status × Responder :=
  let (status, scene) := c.executor.execute { console := {} } line
  (status, scene.console)

def answer (c : EndpointConfig) (r : Request) : Response :=
  match c.authorize r with
  | .error e => .failure r.id (Int64.ofNat Status.noToken.code) e.message
  | .ok () =>
    let (status, responder) := c.run r.line
    responder.response r.id status

def reply (c : EndpointConfig) (b : Body) : Response :=
  match b.request with
  | .ok r => c.answer r
  | .error e => .failure none RemoteError.parseErrorCode e.message

/-- The endpoint as a peer at hand. -/
def peer (c : EndpointConfig) : Peer := fun _ r => .done (c.reply (.json r.wire)).wire

def health (c : EndpointConfig) : Json :=
  .ofFields [("status", .string "ok"), ("name", .string c.name)]

end EndpointConfig
end RemoteConsole
