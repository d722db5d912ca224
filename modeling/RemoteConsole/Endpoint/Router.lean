import RemoteConsole.Endpoint.Answer

/-!
# What an endpoint serves

An endpoint answers calls that are posted to its path, and says how it is to those
who look at `/health`. The two may be the same path. A known path asked for in
another way is refused, and any other path is not found. The path of an endpoint
has to start with a slash, or there is nothing to serve.
-/

namespace RemoteConsole

/-- A request as it arrives: how it asks, what for, and what it brings along. -/
structure Visit where
  method : String
  /-- A path, perhaps with a query. -/
  target : String
  body : Body
  deriving Repr, DecidableEq

/-- What a visitor gets: a number that says how it went, and a text. -/
structure Page where
  status : Nat
  text : String
  deriving Repr, DecidableEq

/-- The path a visitor asks for, without the query. -/
def Visit.path (v : Visit) : String :=
  String.ofList (v.target.toList.takeWhile fun c => c != '?' && c != '#')

/-- The path of the health page. -/
def healthPath : String := "/health"

namespace EndpointConfig

/-- Whether there is something to serve. -/
def isServable (c : EndpointConfig) : Bool := c.path.toList.head? == some '/'

/-- The page a visitor gets. -/
def serve (c : EndpointConfig) (v : Visit) : Page :=
  let isCall := v.path == c.path
  let isHealth := v.path == healthPath
  if isCall && v.method == "POST" then ⟨200, (c.reply v.body).wire⟩
  else if isHealth && v.method == "GET" then ⟨200, c.health.text⟩
  else if isHealth && v.method == "HEAD" then ⟨200, ""⟩
  else if isCall || isHealth then ⟨405, ""⟩
  else ⟨404, ""⟩

end EndpointConfig
end RemoteConsole
