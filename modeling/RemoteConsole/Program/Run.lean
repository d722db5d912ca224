import RemoteConsole.Endpoint.Config
import RemoteConsole.Http.Target
import RemoteConsole.Terminal.Session

/-!
# The three programs

`exec` runs one command line and ends with its status, `connect` opens a session at
the terminal, and `serve` listens as an endpoint. Each starts from the settings and
from what its own flags say.
-/

namespace RemoteConsole

/-- The flags of the programs that need a peer. -/
structure ClientFlags where
  server : Option String := none
  noRemote : Bool := false
  deriving Repr, DecidableEq

/-- The client section with what flags say. -/
def ClientFlags.apply (f : ClientFlags) (s : Settings) : ClientSection :=
  s.client.withFlags f.server f.noRemote

def openLink (network : Network) (c : ClientSection) : Except CallError (Option Link) :=
  if c.remote then
    match HttpTarget.connect c.endpointUrl with
    | .ok t => .ok (some (.connect (t.peer network)))
    | .error e => .error e
  else .ok none

/-- One command line to run. -/
structure Exec where
  client : ClientFlags := {}
  /-- Whom to log in first. -/
  user : Option String := none
  /-- The password, unless it is to be asked for. -/
  password : Option String := none
  words : List String
  deriving Repr, DecidableEq

namespace Exec

/-- A word as it is put into a command line: quoted if it holds a blank, with the
quotes it does not hold if possible. -/
def quoteWord (w : String) : String :=
  if w.toList.any Text.isBlank then
    if w.toList.contains '"' then "'" ++ w ++ "'" else "\"" ++ w ++ "\""
  else w

/-- The command line of some words. -/
def joinLine (words : List String) : String := " ".intercalate (words.map quoteWord)

/-- Log in, if a user is given. Gives the status, and `none` if there is nobody to
log in or it went well. -/
def login (x : Executor Terminal) (e : Exec) (typed : Option String) (s : Scene Terminal) :
    Ending (Option Status) × Scene Terminal :=
  match e.user, e.password <|> typed with
  | none, _ => (.done none, s)
  | some _, none => (.failed "unexpected end of file", s)
  | some user, some password =>
    match x.login s user password with
    | (.ok status, s) => (.done (if status.isOk then none else some status), s)
    | (.error _, s) => (.crashed, s)

/-- Run the line on a link, or none. Gives the status and the texts shown. `typed`
is the password that is typed when one is asked for. -/
def runOn (e : Exec) (typed : Option String) (link : Option Link) :
    Ending Status × List String :=
  let x : Executor Terminal := { registry := .table Terminal.commands }
  let s : Scene Terminal := { console := .new 0, link := link.map Link.awaitDiscovery }
  match e.login x typed s with
  | (.done none, s) =>
    let (status, s) := x.execute s (joinLine e.words)
    (.done status, s.console.shown)
  | (.done (some status), s) => (.done status, s.console.shown)
  | (.failed m, s) => (.failed m, s.console.shown)
  | (.crashed, s) => (.crashed, s.console.shown)

def run (network : Network) (settings : Settings) (e : Exec) (typed : Option String) :
    Ending Status × List String :=
  match openLink network (e.client.apply settings) with
  | .ok link => e.runOn typed link
  | .error e => (.failed e.message, [])

end Exec

/-- A session to open. -/
structure Connect where
  client : ClientFlags := {}
  prompt : Option String := none
  deriving Repr, DecidableEq

namespace Connect

/-- What is shown about the peer before anything else, to those who want to know. -/
def notice (c : ClientSection) : String :=
  if c.remote then "Server: " ++ c.endpointUrl else "Local mode (no server)"

def start (network : Network) (settings : Settings) (verbose : Bool) (p : Connect) :
    Except CallError Session :=
  let c := p.client.apply settings
  match openLink network c with
  | .error e => .error e
  | .ok link =>
    let s := Session.start
      { prompt := p.prompt.getD c.prompt, greeting := c.greeting, login := link.isSome }
      { registry := .table Terminal.commands }
      { console := .new c.historyLimit.toNat, link }
    let first := if verbose then [.text (notice c)] else []
    .ok { s with output := first ++ s.output }

end Connect

/-- An endpoint to run. -/
structure Serve where
  bind : Option String := none
  port : Option UInt16 := none
  token : Option String := none
  deriving Repr, DecidableEq

namespace Serve

/-- The server section with what flags say. -/
def apply (p : Serve) (s : Settings) : ServerSection :=
  { s.server with
    bind := p.bind.getD s.server.bind
    port := p.port.getD s.server.port
    token := p.token <|> s.server.token }

/-- What is shown when an address cannot be listened on. -/
def bindFailure (a : SocketAddress) (reason : String) : String :=
  "Failed to bind " ++ a.text ++ ": " ++ reason

/-- Why the endpoint cannot run: its configuration, or what keeps it from listening
at its address. -/
def obstacle? (listen : SocketAddress → Option String) (settings : Settings) (p : Serve) :
    Option String :=
  match EndpointConfig.ofSection (p.apply settings) with
  | .error e => some e.message
  | .ok c => (listen c.bind).map (bindFailure c.bind)

end Serve
end RemoteConsole
