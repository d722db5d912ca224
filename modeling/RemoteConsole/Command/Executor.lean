import RemoteConsole.Command.Route

/-!
# Running a line

`Executor.execute` runs one command line along its route and gives its status. A
name that is not in the table is forwarded to the peer, as the whole line, if the
peer offers it. Whatever goes wrong is shown on the console and becomes a status.
-/

namespace RemoteConsole

/-- A registry, and whether lines and logins may go to the scene's link. -/
structure Executor (κ : Type) where
  registry : Registry κ
  forwards : Bool := true

namespace Executor

variable {κ : Type}

/-- An executor that never uses the link. -/
def localOnly (t : Table κ) : Executor κ := { registry := .table t, forwards := false }

def table? (x : Executor κ) : Option (Table κ) :=
  match x.registry with
  | .table t => some t
  | .override _ => none

/-- The link this executor may use. One handler for every line uses none. -/
def link? (x : Executor κ) (s : Scene κ) : Option Link :=
  match x.registry with
  | .table _ => if x.forwards then s.link else none
  | .override _ => none

/-- The commands the peer is known to offer to this executor. -/
def remoteProcedures (x : Executor κ) (s : Scene κ) : List String :=
  ((x.link? s).map Link.procedures).getD []

/-- The state of the session, if there is a link. -/
def sessionState (x : Executor κ) (s : Scene κ) : Option SessionState :=
  (x.link? s).map Link.state

variable [Console κ]

/-- The status of what a handler gave; a failure or crash is shown first, with
`label` in front of it. -/
def settle (label : String) : HandlerOutcome × Scene κ → Status × Scene κ
  | (.done status, s) => (status.getD .ok, s)
  | (.failed e, s) => (.commandError, s.echo (label ++ e.message))
  | (.crashed c, s) => (.commandError, s.echo (label ++ c.message))

/-- Show that a name has no command. -/
def miss (name : String) (s : Scene κ) : Status × Scene κ :=
  (.notFound, s.echo (name ++ ": no such command"))

/-- Send a line to the peer, if the peer offers the command `name`. -/
def forward (name line : String) (l : Link) (s : Scene κ) : Status × Scene κ :=
  let l := l.awaitDiscovery
  if l.isRemote name then
    let (answer, l) := l.call line
    let s := { s with link := some l }
    match answer with
    | .done v => (.ok, s.echo v.shown)
    | .failed e => (.commandError, s.echo e.message)
    | .crashed c => (.commandError, s.echo (name ++ ": " ++ c.message))
  else miss name { s with link := some l }

/-- Run a line with a table of commands. -/
def dispatch (t : Table κ) (forwards : Bool) (s : Scene κ) (line : String) : Status × Scene κ :=
  match t.route line with
  | .blank => (.ok, s)
  | .run name c switches args => settle (name ++ ": ") (c.handler args switches s)
  | .stop text status => (status, s.echo text)
  | .unknown name =>
    match if forwards then s.link else none with
    | some l => forward name line l s
    | none => miss name s

def execute (x : Executor κ) (s : Scene κ) (line : String) : Status × Scene κ :=
  match x.registry with
  | .override handler => settle "" (handler line s)
  | .table t => dispatch t x.forwards s line

/-- Log in to the peer. A peer that crashes takes the login down with it. -/
def login (x : Executor κ) (s : Scene κ) (user password : String) :
    Except Crash Status × Scene κ :=
  match x.link? s with
  | none => (.ok .notFound, s.echo "login: no remote server")
  | some l =>
    let (answer, l) := l.login user password
    let s := { s with link := some l }
    match answer with
    | .done .authenticated => (.ok .ok, s)
    | .done .rejected => (.ok .noToken, s.echo "Login failed")
    | .failed e => (.ok .commandError, s.echo e.message)
    | .crashed c => (.error c, s)

/-- Log out. The console is told if that ends a session. -/
def logout (x : Executor κ) (s : Scene κ) : Status × Scene κ :=
  match x.link? s with
  | none => (.ok, s)
  | some l =>
    let (ended, l) := l.logout
    let s := { s with link := some l }
    (.ok, if ended then { s with console := Console.sessionEnded s.console } else s)

/-- Wait until it is known what the peer offers. Gives what it offers, if there is
a link. -/
def awaitDiscovery (x : Executor κ) (s : Scene κ) : Option (List String) × Scene κ :=
  match x.link? s with
  | none => (none, s)
  | some l => (some l.awaitDiscovery.procedures, { s with link := some l.awaitDiscovery })

end Executor
end RemoteConsole
