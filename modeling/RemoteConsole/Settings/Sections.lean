/-!
# Settings

Settings come in three sections, each of which may be set or not; a section that
is set gives all its fields a value. `Settings.onto` lays one layer of settings
over another: a section of the upper layer replaces the one below as a whole.
-/

namespace RemoteConsole

/-- How the endpoint listens, who may log in and what it says about itself. -/
structure ServerSection where
  bind : String := "127.0.0.1"
  port : UInt16 := 3000
  /-- The path the endpoint answers at. -/
  path : String := "/terminal"
  name : String := "WC Terminal Server"
  id : String := "urn:md5:35a16e694fd6a3c6967c24447cbf446d"
  /-- The address it gives for itself, unless it follows from `bind` and `port`. -/
  address : Option String := none
  user : String := "admin"
  /-- The digest of the password. -/
  passwordHash : String := "6388eda6646af1dd86ccfde9f1a22daf09ab5dee702e32a32b8be989fc4623db"
  /-- The credential handed out, unless it is the digest. -/
  token : Option String := none
  deriving Repr, DecidableEq

namespace ServerSection

/-- The address and the port to listen on. -/
def socketText (s : ServerSection) : String := s.bind ++ ":" ++ toString s.port.toNat

/-- The address the endpoint gives for itself. -/
def advertised (s : ServerSection) : String := s.address.getD ("http://" ++ s.socketText)

/-- The credential the endpoint hands out. -/
def credential (s : ServerSection) : String := s.token.getD s.passwordHash

end ServerSection

/-- How the console finds the endpoint and how it looks. -/
structure ClientSection where
  serverUrl : String := "http://localhost:3000"
  path : String := "/terminal"
  timeoutSeconds : UInt64 := 30
  /-- Whether there is a peer at all. -/
  remote : Bool := true
  historyLimit : UInt64 := 100
  prompt : String := "$"
  greeting : Option String := none
  deriving Repr, DecidableEq

namespace ClientSection

def trimSlashes (s : String) : String :=
  String.ofList (s.toList.reverse.dropWhile (· == '/')).reverse

/-- Where the endpoint answers. -/
def endpointUrl (c : ClientSection) : String := trimSlashes c.serverUrl ++ c.path

/-- The section with what a command line says about the endpoint. -/
def withFlags (c : ClientSection) (server : Option String) (noRemote : Bool) : ClientSection :=
  { c with
    serverUrl := server.getD c.serverUrl
    remote := c.remote && !noRemote }

end ClientSection

/-- What is logged and where. -/
structure LoggingSection where
  level : String := "info"
  file : Bool := true
  dir : Option String := none
  deriving Repr, DecidableEq

structure Settings where
  server? : Option ServerSection := none
  client? : Option ClientSection := none
  logging? : Option LoggingSection := none
  deriving Repr, DecidableEq

namespace Settings

/-- The first layer over the second. -/
def onto (upper lower : Settings) : Settings where
  server? := upper.server? <|> lower.server?
  client? := upper.client? <|> lower.client?
  logging? := upper.logging? <|> lower.logging?

/-- The server section in effect. -/
def server (s : Settings) : ServerSection := s.server?.getD {}

/-- The client section in effect. -/
def client (s : Settings) : ClientSection := s.client?.getD {}

/-- The logging section in effect. -/
def logging (s : Settings) : LoggingSection := s.logging?.getD {}

theorem onto_assoc (a b c : Settings) : (a.onto b).onto c = a.onto (b.onto c) := by
  obtain ⟨a₁, a₂, a₃⟩ := a
  cases a₁ <;> cases a₂ <;> cases a₃ <;> rfl

@[simp] theorem onto_empty (a : Settings) : a.onto {} = a := by
  obtain ⟨a₁, a₂, a₃⟩ := a
  cases a₁ <;> cases a₂ <;> cases a₃ <;> rfl

@[simp] theorem empty_onto (a : Settings) : ({} : Settings).onto a = a := rfl

end Settings
end RemoteConsole
