import RemoteConsole.Net.Address
import RemoteConsole.Settings.Sections

/-!
# The configuration of an endpoint

`EndpointConfig.ofSection` turns a section of the settings into a configuration;
it fails only if the address and the port do not make a socket address.
-/

namespace RemoteConsole

/-- Everything an endpoint needs to know. -/
structure EndpointConfig where
  bind : SocketAddress
  path : String
  name : String
  id : String
  address : String
  /-- The one user who may log in. -/
  user : String
  /-- The digest of that user's password. -/
  passwordHash : String
  /-- The credential a login gives and protected calls need. -/
  token : String
  deriving Repr, DecidableEq

structure BadBind where
  text : String
  deriving Repr, DecidableEq

/-- What is shown for an address that cannot be read. -/
def BadBind.message (e : BadBind) : String :=
  "Configuration error: invalid bind address '" ++ e.text ++ "': invalid socket address syntax"

namespace EndpointConfig

/-- The configuration of a section, listening on a given address. -/
def ofParts (bind : SocketAddress) (s : ServerSection) : EndpointConfig where
  bind
  path := s.path
  name := s.name
  id := s.id
  address := s.advertised
  user := s.user
  passwordHash := s.passwordHash
  token := s.credential

def ofSection (s : ServerSection) : Except BadBind EndpointConfig :=
  match SocketAddress.ofText? s.socketText with
  | some bind => .ok (ofParts bind s)
  | none => .error ⟨s.socketText⟩

def default : EndpointConfig := ofParts { ip := .v4 127 0 0 1, port := 3000 } {}

end EndpointConfig
end RemoteConsole
