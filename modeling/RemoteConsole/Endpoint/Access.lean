import RemoteConsole.Digest.Sha256
import RemoteConsole.Endpoint.Config
import RemoteConsole.Rpc.Description

/-!
# Who may call what

Three methods may be called by anyone. For any other a request must carry the
credential of the endpoint. A login is good if the name is that of the one user
and the digest of the password is the one that is kept.
-/

namespace RemoteConsole

/-- The methods that need no credential. -/
def openMethods : List String := [helpMethod, loginMethod, describeMethod]

def isOpen (method : String) : Bool := openMethods.contains method

/-- Why a request is turned away. -/
inductive AccessFault where
  | missing
  | invalid
  deriving Repr, DecidableEq

/-- What a caller is told. It does not tell the two faults apart. -/
def AccessFault.message (_ : AccessFault) : String := "Invalid token"

namespace EndpointConfig

/-- Whether a request may be carried out. -/
def authorize (c : EndpointConfig) (r : Request) : Except AccessFault Unit :=
  if isOpen r.method then .ok ()
  else
    match r.params.token? with
    | none => .error .missing
    | some t => if t = c.token then .ok () else .error .invalid

/-- Whether a name and a password are those of the user. -/
def verifyLogin (c : EndpointConfig) (user password : String) : Bool :=
  user == c.user && Sha256.hexDigest password == c.passwordHash

end EndpointConfig
end RemoteConsole
