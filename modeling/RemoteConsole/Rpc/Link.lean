import RemoteConsole.Rpc.Peer
import RemoteConsole.Text.Quoted

/-!
# Links to a peer

A link sends command lines to a peer. It numbers its envelopes, keeps the
credential of the open session and knows which commands the peer offers once it
has been described. `call` sends a line under the session's credential, `callAs`
under a given one or none, and `login` always without. A session opens when a
login has a truthy result; that result is the credential until the next
successful login or `logout`.

A link made by `connect` owes a description, which `finishDiscovery` settles: it
asks the peer and, if that fails in any way and nothing is known yet, takes the
peer to offer nothing.
-/

namespace RemoteConsole

/-- A link to a peer. `token` is the credential of the open session, and `sent`
are all envelopes the peer got, oldest first. -/
structure Link where
  peer : Peer
  sent : List Request := []
  nextId : UInt64 := 0
  token : Option String := none
  /-- The commands the peer offers, once that is known. -/
  procedures? : Option (List String) := none
  /-- A description is still owed. -/
  discovering : Bool := false

inductive SessionState where
  | unauthenticated
  | authenticated
  deriving Repr, DecidableEq

/-- What the peer made of a name and a password. -/
inductive LoginOutcome where
  | authenticated
  | rejected
  deriving Repr, DecidableEq

namespace Link

/-- A link with nothing owed. -/
def new (peer : Peer) : Link := { peer }

/-- A link that owes a description. -/
def connect (peer : Peer) : Link := { peer, discovering := true }

def state (l : Link) : SessionState :=
  if l.token.isSome then .authenticated else .unauthenticated

def procedures (l : Link) : List String := l.procedures?.getD []

def isDiscovered (l : Link) : Bool := l.procedures?.isSome

/-- Whether a description is owed and nothing is known yet. -/
def isDiscovering (l : Link) : Bool := l.discovering && !l.isDiscovered

/-- Whether the peer is known to offer a command. -/
def isRemote (l : Link) (name : String) : Bool := l.procedures.contains name

/-- Use up a number. -/
def drawId (l : Link) : UInt64 × Link := (l.nextId, { l with nextId := l.nextId + 1 })

/-- The request of a command line, under a credential or none. It uses up a
number also when the line is blank. -/
def buildRequest (l : Link) (line : String) (credential : Option String) :
    Except CallError Request × Link :=
  let (id, l) := l.drawId
  match Request.ofLine? id line with
  | some r => (.ok (r.withToken? credential), l)
  | none => (.error .emptyCall, l)

/-- Hand an envelope to the peer as it is. -/
def transmit (l : Link) (r : Request) : Attempt String × Link :=
  (l.peer l.sent r, { l with sent := l.sent ++ [r] })

def exchange (l : Link) (r : Request) : Attempt Json × Link :=
  let (answer, l) := l.transmit r
  (answer.bind fun text => .ofExcept (decodeReply text), l)

/-- Send a command line under the given credential or none. -/
def callAs (l : Link) (line : String) (credential : Option String) : Attempt Json × Link :=
  match l.buildRequest line credential with
  | (.ok r, l) => l.exchange r
  | (.error e, l) => (.failed e, l)

/-- Send a command line under the session's credential. -/
def call (l : Link) (line : String) : Attempt Json × Link := l.callAs line l.token

/-- Ask the peer what it offers and take note of the answer. -/
def describe (l : Link) : Attempt (List String) × Link :=
  let (answer, l) := l.call describeMethod
  match answer.bind fun v => .ofExcept (Description.ofResult v) with
  | .done d => (.done d.procedures, { l with procedures? := some d.procedures })
  | .failed e => (.failed e, l)
  | .crashed c => (.crashed c, l)

/-- Settle the description that is owed. -/
def finishDiscovery (l : Link) : Link :=
  let l := l.describe.2
  { l with procedures? := some l.procedures, discovering := false }

/-- Wait until it is known what the peer offers, unless no description is owed. -/
def awaitDiscovery (l : Link) : Link :=
  if l.isDiscovering then l.finishDiscovery else l

/-- The credential that a result of a login stands for, if it is truthy. -/
def credential? (result : Json) : Option String :=
  if result.isTruthy then some result.shown else none

/-- Send a name and a password, and open a session if the peer accepts them. -/
def login (l : Link) (user password : String) : Attempt LoginOutcome × Link :=
  let (id, l) := l.drawId
  let (answer, l) := l.exchange { id, method := loginMethod, params := .bare [user, password] }
  match answer with
  | .done v =>
    match credential? v with
    | some token => (.done .authenticated, { l with token := some token })
    | none => (.done .rejected, l)
  | .failed e => (.failed e, l)
  | .crashed c => (.crashed c, l)

/-- Close the session. Gives whether there was one. -/
def logout (l : Link) : Bool × Link := (l.token.isSome, { l with token := none })

/-- What a log says about a link. -/
def summary (l : Link) : String :=
  let known := match l.procedures? with
    | none => "None"
    | some names => "Some([" ++ ", ".intercalate (names.map Text.quoted) ++ "])"
  "RpcDelegate \x7b request_id: " ++ toString l.nextId.toNat ++ ", procedures: " ++ known ++ ", .. \x7d"

/-- What a log says about a credential. It does not show it. -/
def credentialSummary (_ : String) : String :=
  "CredentialedTransport \x7b token: \"<redacted>\", .. \x7d"

end Link
end RemoteConsole
