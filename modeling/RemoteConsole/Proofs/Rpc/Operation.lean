import RemoteConsole.Rpc.Link

/-!
# Links in use

An operation is one use of a link. `Link.after` is the link behind it, and a link is
reached if it is what some operations, in any order and with any outcome, make of a new
link to the peer. The lemmas say what each operation sends and what it leaves as it was: a
call of a line that is not blank is one exchange (`callAs_of_ofLine?`), and no operation
changes the peer (`peer_after`).
-/

namespace RemoteConsole

/-- One use of a link. -/
inductive Operation where
  | call (line : String)
  | callAs (line : String) (credential : Option String)
  | build (line : String) (credential : Option String)
  | describe
  | finishDiscovery
  | login (user password : String)
  | logout
  deriving Repr, DecidableEq

/-- The request of a login. -/
def loginRequest (id : UInt64) (user password : String) : Request :=
  { id, method := loginMethod, params := .bare [user, password] }

theorem Request.ofLine?_describeMethod (id : UInt64) :
    ofLine? id describeMethod = some { id, method := describeMethod } := by
  have hwords : [describeMethod] = blankWords describeMethod := by decide +kernel
  exact ofLine?_eq_some_iff.2 ⟨rfl, rfl, hwords⟩

namespace Link

/-- The link behind an operation. -/
def after (l : Link) : Operation → Link
  | .call line => (l.call line).2
  | .callAs line credential => (l.callAs line credential).2
  | .build line credential => (l.buildRequest line credential).2
  | .describe => l.describe.2
  | .finishDiscovery => l.finishDiscovery
  | .login user password => (l.login user password).2
  | .logout => l.logout.2

theorem after_login (l : Link) (user password : String) :
    l.after (.login user password) = (l.login user password).2 := rfl

theorem after_finishDiscovery (l : Link) : l.after .finishDiscovery = l.finishDiscovery := rfl

/-- Links that operations make of a new link to a peer. -/
inductive Reached (peer : Peer) : Link → Prop where
  | new : Reached peer (.new peer)
  | connect : Reached peer (.connect peer)
  | after {l : Link} (o : Operation) (h : Reached peer l) : Reached peer (l.after o)

theorem buildRequest_eq (l : Link) (line : String) (credential : Option String) :
    l.buildRequest line credential =
      (match Request.ofLine? l.nextId line with
        | some r => .ok (r.withToken? credential)
        | none => .error .emptyCall,
      { l with nextId := l.nextId + 1 }) := by
  simp only [buildRequest, drawId]
  cases Request.ofLine? l.nextId line <;> rfl

/-- What the peer's answer to an envelope says. -/
def answerTo (l : Link) (r : Request) : Attempt Json :=
  (l.peer l.sent r).bind fun text => .ofExcept (decodeReply text)

theorem exchange_eq (l : Link) (r : Request) :
    l.exchange r = (l.answerTo r, { l with sent := l.sent ++ [r] }) := rfl

theorem fst_exchange_login (l : Link) (user password : String) :
    (l.drawId.2.exchange (loginRequest l.nextId user password)).1 =
      l.answerTo (loginRequest l.nextId user password) := rfl

/-- A call of a line that is not blank sends one envelope and gives what the answer says. -/
theorem callAs_of_ofLine? {l : Link} {line : String} {r : Request}
    (h : Request.ofLine? l.nextId line = some r) (credential : Option String) :
    l.callAs line credential =
      (l.answerTo (r.withToken? credential),
        { l with nextId := l.nextId + 1, sent := l.sent ++ [r.withToken? credential] }) := by
  rw [callAs, buildRequest_eq, h]
  rfl

/-- The envelope that asks a peer to describe itself. -/
def describeRequest (l : Link) : Request :=
  ({ id := l.nextId, method := describeMethod } : Request).withToken? l.token

theorem call_describeMethod (l : Link) :
    l.call describeMethod =
      (l.answerTo l.describeRequest,
        { l with nextId := l.nextId + 1, sent := l.sent ++ [l.describeRequest] }) :=
  callAs_of_ofLine? (Request.ofLine?_describeMethod l.nextId) l.token

/-- A call uses up a number and sends the request of its line, if that is not blank. -/
theorem snd_callAs (l : Link) (line : String) (credential : Option String) :
    (l.callAs line credential).2 =
      { l with
        nextId := l.nextId + 1
        sent := l.sent ++
          ((Request.ofLine? l.nextId line).map (Request.withToken? · credential)).toList } := by
  rw [callAs, buildRequest_eq]
  cases Request.ofLine? l.nextId line with
  | none => simp
  | some r => rfl

/-- A description changes nothing but what a call changes and what is known of the
peer. -/
theorem snd_describe (l : Link) :
    l.describe.2 =
      { (l.call describeMethod).2 with procedures? := l.describe.2.procedures? } := by
  simp only [describe]
  cases (l.call describeMethod).1.bind fun v => .ofExcept (Description.ofResult v) <;> rfl

/-- The credential behind a login with a given answer. -/
def tokenAfter (token : Option String) : Attempt Json → Option String
  | .done v => (credential? v).or token
  | _ => token

/-- A login uses up a number, sends its request, and changes nothing else but the
credential. -/
theorem snd_login (l : Link) (user password : String) :
    (l.login user password).2 =
      { (l.drawId.2.exchange (loginRequest l.nextId user password)).2 with
        token :=
          tokenAfter l.token (l.drawId.2.exchange (loginRequest l.nextId user password)).1 } := by
  simp only [login, drawId, loginRequest]
  cases (exchange _ _).1 with
  | done v =>
      simp only [tokenAfter]
      cases credential? v <;> rfl
  | failed e => rfl
  | crashed c => rfl

theorem isDiscovered_finishDiscovery (l : Link) : l.finishDiscovery.isDiscovered = true := rfl

theorem isDiscovered_login {l : Link} (h : l.isDiscovered = true) {user password : String} :
    (l.login user password).2.isDiscovered = true := by
  rw [snd_login]
  exact h

/-- No operation changes the peer. -/
theorem peer_after (l : Link) (o : Operation) : (l.after o).peer = l.peer := by
  cases o with
  | call line => rw [after, call, snd_callAs]
  | callAs line credential => rw [after, snd_callAs]
  | build line credential => rw [after, buildRequest_eq]
  | describe => rw [after, snd_describe, call, snd_callAs]
  | finishDiscovery => rw [after, finishDiscovery, snd_describe, call, snd_callAs]
  | login user password => rw [after, snd_login]; rfl
  | logout => rfl

end Link

end RemoteConsole
