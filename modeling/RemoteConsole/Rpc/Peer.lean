import RemoteConsole.Rpc.Description

/-!
# Peers

A peer answers one envelope at a time. What it answers may depend on all
envelopes it got before, so a peer is a function of them and of the new one; it
may also refuse to answer, or crash. An `Attempt` is what comes of anything that
may fail or crash.
-/

namespace RemoteConsole

/-- An abnormal end. It may carry a text that says why. -/
structure Crash where
  text? : Option String := none
  deriving Repr, DecidableEq

/-- What is shown for an abnormal end. -/
def Crash.message (c : Crash) : String := c.text?.getD "command panicked"

/-- What comes of something that may fail or crash. -/
inductive Attempt (α : Type) where
  | done (value : α)
  | failed (error : CallError)
  | crashed (crash : Crash)
  deriving Repr

namespace Attempt

variable {α β : Type}

/-- Go on with the value, if there is one. -/
def bind (a : Attempt α) (f : α → Attempt β) : Attempt β :=
  match a with
  | done v => f v
  | failed e => failed e
  | crashed c => crashed c

def map (f : α → β) (a : Attempt α) : Attempt β := a.bind fun v => done (f v)

/-- The attempt of a result that cannot crash. -/
def ofExcept : Except CallError α → Attempt α
  | .ok v => done v
  | .error e => failed e

@[simp] theorem bind_done (v : α) (f : α → Attempt β) : (done v).bind f = f v := rfl

@[simp] theorem bind_failed (e : CallError) (f : α → Attempt β) :
    (failed e).bind f = failed e := rfl

@[simp] theorem bind_crashed (c : Crash) (f : α → Attempt β) :
    (crashed c).bind f = crashed c := rfl

end Attempt

/-- Answers an envelope with a text, given the envelopes that came before it. -/
abbrev Peer := List Request → Request → Attempt String

/-- What a peer's text says. -/
def decodeReply (text : String) : Except CallError Json :=
  match Response.read text with
  | .error f => .error (.protocol ("malformed response: " ++ f.message))
  | .ok r =>
    match r.outcome with
    | .ok v => .ok v
    | .error e => .error (.remote e)

end RemoteConsole
