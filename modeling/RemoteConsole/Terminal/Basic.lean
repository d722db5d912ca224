import RemoteConsole.Command.Table
import RemoteConsole.Terminal.History

/-!
# Terminals

A terminal is the console of a person at a keyboard. It keeps what is shown, the
history, and what commands asked to be done once the line is finished: to enter or
leave an inner terminal, to clear the screen, or to end the session.
-/

namespace RemoteConsole

/-- The terminals that can be entered from another one. -/
inductive InnerTerminal where
  | ai
  deriving Repr, DecidableEq

namespace InnerTerminal

def name : InnerTerminal → String
  | ai => "ai"

/-- What stands in front of the cursor. -/
def prompt : InnerTerminal → String
  | ai => "ai>"

/-- What is shown on entering. -/
def greeting : InnerTerminal → String
  | ai => "AI mode. Type exit to return."

end InnerTerminal

/-- What a command asks for. It is done when the line is finished. -/
inductive Action where
  | enter (inner : InnerTerminal)
  | leave
  | clear
  | logout
  deriving Repr, DecidableEq

structure Terminal where
  /-- The texts shown and not yet taken. -/
  shown : List String := []
  history : History
  /-- What has been asked for, in order. -/
  actions : List Action := []
  /-- Whether a session ended and nobody took note yet. -/
  sessionEnded : Bool := false
  deriving Repr, DecidableEq

namespace Terminal

/-- A terminal that keeps so many lines of history. -/
def new (limit : Nat) : Terminal := { history := { limit } }

/-- Empty texts are not shown. -/
instance : Console Terminal where
  echo text t := if text = "" then t else { t with shown := t.shown ++ [text] }
  sessionEnded t := { t with sessionEnded := true }

def ask (t : Terminal) (a : Action) : Terminal := { t with actions := t.actions ++ [a] }

end Terminal
end RemoteConsole
