import RemoteConsole.Command.Status
import RemoteConsole.Command.Table
import RemoteConsole.Rpc.Response

/-!
# Responders

A responder is the console of one call. A command gives it a value as the reply,
or shows texts. `Responder.response` makes the envelope: after success it carries
the reply, or else the texts, or `null` if there are none; after a failure it
carries the code of the status, and the texts or the name of the status.
-/

namespace RemoteConsole

/-- What a command produced for one call. -/
structure Responder where
  reply? : Option Json := none
  lines : List String := []
  deriving Repr

namespace Responder

instance : Console Responder where
  echo text r := { r with lines := r.lines ++ [text] }
  sessionEnded r := r

def reply (r : Responder) (v : Json) : Responder := { r with reply? := some v }

/-- The texts shown, one a line. -/
def text (r : Responder) : String := "\n".intercalate r.lines

/-- The result of a call that succeeded. -/
def result (r : Responder) : Json :=
  match r.reply? with
  | some v => v
  | none => if r.text.isEmpty then .null else .string r.text

/-- What is said about a call that failed. -/
def failureText (r : Responder) (status : Status) : String :=
  if r.text.isEmpty then status.name else r.text

/-- The envelope for a call. -/
def response (r : Responder) (id : UInt64) (status : Status) : Response :=
  if status.isOk then .success id r.result
  else .failure id (Int64.ofNat status.code) (r.failureText status)

end Responder
end RemoteConsole
