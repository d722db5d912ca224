import RemoteConsole.Http.MediaType
import RemoteConsole.Net.Url
import RemoteConsole.Rpc.Peer

/-!
# Peers behind a URL

A target is a URL and the headers that go along with every envelope. A text that is
no URL makes no target. Some targets can never be reached: those whose scheme is
not one of HTTP, and those with a header that HTTP does not allow. For the others
the network decides.
-/

namespace RemoteConsole

/-- Where envelopes are posted, and with what headers. -/
structure HttpTarget where
  url : String
  headers : List (String × String) := []
  deriving Repr, DecidableEq

/-- What answers at each target. -/
abbrev Network := HttpTarget → Peer

namespace HttpTarget

def connect (url : String) (headers : List (String × String) := []) :
    Except CallError HttpTarget :=
  if (Url.scheme? url).isSome then .ok { url, headers }
  else .error (.transport "invalid URL: not an absolute URL")

/-- Whether a name may name a header. -/
def isHeaderName (name : String) : Bool :=
  name != "" && name.toList.all MediaType.isNameChar

/-- Whether a text may be the value of a header. -/
def isHeaderValue (value : String) : Bool :=
  value.toList.all fun c => c == '\t' || (' ' ≤ c && c != '\x7f')

/-- Whether HTTP knows a way to the target. -/
def isReachable (t : HttpTarget) : Bool :=
  (Url.scheme? t.url == some "http" || Url.scheme? t.url == some "https")
    && t.headers.all fun (name, value) => isHeaderName name && isHeaderValue value

/-- A request that came to nothing. -/
def requestFailed (reason : String) : CallError :=
  .transport ("HTTP request failed: " ++ reason)

def peer (network : Network) (t : HttpTarget) : Peer := fun sent r =>
  if t.isReachable then network t sent r else .failed (requestFailed "builder error")

end HttpTarget

/-- A network on which nothing answers. -/
def Network.silent : Network := fun t _ _ =>
  .failed (HttpTarget.requestFailed ("error sending request for url (" ++ t.url ++ ")"))

end RemoteConsole
