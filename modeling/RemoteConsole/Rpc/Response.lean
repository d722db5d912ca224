import RemoteConsole.Rpc.Request
import RemoteConsole.Command.Status

/-!
# Reply envelopes

A reply carries the request's id, if the peer could read one, and a result or an
error. A result or error that is sent as `null` counts as absent, and a reply
with neither stands for the result `null`: `Response.outcome`. An error counts
before a result.
-/

namespace RemoteConsole

/-- An error sent by a peer. -/
structure RemoteError where
  code : Int64
  message : String
  deriving Repr, DecidableEq

namespace RemoteError

def toJson (e : RemoteError) : Json :=
  .object [("code", .ofInt e.code.toInt), ("message", .string e.message)]

structure Partial where
  code : Option Int64 := none
  message : Option String := none

def reader : Json.RecordReader Partial RemoteError where
  fields :=
    [("code", Json.once Partial.code (fun p c => { p with code := some c }) .signedWord),
     ("message", Json.once Partial.message (fun p m => { p with message := some m }) .string)]
  start := {}
  finish p :=
    match p.code, p.message with
    | some code, some message => .ok { code, message }
    | _, _ => .error .mismatched

/-- The code of a request that could not be read. -/
def parseErrorCode : Int64 := -32700

end RemoteError

structure Response where
  id : Option UInt64
  version : String := "2.0"
  result : Option Json := none
  error : Option RemoteError := none
  deriving Repr

namespace Response

def success (id : Option UInt64) (result : Json) : Response := { id, result := some result }

def failure (id : Option UInt64) (code : Int64) (message : String) : Response :=
  { id, error := some { code, message } }

def isError (r : Response) : Bool := r.error.isSome

/-- What the reply says: the error, or else the result, or else `null`. -/
def outcome (r : Response) : Except RemoteError Json :=
  match r.error with
  | some e => .error e
  | none => .ok (r.result.getD .null)

/-- The reply as a value, its fields in the order they are sent in. -/
def toJson (r : Response) : Json :=
  .object
    (("id", match r.id with | some i => .ofInt i.toNat | none => .null)
      :: ("jsonrpc", .string r.version)
      :: (r.result.map fun v => ("result", v)).toList
      ++ (r.error.map fun e => ("error", e.toJson)).toList)

/-- The text sent for a reply. -/
def wire (r : Response) : String := r.toJson.text

/-- The part of a reply read so far. Each field is the value that was read for it;
a field that was read may itself be absent. -/
structure Partial where
  id : Option (Option UInt64) := none
  version : Option String := none
  result : Option (Option Json) := none
  error : Option (Option RemoteError) := none

/-- The reply of the fields read, the others being absent. -/
def Partial.toResponse (p : Partial) : Response :=
  { id := p.id.getD none
    version := p.version.getD "2.0"
    result := p.result.getD none
    error := p.error.getD none }

/-- How a reply is read. As an object any field may be left out, as an array
none. -/
def reader : Json.RecordReader Partial Response where
  fields :=
    [("id", Json.once Partial.id (fun p i => { p with id := some i }) (.optional .word)),
     ("jsonrpc", Json.once Partial.version (fun p v => { p with version := some v }) .string),
     ("result", Json.once Partial.result (fun p v => { p with result := some v })
        (.optional .value)),
     ("error", Json.once Partial.error (fun p e => { p with error := some e })
        (.optional RemoteError.reader.read))]
  start := {}
  finish p := .ok p.toResponse
  finishShort _ _ := .error .mismatched

/-- The reply of a text, or why it is none. -/
def read (text : String) : Except Json.Fault Response := Json.readText reader.read text

end Response
end RemoteConsole
