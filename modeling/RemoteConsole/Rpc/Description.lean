import RemoteConsole.Rpc.Response

/-!
# Errors of a call and the peer's description of itself

`CallError` lists what can go wrong with a call and how each fault is worded.
`Description.ofResult` reads the answer to `system.describe`, which is a record or
a string that holds the text of one.
-/

namespace RemoteConsole

/-- Why a call has no result. -/
inductive CallError where
  /-- The peer could not be reached. -/
  | transport (message : String)
  /-- The peer's answer is no reply. -/
  | protocol (message : String)
  /-- A text is not the JSON it should be. -/
  | json (message : String)
  /-- The peer answered with an error. -/
  | remote (error : RemoteError)
  /-- The command line is blank. -/
  | emptyCall
  deriving Repr, DecidableEq

namespace CallError

def message : CallError → String
  | transport m => "transport error: " ++ m
  | protocol m => "protocol error: " ++ m
  | json m => "JSON error: " ++ m
  | remote e => e.message
  | emptyCall => "empty command line"

/-- Whether the peer itself refused the call. -/
def isRemote : CallError → Bool
  | remote _ => true
  | _ => false

end CallError

def Json.Fault.message : Json.Fault → String
  | malformed => "invalid JSON"
  | mismatched => "unexpected JSON value"

/-- The method that asks a peer to describe itself. -/
def describeMethod : String := "system.describe"

/-- The method that lists commands and tells how they are used. -/
def helpMethod : String := "help"

/-- The method that trades a name and a password for a credential. -/
def loginMethod : String := "login"

/-- What a peer says about itself. -/
structure Description where
  version : String := ""
  name : String := ""
  address : String := ""
  id : String := ""
  /-- The names of the commands it offers. -/
  procedures : List String
  deriving Repr, DecidableEq

namespace Description

structure Partial where
  version : Option String := none
  name : Option String := none
  address : Option String := none
  id : Option String := none
  procedures : Option (List String) := none

/-- How a description is read. Only the list of commands must be there. -/
def reader : Json.RecordReader Partial Description where
  fields :=
    [("sdversion", Json.once Partial.version (fun p v => { p with version := some v }) .string),
     ("name", Json.once Partial.name (fun p v => { p with name := some v }) .string),
     ("address", Json.once Partial.address (fun p v => { p with address := some v }) .string),
     ("id", Json.once Partial.id (fun p v => { p with id := some v }) .string),
     ("procs", Json.once Partial.procedures (fun p v => { p with procedures := some v })
        (.list .string))]
  start := {}
  finish p :=
    match p.procedures with
    | some procedures =>
      .ok { version := p.version.getD "", name := p.name.getD "", address := p.address.getD ""
            id := p.id.getD "", procedures }
    | none => .error .mismatched

def ofResult (v : Json) : Except CallError Description :=
  let read : Except Json.Fault Description → Except CallError Description
    | .ok d => .ok d
    | .error f => .error (.json f.message)
  match v with
  | .string text => read (Json.readText reader.read text)
  | .object fields => read (Json.readValue reader.read (.object fields))
  | v => .error (.protocol ("unexpected system.describe result: " ++ v.text))

end Description
end RemoteConsole
