import RemoteConsole.Endpoint.Access
import RemoteConsole.Endpoint.Responder
import RemoteConsole.Text.Uppercase

/-!
# The commands of an endpoint

An endpoint has five commands: `login` trades a name and a password for the
credential, `exit` does nothing, `echo` gives its words back, `help` tells what
there is, and `system.describe` describes the endpoint. Only those that are not
hidden are advertised, which leaves `echo`.
-/

namespace RemoteConsole

/-- A command that only answers. -/
abbrev AnswerCommand := Command Responder

/-- A command that answers with a value made of its arguments and switches. -/
def Command.ofReply (f : List String → Switches → Json) (options usage : Option String) :
    AnswerCommand :=
  .ofAction (fun args switches s => { s with console := s.console.reply (f args switches) })
    options usage

namespace EndpointConfig

def loginReply (c : EndpointConfig) : List String → Json
  | user :: password :: _ =>
    if c.verifyLogin user password then .string c.token else .bool false
  | _ => .bool false

def echoReply (args : List String) (switches : Switches) : Json :=
  let text := ((switches.value? 's').getD " ").intercalate args
  .string (if switches.isSet 'u' then uppercase text else text)

def helpReply (advertised : List String) (usages : Entries String (Option String)) :
    List String → Json
  | [] => .string ("Available commands:\n" ++ "\n".intercalate advertised)
  | name :: _ =>
    .string <|
      match usages.get? name with
      | some (some usage) => "Usage: " ++ usage
      | some none => name ++ ": no usage available"
      | none => "No help available for " ++ name

def describeReply (c : EndpointConfig) (advertised : List String) : Json :=
  .ofFields
    [("sdversion", .string "1.0"), ("name", .string c.name), ("address", .string c.address),
     ("id", .string c.id), ("procs", .ofStrings advertised)]

/-- The method that acknowledges the end of a session. -/
def exitMethod : String := "exit"

/-- The commands that are not advertised. -/
def hiddenCommands : List String := [exitMethod, helpMethod, loginMethod, describeMethod]

/-- The commands that `help` knows about. -/
def basicCommands (c : EndpointConfig) : Table Responder :=
  Table.empty
    |>.register loginMethod (.ofReply (fun args _ => c.loginReply args) none none)
    |>.register exitMethod (.ofReply (fun _ _ => .string "exit") none none)
    |>.register "echo" (.ofReply echoReply (some "us:") (some "echo [-u] [-s separator] words..."))

/-- The names that are advertised, in ascending order. -/
def advertised (t : Table Responder) : List String :=
  t.names.filter fun name => !hiddenCommands.contains name

/-- All commands of an endpoint. -/
def commands (c : EndpointConfig) : Table Responder :=
  let basic := c.basicCommands
  basic
    |>.register helpMethod (.ofReply (fun args _ => helpReply (advertised basic) basic.usages args)
        none none)
    |>.register describeMethod (.ofReply (fun _ _ => c.describeReply (advertised basic)) none none)

end EndpointConfig
end RemoteConsole
