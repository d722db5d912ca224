import RemoteConsole.Terminal.Basic

/-!
# The commands of a terminal

The outermost terminal has five commands: `ai` enters an inner terminal, `clear`
clears the screen, `exit` ends the session, `history` shows the lines that went
well, and `help` tells what there is, here and at the peer. The inner terminal has
two: `conversation` and `exit`.
-/

namespace RemoteConsole
namespace Terminal

/-- A command that asks for something. -/
def asking (a : Action) (usage : String) : Command Terminal :=
  .ofAction (fun _ _ s => { s with console := s.console.ask a }) none (some usage)

/-- A number with blanks in front, four characters wide at least. -/
def padNumber (n : Nat) : String :=
  let ds := Nat.toDigits 10 n
  String.ofList (List.replicate (4 - ds.length) ' ' ++ ds)

def numberLines (lines : List String) : List String :=
  (lines.zipIdx 1).map fun (line, n) => padNumber n ++ "  " ++ line

def historyCommand : Command Terminal :=
  .ofAction (fun _ _ s => s.echoAll (numberLines s.console.history.entries)) none
    (some "history")

def exitCommand : Command Terminal :=
  .ofAction (fun _ _ s =>
      let s := s.echo "logging out"
      { s with console := s.console.ask .logout })
    none (some "exit")

/-- The commands besides `help`. -/
def basicCommands : Table Terminal :=
  Table.empty
    |>.register "ai" (asking (.enter .ai) "ai")
    |>.register "clear" (asking .clear "clear")
    |>.register "exit" exitCommand
    |>.register "history" historyCommand

/-- How `help` is used. -/
def helpUsage : String := "help [command]"

/-- The names of all commands here, each with how it is used. -/
def usages : Entries String (Option String) :=
  basicCommands.usages.put helpMethod (some helpUsage)

/-- The commands the peer of a scene is known to offer. -/
def offered (s : Scene Terminal) : List String := (s.link.map Link.procedures).getD []

/-- The names that `help` lists: those here, then those at the peer that are not
also here. -/
def helpNames (remote : List String) : List String :=
  usages.keys ++ remote.filter fun name => !usages.keys.contains name

/-- Ask the peer how a command is used. -/
def remoteHelp (name : String) (l : Link) (s : Scene Terminal) :
    HandlerOutcome × Scene Terminal :=
  let (answer, l) := l.call (helpMethod ++ " " ++ name)
  let s := { s with link := some l }
  match answer with
  | .done v => (.done none, s.echo v.shown)
  | .failed e => (.failed (.call e), s)
  | .crashed c => (.crashed c, s)

/-- List the commands, or tell how one is used. -/
def help (args : List String) (s : Scene Terminal) : HandlerOutcome × Scene Terminal :=
  match args with
  | [] => (.done none, s.echo ("Available commands:\n" ++ "\n".intercalate (helpNames (offered s))))
  | name :: _ =>
    match usages.get? name with
    | some (some usage) => (.done none, s.echo ("Usage: " ++ usage))
    | some none => (.done none, s.echo (name ++ ": no usage available"))
    | none =>
      match (offered s).contains name, s.link with
      | true, some l => remoteHelp name l s
      | _, _ => (.done none, s.echo ("No help available for " ++ name))

def commands : Table Terminal :=
  basicCommands.register helpMethod
    { handler := fun args _ s => help args s, usage := some helpUsage }

end Terminal

def InnerTerminal.commands : InnerTerminal → Table Terminal
  | ai =>
    Table.empty
      |>.register "conversation"
          (.ofAction (fun _ _ s => s.echo "Start a conversation with the AI") none
            (some "conversation"))
      |>.register "exit" (Terminal.asking .leave "exit")

end RemoteConsole
