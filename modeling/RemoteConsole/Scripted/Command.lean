import RemoteConsole.Command.Table

/-!
# Scripted commands

A scripted command shows some texts and then ends in a given way. It works on a
`Recording`, which keeps a transcript and everything handlers were run with.
-/

namespace RemoteConsole
namespace Scripted

/-- What a handler was run with. -/
inductive Invocation where
  | command (name : String) (args : List String) (switches : Switches)
  | line (text : String)
  deriving Repr, DecidableEq

/-- A console that also keeps what handlers were run with. -/
structure Recording where
  transcript : Transcript := {}
  invocations : List Invocation := []
  deriving Repr, DecidableEq

instance : Console Recording where
  echo text r := { r with transcript := Console.echo text r.transcript }
  sessionEnded r := { r with transcript := Console.sessionEnded r.transcript }

/-- What a scripted handler does. -/
structure Action where
  texts : List String := []
  outcome : HandlerOutcome := .done none
  deriving Repr, DecidableEq

/-- Record an invocation and do what the script says. -/
def Action.run (a : Action) (i : Invocation) (s : Scene Recording) :
    HandlerOutcome × Scene Recording :=
  let s := { s with console := { s.console with invocations := s.console.invocations ++ [i] } }
  (a.outcome, s.echoAll a.texts)

def command (name : String) (a : Action) (options usage : Option String) : Command Recording :=
  { handler := fun args switches s => a.run (.command name args switches) s, options, usage }

/-- A handler for every line: the first entry for the line, or for any line, says
what is done. -/
def lineHandler (entries : List (Option String × Action)) : LineHandler Recording :=
  fun line s =>
    match entries.find? fun (wanted, _) => wanted.all (· == line) with
    | some (_, a) => a.run (.line line) s
    | none => ({} : Action).run (.line line) s

end Scripted
end RemoteConsole
