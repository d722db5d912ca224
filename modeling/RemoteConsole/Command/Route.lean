import RemoteConsole.Command.Line
import RemoteConsole.Command.Table

/-!
# Where a line goes

A line is routed by its first token. If the table has a command of that name, the
option letters among the other tokens are read first; the command runs unless one
of them is decisive: a request for help, an unknown letter, or a letter without
the value it needs. `Table.route` says what a line comes to without running
anything.
-/

namespace RemoteConsole

/-- What the option letters of a command come to: its switches and the arguments
behind them, or a text to show and the status the line ends with. -/
inductive Reading where
  | run (switches : Switches) (args : List String)
  | stop (text : String) (status : Status)
  deriving Repr, DecidableEq

namespace Reading

/-- What one option letter comes to: the switches with it, or the end. -/
def ofLetter (usage : Option String) (letter : Char) (s : Scanner) (switches : Switches) :
    Except (String × Status) Switches :=
  let last := (s.lastLetter.getD letter).toString
  match usage, letter with
  | some usage, 'h' => .error ("Usage: " ++ usage, .ok)
  | _, ':' => .error (last ++ ": option needs a value", .badArguments)
  | _, '?' => .error (last ++ ": no such option", .badArguments)
  | _, letter => .ok (switches.insert letter s.argument)

/-- Go through the steps of a scan up to the first decisive one. -/
def ofSteps (usage : Option String) (args : List String) :
    List Scanner.Step → Switches → Reading
  | [], switches => run switches args
  | step :: rest, switches =>
    match step.letter with
    | none => run switches (step.scanner.remaining args)
    | some letter =>
      match ofLetter usage letter step.scanner switches with
      | .ok switches => ofSteps usage args rest switches
      | .error (text, status) => stop text status

end Reading

variable {κ : Type}

/-- Read the option letters of a command's arguments. -/
def Command.read (c : Command κ) (args : List String) : Reading :=
  match c.optionSpec with
  | none => .run .empty args
  | some spec =>
    .ofSteps c.usage args (Scanner.readAll { quiet := true } args spec.toList) .empty

/-- What a line comes to. -/
inductive Route (κ : Type) where
  | blank
  /-- The handler of a command runs. -/
  | run (name : String) (command : Command κ) (switches : Switches) (args : List String)
  /-- The handler does not run; a text is shown. -/
  | stop (text : String) (status : Status)
  /-- The table has no command of that name. -/
  | unknown (name : String)

/-- What a line comes to under a table of commands. -/
def Table.route (t : Table κ) (line : String) : Route κ :=
  match tokens line with
  | [] => .blank
  | name :: args =>
    match t.get? name with
    | none => .unknown name
    | some c =>
      match c.read args with
      | .run switches args => .run name c switches args
      | .stop text status => .stop text status

end RemoteConsole
