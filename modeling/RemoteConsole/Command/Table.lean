import RemoteConsole.Command.Options
import RemoteConsole.Command.Status
import RemoteConsole.Rpc.Link

/-!
# Commands, handlers and tables

A handler gets the arguments and switches of a command and works on a `Scene`: the
console it prints to and the link to a peer, if there is one. A command has a
handler, and may declare option letters and a usage text; a usage text declares
the letter `h` as well. A `Table` holds commands by name, the last one registered
under a name being the one that counts. A registry is a table, or one handler
that gets every line.
-/

namespace RemoteConsole

/-- A place that text can be shown at and that is told when a session ends. -/
class Console (κ : Type) where
  echo : String → κ → κ
  sessionEnded : κ → κ

/-- What a line can act on. -/
structure Scene (κ : Type) where
  console : κ
  link : Option Link := none

namespace Scene

variable {κ : Type} [Console κ]

def echo (s : Scene κ) (text : String) : Scene κ :=
  { s with console := Console.echo text s.console }

/-- Show several texts, one after the other. -/
def echoAll (s : Scene κ) (texts : List String) : Scene κ := texts.foldl echo s

@[simp] theorem link_echo (s : Scene κ) (t : String) : (s.echo t).link = s.link := rfl

end Scene

/-- Why a command fails. -/
inductive CommandError where
  | failed (message : String)
  | call (error : CallError)
  deriving Repr, DecidableEq

/-- What is shown for a failure. -/
def CommandError.message : CommandError → String
  | failed m => m
  | call e => e.message

/-- How a handler ends. No status counts as success. -/
inductive HandlerOutcome where
  | done (status : Option Status)
  | failed (error : CommandError)
  | crashed (crash : Crash)
  deriving Repr, DecidableEq

/-- Runs a command with its arguments and switches. -/
abbrev Handler (κ : Type) := List String → Switches → Scene κ → HandlerOutcome × Scene κ

/-- Runs a whole line. -/
abbrev LineHandler (κ : Type) := String → Scene κ → HandlerOutcome × Scene κ

structure Command (κ : Type) where
  handler : Handler κ
  options : Option String := none
  usage : Option String := none

namespace Command

variable {κ : Type}

/-- A command whose handler cannot fail. -/
def ofAction (f : List String → Switches → Scene κ → Scene κ) (options : Option String := none)
    (usage : Option String := none) : Command κ :=
  { handler := fun args switches s => (.done none, f args switches s), options, usage }

/-- The specification its options are read by. A command that declares neither
options nor a usage text takes all its arguments as they are. -/
def optionSpec (c : Command κ) : Option String :=
  if c.options.isNone && c.usage.isNone then none
  else some (":" ++ c.options.getD "" ++ (if c.usage.isSome then "h" else ""))

end Command

structure Table (κ : Type) where
  commands : Entries String (Command κ) := []

namespace Table

variable {κ : Type}

def empty : Table κ := {}

/-- Add a command, in place of an earlier one of the same name. -/
def register (t : Table κ) (name : String) (c : Command κ) : Table κ :=
  ⟨t.commands.put name c⟩

def get? (t : Table κ) (name : String) : Option (Command κ) := t.commands.get? name

def contains (t : Table κ) (name : String) : Bool := (t.get? name).isSome

/-- The names in ascending order. -/
def names (t : Table κ) : List String := t.commands.keys

def size (t : Table κ) : Nat := t.commands.length

/-- The names in ascending order, each with the usage text of its command. -/
def usages (t : Table κ) : Entries String (Option String) :=
  t.commands.map fun (name, c) => (name, c.usage)

theorem get?_register (t : Table κ) (name other : String) (c : Command κ) :
    (t.register name c).get? other = if other = name then some c else t.get? other :=
  Entries.get?_put ..

end Table

/-- Commands by name, or one handler that gets every line. -/
inductive Registry (κ : Type) where
  | table (t : Table κ)
  | override (handler : LineHandler κ)

/-- Whether one handler gets every line. -/
def Registry.isOverride {κ : Type} : Registry κ → Bool
  | table _ => false
  | override _ => true

/-- A console that keeps what is shown and counts the sessions that ended. -/
structure Transcript where
  lines : List String := []
  sessionsEnded : Nat := 0
  deriving Repr, DecidableEq

namespace Transcript

instance : Console Transcript where
  echo text t := { t with lines := t.lines ++ [text] }
  sessionEnded t := { t with sessionsEnded := t.sessionsEnded + 1 }

/-- Everything shown, one text a line. -/
def output (t : Transcript) : String := "\n".intercalate t.lines

end Transcript
end RemoteConsole
