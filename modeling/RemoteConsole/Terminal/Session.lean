import RemoteConsole.Command.Executor
import RemoteConsole.Terminal.Commands

/-!
# Sessions at a terminal

A session is fed one line after the other. If it requires a login, the lines are
user names, each followed by a password, until the peer accepts one pair; then, or
at once, the lines are commands. A command runs in the innermost terminal, and what
it asked for is done when it is finished. To log out ends the session, unless the
peer held one open: then the login starts over. The outermost terminal is never
left.
-/

namespace RemoteConsole

/-- What comes from the keyboard. -/
inductive Input where
  | line (text : String)
  /-- Bytes that are no text. -/
  | undecodable
  /-- The key that interrupts. -/
  | interrupted
  /-- Nothing comes any more. -/
  | closed
  deriving Repr, DecidableEq

/-- What becomes visible. -/
inductive Output where
  /-- A text with a line to itself. -/
  | text (s : String)
  | clear
  /-- How a line failed. -/
  | status (s : Status)
  /-- Why no line could be read. -/
  | fault (message : String)
  deriving Repr, DecidableEq

namespace Output

/-- What is written for an output, apart from faults. -/
def standard : Output → String
  | text s => s ++ "\n"
  | clear => "\r\x1b[2J\r\x1b[H"
  | status _ | fault _ => ""

/-- What is written for a fault. -/
def error : Output → String
  | status s => "[" ++ s.name ++ "]\n"
  | fault m => "Input error: " ++ m ++ "\n"
  | text _ | clear => ""

end Output

/-- How a run ends. -/
inductive Ending (α : Type) where
  | done (value : α)
  | failed (message : String)
  | crashed
  deriving Repr, DecidableEq

namespace Session

/-- How a session looks and whether it requires a login. -/
structure Options where
  prompt : String
  greeting : Option String := none
  login : Bool
  deriving Repr, DecidableEq

/-- What the next input is taken for. `pending` is what is still to be done when
the login succeeds, if the session had been open before. -/
inductive Phase where
  | username (pending : Option (List Action))
  | password (pending : Option (List Action)) (user : String)
  | command
  | ended (ending : Ending Unit)
  deriving Repr, DecidableEq

end Session

structure Session where
  options : Session.Options
  /-- Runs lines in the outermost terminal. -/
  executor : Executor Terminal
  scene : Scene Terminal
  /-- The inner terminals, the innermost one first. -/
  inner : List InnerTerminal := []
  phase : Session.Phase := .command
  /-- All that became visible, in order. -/
  output : List Output := []

namespace Session

def emit (s : Session) (l : List Output) : Session := { s with output := s.output ++ l }

/-- Take over a scene, and show what was shown there. -/
def adopt (s : Session) (scene : Scene Terminal) : Session :=
  { s with
    scene := { scene with console := { scene.console with shown := [] } }
    output := s.output ++ scene.console.shown.map .text }

def stop (s : Session) (e : Ending Unit) : Session := { s with phase := .ended e }

def finish (s : Session) : Session := (s.emit [.text "Goodbye!"]).stop (.done ())

/-- The rule below the title. -/
def titleRule : String := String.ofList (List.replicate 40 '─')

/-- What is shown on entering the outermost terminal. -/
def welcome (greeting : Option String) : List Output :=
  [.text "", .text "wcterm", .text titleRule] ++ (greeting.map .text).toList
    ++ [.text "Type help for commands, Ctrl+D to quit.", .text ""]

def greet (s : Session) : Session := s.emit (welcome s.options.greeting)

/-- The executor of the innermost terminal. -/
def innermost (s : Session) : Executor Terminal :=
  match s.inner with
  | t :: _ => .localOnly t.commands
  | [] => s.executor

/-- What stands in front of the cursor. -/
def prompt (s : Session) : String :=
  match s.inner with
  | t :: _ => t.prompt
  | [] => s.options.prompt

def askLogin (s : Session) (pending : Option (List Action)) : Session :=
  { s.adopt (s.scene.echo "Please log in") with phase := .username pending }

/-- Take note that a session ended. -/
def noteEnd (s : Session) : Session :=
  { s with
    scene := { s.scene with console := { s.scene.console with sessionEnded := false } } }

/-- Log out and go back to the outermost terminal. -/
def leaveAll (s : Session) : Session :=
  { s.adopt (s.executor.logout s.scene).2 with inner := [] }

/-- Do what was asked for. -/
def act : List Action → Session → Session
  | [], s => s
  | .enter t :: rest, s =>
    act rest ({ s with inner := t :: s.inner }.emit [.text t.greeting])
  | .leave :: rest, s => act rest { s with inner := s.inner.tail }
  | .clear :: rest, s => act rest (s.emit [.clear])
  | .logout :: rest, s =>
    let s := s.leaveAll
    if s.scene.console.sessionEnded then
      let s := s.noteEnd.emit [.clear]
      if s.options.login then s.askLogin (some rest) else act rest s.greet
    else s.finish

def start (options : Options) (executor : Executor Terminal) (scene : Scene Terminal) :
    Session :=
  let s : Session := { options, executor, scene }
  if options.login then s.askLogin none else s.greet

/-- Take note of a line and how it went. -/
def report (s : Session) (line : String) (status : Status) : Session :=
  if status.isOk then
    { s with
      scene :=
        { s.scene with
          console := { s.scene.console with history := s.scene.console.history.record line } } }
  else s.emit [.status status]

/-- Take the actions that were asked for out of the terminal. -/
def takeActions (s : Session) : List Action × Session :=
  (s.scene.console.actions,
    { s with scene := { s.scene with console := { s.scene.console with actions := [] } } })

def runLine (s : Session) (line : String) : Session :=
  let (status, scene) := s.innermost.execute s.scene line
  let (actions, s) := ((s.adopt scene).report line status).takeActions
  act actions s

/-- The fault of bytes that are no text. -/
def undecodableText : String := "stream did not contain valid UTF-8"

/-- What is shown when a command is interrupted. -/
def interruptedText : String := "(Interrupted - press Ctrl+D to quit)"

/-- Take in what comes from the keyboard. -/
def feed (s : Session) (i : Input) : Session :=
  match s.phase, i with
  | .username none, .closed | .username none, .interrupted => s.stop (.done ())
  | .username (some _), .closed | .username (some _), .interrupted => s.finish
  | .username _, .undecodable => s.stop (.failed undecodableText)
  | .username pending, .line text =>
    if trimBlank text = "" then s
    else { s with phase := .password pending (trimBlank text) }
  | .command, .closed => (s.emit [.text ""]).finish
  | .command, .undecodable => (s.emit [.fault undecodableText]).finish
  | .command, .interrupted => s.emit [.text "", .text interruptedText]
  | .command, .line text =>
    if trimBlank text = "" then s else s.runLine (trimBlank text)
  | _, _ => s

/-- Go on after a successful login. -/
def resume (s : Session) (pending : Option (List Action)) : Session :=
  act (pending.getD []) { s.greet with phase := .command }

/-- Take in a password. There may be none. -/
def feedPassword (s : Session) (password : Option String) : Session :=
  match s.phase, password with
  | .password pending user, some password =>
    match s.executor.login s.scene user password with
    | (.error _, scene) => (s.adopt scene).stop .crashed
    | (.ok status, scene) =>
      let s := s.adopt scene
      if status.isOk then s.resume pending
      else { s.emit [.status status] with phase := .username pending }
  | .password _ _, none => s.stop (.failed "unexpected end of file")
  | _, _ => s

/-- Take in a line, and the next password if one is asked for then. Gives the
passwords that are left. -/
def feedBoth (s : Session) (passwords : List String) (i : Input) : Session × List String :=
  let s := s.feed i
  match s.phase with
  | .password _ _ => (s.feedPassword passwords.head?, passwords.tail)
  | _ => (s, passwords)

/-- Take in all lines, and passwords as they are asked for, up to the end. -/
def run (s : Session) (passwords : List String) : List Input → Session
  | [] => (s.feedBoth passwords .closed).1
  | i :: rest =>
    let (s, passwords) := s.feedBoth passwords i
    run s passwords rest

def ending (s : Session) : Ending Unit :=
  match s.phase with
  | .ended e => e
  | _ => .done ()

/-- All that was written apart from faults. -/
def standardText (s : Session) : String := String.join (s.output.map Output.standard)

/-- All that was written about faults. -/
def errorText (s : Session) : String := String.join (s.output.map Output.error)

end Session

namespace Input

/-- A line as it was typed, without a carriage return at its end. -/
def ofBytes (line : List UInt8) (ended : Bool) : Input :=
  let line := if ended && line.getLast? == some 13 then line.dropLast else line
  match String.fromUTF8? ⟨line.toArray⟩ with
  | some text => .line text
  | none => .undecodable

/-- Split bytes after every line feed. The last part has none. -/
def splitLines : List UInt8 → List (List UInt8) × List UInt8
  | [] => ([], [])
  | b :: rest =>
    let (lines, last) := splitLines rest
    if b = 10 then ([] :: lines, last)
    else
      match lines with
      | [] => ([], b :: last)
      | first :: others => ((b :: first) :: others, last)

/-- The lines that some bytes hold. -/
def linesOf (bytes : ByteArray) : List Input :=
  let (lines, last) := splitLines bytes.toList
  lines.map (ofBytes · true) ++ if last.isEmpty then [] else [ofBytes last false]

end Input
end RemoteConsole
