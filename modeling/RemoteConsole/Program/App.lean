import RemoteConsole.Program.Arguments

/-!
# The whole program

`App.run` is what the program does with its arguments: it looks for settings, runs
the program the arguments name, and ends with a code. The code of `exec` is that of
its status; a failure has the code 1 and wrong arguments the code 2.
-/

namespace RemoteConsole

/-- What surrounds the program. -/
structure Surroundings where
  environment : Environment
  files : Files
  network : Network
  /-- Why an address cannot be listened on. -/
  listen : SocketAddress → Option String

/-- What is left when the program has ended. -/
structure Outcome where
  code : Nat
  output : String := ""
  errors : String := ""
  deriving Repr, DecidableEq

namespace App

/-- The code of a run that crashed. -/
def crashCode : Nat := 101

def usage : String := "Usage: wcterm [options] <serve|connect|exec> [arguments]\n"

def failure (message : String) (output : String := "") (errors : String := "") : Outcome :=
  { code := 1, output, errors := errors ++ "Error: " ++ message ++ "\n" }

/-- The settings for a run. -/
def settings (w : Surroundings) (configDir : Option String) : Settings.Found :=
  let user :=
    match configDir with
    | some dir => some (joinPath dir Settings.userFile)
    | none => Settings.userPath w.environment
  Settings.discover w.files user ""

/-- The outcome of `exec`. -/
def ofExec (r : Ending Status × List String) : Outcome :=
  let output := String.join (r.2.map (· ++ "\n"))
  match r.1 with
  | .done status => { code := status.code, output }
  | .failed m => failure m output
  | .crashed => { code := crashCode, output }

/-- The outcome of a session. -/
def ofSession (s : Session) : Outcome :=
  match s.ending with
  | .done () => { code := 0, output := s.standardText, errors := s.errorText }
  | .failed m => failure m s.standardText s.errorText
  | .crashed => { code := crashCode, output := s.standardText, errors := s.errorText }

/-- Run a program, with the lines and passwords that are typed. -/
def runProgram (w : Surroundings) (settings : Settings) (verbose : Bool) (lines : List Input)
    (passwords : List String) : Arguments.Program → Outcome
  | .exec p => ofExec (p.run w.network settings passwords.head?)
  | .connect p =>
    match p.start w.network settings verbose with
    | .ok s => ofSession (s.run passwords lines)
    | .error e => failure e.message
  | .serve p =>
    match p.obstacle? w.listen settings with
    | some m => failure m
    | none => { code := 0 }

def run (w : Surroundings) (args : List String) (lines : List Input)
    (passwords : List String) : Outcome :=
  match Arguments.invocation w.environment args with
  | .error .usage => { code := 2, errors := usage }
  | .error .help => { code := 0, output := usage }
  | .error (.version name) => { code := 0, output := name ++ " " ++ Arguments.version ++ "\n" }
  | .ok i => runProgram w (settings w i.configDir).settings i.verbose lines passwords i.program

end App
end RemoteConsole
