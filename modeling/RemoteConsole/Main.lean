import RemoteConsole.Program.App

/-!
# The command line

Reads the arguments, the environment, the files with settings and the keyboard, and
writes what `App` and `Session` say. There is no network here, so no peer answers
and no address can be listened on.
-/

namespace RemoteConsole
namespace CommandLine

/-- The variables the program looks at. -/
def variableNames : List String :=
  [Arguments.dirVariable, "XDG_CONFIG_HOME", "HOME", "WCTERM_SERVER_URL", "WCTERM_PASSWORD",
   "WCTERM_TOKEN"]

def readEnvironment : IO Environment := do
  let mut known : List (String × String) := []
  for name in variableNames do
    if let some v ← IO.getEnv name then
      known := (name, v) :: known
  let pairs := known
  return fun name => (pairs.find? (·.1 == name)).map (·.2)

/-- The bytes of a file, if it can be read. -/
def readBytes (path : String) : IO (Option ByteArray) := do
  try
    return some (← IO.FS.readBinFile path)
  catch _ =>
    return none

/-- The files at some paths. -/
def readFiles (paths : List String) : IO Files := do
  let mut known : List (String × ByteArray) := []
  for path in paths do
    if let some bytes ← readBytes path then
      known := (path, bytes) :: known
  let pairs := known
  return fun path => (pairs.find? (·.1 == path)).map (·.2)

def readInput : IO Input := do
  try
    let line ← (← IO.getStdin).getLine
    if line.isEmpty then return .closed
    let bytes := line.toUTF8.toList
    return if bytes.getLast? == some 10 then .ofBytes bytes.dropLast true
      else .ofBytes bytes false
  catch _ =>
    return .undecodable

def readPassword : IO (Option String) := do
  IO.print "password: "
  (← IO.getStdout).flush
  match ← readInput with
  | .line text => return some text
  | _ => return none

/-- Write what became visible. -/
def write (l : List Output) : IO Unit := do
  for o in l do
    IO.print o.standard
    IO.eprint o.error
  (← IO.getStdout).flush

/-- Go through a session, of whose output so much has been written. -/
partial def converse (written : Nat) (s : Session) : IO Session := do
  write (s.output.drop written)
  match s.phase with
  | .ended _ => return s
  | .password _ _ => converse s.output.length (s.feedPassword (← readPassword))
  | .username _ | .command => converse s.output.length (s.feed (← readInput))

/-- End with an outcome, of which a given part has been written. -/
def conclude (o : Outcome) : IO UInt32 := do
  IO.print o.output
  IO.eprint o.errors
  return UInt32.ofNat o.code

def runInvocation (env : Environment) (i : Arguments.Invocation) : IO UInt32 := do
  let user := match i.configDir with
    | some dir => some (joinPath dir Settings.userFile)
    | none => Settings.userPath env
  let files ← readFiles (user.toList ++ [Settings.projectFile])
  let w : Surroundings :=
    { environment := env, files, network := .silent
      listen := fun _ => some "Operation not supported (os error 95)" }
  let found := App.settings w i.configDir
  for m in found.warnings do
    IO.eprintln m
  match i.program with
  | .connect p =>
    match p.start w.network found.settings i.verbose with
    | .error e => conclude (App.failure e.message)
    | .ok s =>
      let s ← converse 0 s
      if let .failed m := s.ending then IO.eprintln ("Error: " ++ m)
      return UInt32.ofNat (App.ofSession s).code
  | .exec p =>
    let typed ← if p.user.isSome && p.password.isNone then readPassword else pure none
    conclude (App.runProgram w found.settings i.verbose [] typed.toList i.program)
  | .serve _ => conclude (App.runProgram w found.settings i.verbose [] [] i.program)

end CommandLine
end RemoteConsole

open RemoteConsole in
def main (args : List String) : IO UInt32 := do
  let env ← CommandLine.readEnvironment
  match Arguments.invocation env args with
  | .ok i => CommandLine.runInvocation env i
  | .error _ =>
    let w : Surroundings :=
      { environment := env, files := fun _ => none, network := .silent, listen := fun _ => none }
    CommandLine.conclude (App.run w args [] [])
