import RemoteConsole.Settings.Reading

/-!
# Finding settings

Settings are looked for in the user's directory and in the project's, and the
project's are laid over the user's. A layer that is no file counts as not there; a
file that cannot be read, or does not hold settings, is left out with a warning.
-/

namespace RemoteConsole

/-- The files that can be read: the bytes of a path, unless it is no file. -/
abbrev Files := String → Option ByteArray

/-- Values by name, such as those a program is started with. -/
abbrev Environment := String → Option String

def joinPath (dir rest : String) : String :=
  if dir.isEmpty then rest
  else if dir.toList.getLast? == some '/' then dir ++ rest
  else dir ++ "/" ++ rest

namespace Settings

/-- Why a file gives no settings. -/
inductive LoadError where
  | unreadable (path reason : String)
  | invalid
  deriving Repr, DecidableEq

/-- What is shown for a file that gives no settings. -/
def LoadError.message : LoadError → String
  | unreadable path reason => "cannot read " ++ path ++ ": " ++ reason
  | invalid => "invalid wcterm config: not a settings document"

def ofBytes (path : String) (bytes : ByteArray) : Except LoadError Settings :=
  match String.fromUTF8? bytes with
  | none => .error (.unreadable path "stream did not contain valid UTF-8")
  | some text =>
    match ofText? text with
    | some s => .ok s
    | none => .error .invalid

def load (files : Files) (path : String) : Except LoadError Settings :=
  match files path with
  | none => .error (.unreadable path "No such file or directory (os error 2)")
  | some bytes => ofBytes path bytes

/-- A place where settings were looked for. -/
structure Source where
  path : String
  /-- Whether settings were found there. -/
  loaded : Bool
  deriving Repr, DecidableEq

/-- What a search for settings came to. -/
structure Found where
  settings : Settings := {}
  /-- The places in the order they were looked at. -/
  sources : List Source := []
  warnings : List String := []
  deriving Repr, DecidableEq

namespace Found

/-- Look at one more place. -/
def look (files : Files) (f : Found) (path : String) : Found :=
  match files path with
  | none => { f with sources := f.sources ++ [⟨path, false⟩] }
  | some bytes =>
    match ofBytes path bytes with
    | .ok s => { f with settings := s.onto f.settings, sources := f.sources ++ [⟨path, true⟩] }
    | .error e =>
      { f with
        sources := f.sources ++ [⟨path, false⟩]
        warnings := f.warnings ++ ["Failed to load " ++ path ++ ": " ++ e.message] }

/-- The paths where settings were found. -/
def loadedFrom (f : Found) : List String := (f.sources.filter (·.loaded)).map (·.path)

end Found

/-- Look at some places one after the other. Later ones count more. -/
def search (files : Files) (paths : List String) : Found := paths.foldl (Found.look files) {}

/-- The name of the file in the user's directory. -/
def userFile : String := "config.toml"

/-- The name of the file in the project's directory. -/
def projectFile : String := "wcterm.toml"

/-- The user's directory: the one that is named, or else a fixed one below the
directory for settings, which has to be an absolute path, or below the home. -/
def userDir (env : Environment) : Option String :=
  match (env "WCTERM_CONFIG_DIR").filter (!·.isEmpty) with
  | some dir => some dir
  | none =>
    let base := ((env "XDG_CONFIG_HOME").filter (·.toList.head? == some '/')).orElse fun _ =>
      ((env "HOME").filter (!·.isEmpty)).map (joinPath · ".config")
    base.map (joinPath · "wcterm")

def userPath (env : Environment) : Option String := (userDir env).map (joinPath · userFile)

/-- Look for settings in the user's file, if there is one, and in the project's. -/
def discover (files : Files) (user : Option String) (projectDir : String) : Found :=
  search files (user.toList ++ [joinPath projectDir projectFile])

end Settings
end RemoteConsole
