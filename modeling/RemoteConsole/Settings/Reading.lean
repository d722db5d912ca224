import RemoteConsole.Settings.Sections
import RemoteConsole.Toml.Document

/-!
# Reading settings

Settings are written as a TOML document with a table for each section. A section
may also be written as a list of its first values in order. What a section does
not say keeps its default, and names that mean nothing are passed over, so a
moment, which says nothing, leaves a section at its defaults. A value of the wrong
kind or out of range makes the whole document unreadable.
-/

namespace RemoteConsole
namespace Settings

def readText : Toml → Option String
  | .text s => some s
  | _ => none

def readBool : Toml → Option Bool
  | .bool b => some b
  | _ => none

/-- Read a whole number from zero up, below a bound. -/
def readBelow (bound : Nat) : Toml → Option Nat
  | .whole n => if 0 ≤ n && n < bound then some n.toNat else none
  | _ => none

def readPort (v : Toml) : Option UInt16 := (readBelow (Nat.pow 2 16) v).map UInt16.ofNat

/-- Read a number of 64 bits. -/
def readWord (v : Toml) : Option UInt64 := (readBelow (Nat.pow 2 64) v).map UInt64.ofNat

/-- The names of a section in order, each with how its value is taken in. -/
abbrev SectionReader (σ : Type) := List (String × (σ → Toml → Option σ))

/-- Take in a value by reading it first. -/
def taking {σ α : Type} (read : Toml → Option α) (set : σ → α → σ) (s : σ) (v : Toml) :
    Option σ :=
  (read v).map (set s)

/-- Read a section, starting from its defaults. -/
def readSection {σ : Type} (reader : SectionReader σ) (defaults : σ) : Toml → Option σ
  | .table _ fields =>
    fields.foldlM (fun s (name, v) =>
      match reader.find? (·.1 == name) with
      | some (_, take) => take s v
      | none => some s) defaults
  | .list _ items => (reader.zip items).foldlM (fun s (entry, v) => entry.2 s v) defaults
  | .moment => some defaults
  | _ => none

def serverReader : SectionReader ServerSection :=
  [("bind", taking readText fun s v => { s with bind := v }),
   ("port", taking readPort fun s v => { s with port := v }),
   ("path", taking readText fun s v => { s with path := v }),
   ("name", taking readText fun s v => { s with name := v }),
   ("id", taking readText fun s v => { s with id := v }),
   ("address", taking readText fun s v => { s with address := some v }),
   ("user", taking readText fun s v => { s with user := v }),
   ("password_hash", taking readText fun s v => { s with passwordHash := v }),
   ("token", taking readText fun s v => { s with token := some v })]

def clientReader : SectionReader ClientSection :=
  [("server_url", taking readText fun s v => { s with serverUrl := v }),
   ("path", taking readText fun s v => { s with path := v }),
   ("timeout_secs", taking readWord fun s v => { s with timeoutSeconds := v }),
   ("rpc", taking readBool fun s v => { s with remote := v }),
   ("history_limit", taking readWord fun s v => { s with historyLimit := v }),
   ("prompt", taking readText fun s v => { s with prompt := v }),
   ("greeting", taking readText fun s v => { s with greeting := some v })]

def loggingReader : SectionReader LoggingSection :=
  [("level", taking readText fun s v => { s with level := v }),
   ("file", taking readBool fun s v => { s with file := v }),
   ("dir", taking readText fun s v => { s with dir := some v })]

def reader : SectionReader Settings :=
  [("server", taking (readSection serverReader {}) fun s v => { s with server? := some v }),
   ("client", taking (readSection clientReader {}) fun s v => { s with client? := some v }),
   ("logging", taking (readSection loggingReader {}) fun s v => { s with logging? := some v })]

def ofText? (s : String) : Option Settings :=
  (Toml.ofText? s).bind fun fields => readSection reader {} (.table .header fields)

end Settings
end RemoteConsole
