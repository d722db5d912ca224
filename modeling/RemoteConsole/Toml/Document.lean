import RemoteConsole.Toml.Number

/-!
# Reading a TOML document

`Toml.ofText?` reads a document as a row of statements, each on a line of its own,
and gives the table they make. Containers may stand one in another `maxLevels`
deep.
-/

namespace RemoteConsole
namespace Toml.Grammar

open Scan

/-- A list between brackets, given how its items are read. -/
def listOf (item : Scan Toml) : Scan Toml := do
  let _ ← char '['
  let items ← option (do
    let items ← separated (do gap; let v ← item; gap; return v) (char ',')
    let _ ← option (char ',')
    return items)
  gap
  let _ ← char ']'
  return .list false (items.getD [])

/-- A name and its value, given how values are read. -/
def assignment (value : Scan Toml) : Scan (Path × Toml) := do
  let p ← path
  let _ ← char '='
  blanks
  let v ← value
  return (p, v)

/-- A table between braces, given how its values are read. -/
def tableOf (value : Scan Toml) : Scan Toml := do
  let _ ← char '\x7b'
  let pairs ← option (separated (do let p ← assignment value; blanks; return p) (char ','))
  blanks
  let _ ← char '\x7d'
  match (pairs.getD []).foldlM (fun fields (p, v) => assign p v fields) [] with
  | some fields => return .table .braces fields
  | none => failure

/-- A value that holds no others. -/
def scalar : Scan Toml := do
  match ← next? with
  | some '"' => return .text (← anyString '"')
  | some '\'' => return .text (← anyString '\'')
  | some 't' => word ['t', 'r', 'u', 'e']; return .bool true
  | some 'f' => word ['f', 'a', 'l', 's', 'e']; return .bool false
  | _ => numeric

/-- A value with at most so many containers one in another. -/
def value : Nat → Scan Toml
  | 0 => scalar
  | levels + 1 => do
    match ← next? with
    | some '[' => listOf (value levels)
    | some '\x7b' => tableOf (value levels)
    | _ => scalar

def header : Scan Statement :=
  (do
    word ['[', '[']
    let p ← path
    word [']', ']']
    return .openElement p) <|>
  (do
    word ['[']
    let p ← path
    word [']']
    return .openTable p)

def statement : Scan Statement := do
  match ← next? with
  | some '[' => header
  | _ =>
    let (p, v) ← assignment (value maxLevels)
    return .assign p v

/-- A line with a statement, a comment or nothing on it. -/
def line : Scan (Option Statement) := do
  blanks
  match ← next? with
  | none => failure
  | some '#' => comment; lineEnd; return none
  | some '\n' | some '\r' => newline; return none
  | _ =>
    let s ← statement
    trailing
    return some s

/-- All statements of a document. A byte order mark in front does not count. -/
def document : Scan (List Statement) := do
  let _ ← option (char '\ufeff')
  let lines ← many line
  blanks
  atEnd
  return lines.filterMap id

end Toml.Grammar

/-- The table of a document. -/
def Toml.ofText? (s : String) : Option Toml.Fields :=
  (Toml.Grammar.document.run s.toList).bind ofStatements

end RemoteConsole
