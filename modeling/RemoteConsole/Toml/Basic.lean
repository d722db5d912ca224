/-!
# TOML values and how tables grow

A document is a table that grows statement by statement. A header opens a table or
adds an element to a list of tables, and an assignment gives a name a value. No
name is given a value twice. A table remembers what made it, because that decides
what may still be done with it: a header may open a table that so far was only
passed through, a dotted name may only go through tables that dotted names or
passing through made, and a table written in braces is closed.
-/

namespace RemoteConsole

/-- What made a table. -/
inductive Toml.Origin where
  /-- A header, or the document itself. -/
  | header
  /-- A header that passes through it. -/
  | passed
  /-- A dotted name. -/
  | dotted
  | braces
  deriving Repr, DecidableEq

/-- A TOML value. Real numbers and moments in time are told apart from other values
but are not kept. -/
inductive Toml where
  | text (s : String)
  | whole (n : Int)
  | real
  | bool (b : Bool)
  | moment
  /-- A list; it is open if headers add its elements. -/
  | list (isOpen : Bool) (items : List Toml)
  | table (origin : Toml.Origin) (fields : List (String × Toml))
  deriving Repr

namespace Toml

instance : Inhabited Toml := ⟨moment⟩

/-- The fields of a table. -/
abbrev Fields := List (String × Toml)

def Fields.get? (fields : Fields) (name : String) : Option Toml :=
  (fields.find? (·.1 == name)).map (·.2)

/-- Change the value of a name. -/
def Fields.set (fields : Fields) (name : String) (v : Toml) : Fields :=
  fields.map fun (k, w) => if k == name then (k, v) else (k, w)

/-- Add a name at the end. -/
def Fields.add (fields : Fields) (name : String) (v : Toml) : Fields := fields ++ [(name, v)]

/-- Where a name leads: the tables passed through, and the name in the last one. -/
structure Path where
  tables : List String
  name : String
  deriving Repr, DecidableEq

/-- Go through tables from the given one, which `origin` made, and change the last
one. Tables that are missing are made. A list stands for its last element. -/
def go (dotted : Bool) (change : Origin → Fields → Option Fields) :
    List String → Origin → Fields → Option Fields
  | [], origin, fields => change origin fields
  | name :: rest, _, fields =>
    match fields.get? name with
    | none => do
      let origin := if dotted then .dotted else .passed
      return fields.add name (.table origin (← go dotted change rest origin []))
    | some (.table origin inner) =>
      if origin = .braces || (dotted && origin = .header) then none
      else do return fields.set name (.table origin (← go dotted change rest origin inner))
    | some (.list true items) =>
      match items.getLast? with
      | some (.table origin inner) => do
        let last := table origin (← go dotted change rest origin inner)
        return fields.set name (.list true (items.dropLast ++ [last]))
      | _ => none
    | some _ => none

def assign (path : Path) (v : Toml) (fields : Fields) : Option Fields :=
  go true (fun origin inner =>
      if !path.tables.isEmpty && origin != .dotted then none
      else if (inner.get? path.name).isSome then none
      else some (inner.add path.name v))
    path.tables .header fields

def openTable (path : Path) (fields : Fields) : Option Fields :=
  go false (fun _ inner =>
      match inner.get? path.name with
      | none => some (inner.add path.name (.table .header []))
      | some (.table .passed own) => some (inner.set path.name (.table .header own))
      | some _ => none)
    path.tables .header fields

/-- Add an element to a list of tables. -/
def openElement (path : Path) (fields : Fields) : Option Fields :=
  go false (fun _ inner =>
      match inner.get? path.name with
      | none => some (inner.add path.name (.list true [.table .header []]))
      | some (.list true items) =>
        some (inner.set path.name (.list true (items ++ [.table .header []])))
      | some _ => none)
    path.tables .header fields

inductive Statement where
  | openTable (path : Path)
  | openElement (path : Path)
  | assign (path : Path) (v : Toml)
  deriving Repr

/-- The table that assignments go to, and the whole document so far. -/
structure Progress where
  current : List String := []
  fields : Fields := []
  deriving Repr

/-- Take in a statement. -/
def Progress.take (p : Progress) : Statement → Option Progress
  | .openTable path => do
    return { current := path.tables ++ [path.name], fields := ← Toml.openTable path p.fields }
  | .openElement path => do
    return { current := path.tables ++ [path.name], fields := ← Toml.openElement path p.fields }
  | .assign path v => do
    return { p with fields := ← go false (fun _ => Toml.assign path v) p.current .header p.fields }

/-- The document that a list of statements makes. -/
def ofStatements (l : List Statement) : Option Fields :=
  (l.foldlM Progress.take {}).map Progress.fields

end Toml
end RemoteConsole
