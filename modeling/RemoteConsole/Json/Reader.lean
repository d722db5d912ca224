import RemoteConsole.Json.Document

/-!
# Reading records from JSON

A reader turns a document into a typed value, or says which of two faults comes
first in the text: the text is not JSON there (`malformed`), or it is JSON of
another shape (`mismatched`). A value that is kept may be nested `maxLevels` deep,
and its strings and numbers must be good; a value that is skipped must only be
JSON.

A record is an object with its fields in any order, or an array of the fields in
their declared order. Unknown fields are skipped and a field given twice is a
mismatch.
-/

namespace RemoteConsole
namespace Json

/-- Why a text cannot be read. -/
inductive Fault where
  /-- The text is not JSON. -/
  | malformed
  /-- The JSON has another shape. -/
  | mismatched
  deriving Repr, DecidableEq

/-- How deep the containers of a kept value may be nested. -/
def maxLevels : Nat := 127

/-- Reads a value, given how many levels of containers are still allowed. -/
abbrev Reader (α : Type) := Nat → Node → Except Fault α

namespace Node

mutual

/-- Whether a skipped value is JSON throughout. -/
def isSound : Node → Bool
  | broken => false
  | array items closed => closed && areSound items
  | object fields closed => closed && fieldsAreSound fields
  | _ => true

def areSound : List Node → Bool
  | [] => true
  | n :: r => isSound n && areSound r

def fieldsAreSound : List (List Piece × Node) → Bool
  | [] => true
  | (_, n) :: r => isSound n && fieldsAreSound r

end

mutual

/-- The value of a document with at most the given levels of containers. -/
def value? : Nat → Node → Option Json
  | _, broken => none
  | _, null => some .null
  | _, bool b => some (.bool b)
  | _, number n => n.value?.map .number
  | _, string s => (Piece.text? s).map fun s => .string (String.ofList s)
  | levels, array items closed =>
    if levels = 0 || !closed then none else (values? (levels - 1) items).map .array
  | levels, object fields closed =>
    if levels = 0 || !closed then none
    else (fieldValues? (levels - 1) fields).map .ofFields

def values? : Nat → List Node → Option (List Json)
  | _, [] => some []
  | levels, n :: r => do
    let v ← value? levels n
    let vs ← values? levels r
    return v :: vs

/-- The fields of an object, in the order of the text. -/
def fieldValues? : Nat → List (List Piece × Node) → Option (List (String × Json))
  | _, [] => some []
  | levels, (k, n) :: r => do
    let k ← Piece.text? k
    let v ← value? levels n
    let vs ← fieldValues? levels r
    return (String.ofList k, v) :: vs

end

/-- The fault of a document that has another shape than the one wanted. A bad
string or number is found first. -/
def mismatch : Node → Fault
  | broken => .malformed
  | number n => if n.value?.isSome then .mismatched else .malformed
  | string s => if (Piece.text? s).isSome then .mismatched else .malformed
  | _ => .mismatched

end Node

namespace Reader

def value : Reader Json := fun levels n =>
  match n.value? levels with
  | some v => .ok v
  | none => .error .malformed

def number : Reader Number
  | _, .number n =>
    match n.value? with
    | some v => .ok v
    | none => .error .malformed
  | _, n => .error n.mismatch

/-- A whole number of 64 bits without sign. -/
def word : Reader UInt64 := fun levels n => do
  match ← number levels n with
  | .whole v => if 0 ≤ v then .ok (UInt64.ofNat v.toNat) else .error .mismatched
  | .real _ => .error .mismatched

/-- A whole number of 64 bits with sign. -/
def signedWord : Reader Int64 := fun levels n => do
  match ← number levels n with
  | .whole v => if v < (Nat.pow 2 63 : Nat) then .ok (Int64.ofInt v) else .error .mismatched
  | .real _ => .error .mismatched

def string : Reader String
  | _, .string s =>
    match Piece.text? s with
    | some t => .ok (String.ofList t)
    | none => .error .malformed
  | _, n => .error n.mismatch

def optional {α : Type} (r : Reader α) : Reader (Option α)
  | _, .null => .ok none
  | levels, n => (r levels n).map some

def list {α : Type} (r : Reader α) : Reader (List α)
  | levels, .array items closed =>
    if levels = 0 then .error .malformed
    else do
      let vs ← items.mapM (r (levels - 1))
      if closed then .ok vs else .error .malformed
  | _, n => .error n.mismatch

end Reader

/-- Reads one field into the part of a record read so far. -/
abbrev FieldReader (σ : Type) := Nat → Node → σ → Except Fault σ

/-- Read a field that must not have been read before. -/
def once {σ β : Type} (get : σ → Option β) (set : σ → β → σ) (r : Reader β) : FieldReader σ :=
  fun levels n s =>
    if (get s).isSome then .error .mismatched else (r levels n).map (set s)

/-- How a record is read: its fields in their declared order, each with what
reading it does to the part read so far, and what makes a record of that part. -/
structure RecordReader (σ α : Type) where
  /-- The names of the fields in order, each with its reader. -/
  fields : List (String × FieldReader σ)
  /-- Nothing read so far. -/
  start : σ
  /-- The record, when no more fields come. -/
  finish : σ → Except Fault α
  /-- The record, when an array ends after this many fields. -/
  finishShort : Nat → σ → Except Fault α := fun _ => finish

namespace RecordReader

variable {σ α : Type}

def readFields (r : RecordReader σ α) (levels : Nat) :
    List (List Piece × Node) → σ → Except Fault σ
  | [], s => .ok s
  | (k, n) :: rest, s =>
    match Piece.text? k with
    | none => .error .malformed
    | some k =>
      match Entries.get? (String.ofList k) r.fields with
      | some read => do
        let s ← read levels n s
        readFields r levels rest s
      | none => if n.isSound then readFields r levels rest s else .error .malformed

/-- Read the items of an array as fields in order. Gives the part read and the
items left over. -/
def readItems (levels : Nat) :
    List (String × FieldReader σ) → List Node → σ →
      Except Fault (σ × List Node)
  | [], items, s => .ok (s, items)
  | _ :: _, [], s => .ok (s, [])
  | (_, read) :: fields, n :: items, s => do
    let s ← read levels n s
    readItems levels fields items s

def read (r : RecordReader σ α) : Reader α
  | levels, .object fields closed =>
    if levels = 0 then .error .malformed
    else do
      let s ← r.readFields (levels - 1) fields r.start
      if closed then r.finish s else .error .malformed
  | levels, .array items closed =>
    if levels = 0 then .error .malformed
    else do
      let (s, extra) ← readItems (levels - 1) r.fields items r.start
      if items.length < r.fields.length then
        if closed then r.finishShort items.length s else .error .malformed
      else do
        let v ← r.finish s
        if closed && extra.isEmpty then .ok v else .error .malformed
  | _, n => .error n.mismatch

end RecordReader

/-- Read a whole text: a value with nothing behind it. -/
def readText {α : Type} (r : Reader α) (text : String) : Except Fault α := do
  let d := Document.ofText text.toList
  let v ← r maxLevels d.root
  if d.trailing then .error .malformed else .ok v

/-- Read a value that is at hand. -/
def readValue {α : Type} (r : Reader α) (v : Json) : Except Fault α := r maxLevels v.toNode

def parse? (text : String) : Option Json := (readText Reader.value text).toOption

end Json
end RemoteConsole
