import RemoteConsole.Entries
import RemoteConsole.Json.Numeral

/-!
# JSON values and their text

`Json.print` writes a value without any blanks. Of a string only the two
characters `"` and `\` and the control characters below U+0020 are escaped. The
fields of an object are written in the order they have; `Json.ofFields` brings
them into ascending order and keeps the last of several equal keys.
-/

namespace RemoteConsole

/-- A JSON value. -/
inductive Json where
  | null
  | bool (b : Bool)
  | number (n : Json.Number)
  | string (s : String)
  | array (items : List Json)
  | object (fields : List (String × Json))
  deriving Repr

namespace Json

instance : Inhabited Json := ⟨null⟩

/-- A whole number as a value. -/
def ofInt (n : Int) : Json := number (.whole n)

/-- An object from fields in any order. -/
def ofFields (fields : List (String × Json)) : Json := object (Entries.ofList fields)

/-- A list of strings as a value. -/
def ofStrings (l : List String) : Json := array (l.map string)

def hexDigit (n : Nat) : Char := Nat.digitChar n

/-- The characters that stand for `c` inside a string. -/
def escape (c : Char) : List Char :=
  if c = '"' then ['\\', '"']
  else if c = '\\' then ['\\', '\\']
  else if c.toNat < 0x20 then
    if c = '\x08' then ['\\', 'b']
    else if c = '\t' then ['\\', 't']
    else if c = '\n' then ['\\', 'n']
    else if c = '\x0c' then ['\\', 'f']
    else if c = '\r' then ['\\', 'r']
    else ['\\', 'u', '0', '0', hexDigit (c.toNat / 16), hexDigit (c.toNat % 16)]
  else [c]

def quote (s : List Char) : List Char := '"' :: s.flatMap escape ++ ['"']

mutual

/-- The text of a value. -/
def print : Json → List Char
  | null => ['n', 'u', 'l', 'l']
  | bool true => ['t', 'r', 'u', 'e']
  | bool false => ['f', 'a', 'l', 's', 'e']
  | number n => (Numeral.ofNumber n).text
  | string s => quote s.toList
  | array items => '[' :: printItems items ++ [']']
  | object fields => '{' :: printFields fields ++ ['}']

def printItems : List Json → List Char
  | [] => []
  | v :: r => print v ++ (if r.isEmpty then [] else [',']) ++ printItems r

def printFields : List (String × Json) → List Char
  | [] => []
  | (k, v) :: r =>
    quote k.toList ++ ':' :: print v ++ (if r.isEmpty then [] else [',']) ++ printFields r

end

def text (v : Json) : String := String.ofList v.print

/-- Whether a value counts as true: all do but `null`, `false`, zero and the empty
string. -/
def isTruthy : Json → Bool
  | null => false
  | bool b => b
  | number (.whole n) => n != 0
  | number (.real x) => !x.isZero
  | string s => !s.isEmpty
  | array _ => true
  | object _ => true

/-- What is shown for a value: a string as it is, anything else as its text. -/
def shown : Json → String
  | string s => s
  | v => v.text

end Json
end RemoteConsole
