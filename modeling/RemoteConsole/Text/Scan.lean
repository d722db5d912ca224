/-!
# Scanners

A scanner reads something at the front of a text and leaves the rest, or refuses.
Scanners are put together with `do`; `<|>` tries a second one at the same place
when the first refuses.
-/

namespace RemoteConsole

/-- Reads something at the front of a text. -/
abbrev Scan (α : Type) := StateT (List Char) Option α

namespace Scan

variable {α β : Type}

/-- Read one character of a class. -/
def one (p : Char → Bool) : Scan Char
  | c :: r => if p c then some (c, r) else none
  | [] => none

def char (c : Char) : Scan Char := one (· == c)

def word : List Char → Scan Unit
  | [] => pure ()
  | c :: r => do
    let _ ← char c
    word r

/-- Read all characters of a class. There may be none. -/
def spanOf (p : Char → Bool) : Scan (List Char) :=
  fun s => some (s.takeWhile p, s.dropWhile p)

/-- Read all characters of a class. There must be one. -/
def spanOf1 (p : Char → Bool) : Scan (List Char) := do
  let c ← one p
  let cs ← spanOf p
  return c :: cs

/-- Look at the next character. -/
def next? : Scan (Option Char) := fun s => some (s.head?, s)

/-- Read something if it is there. -/
def option (x : Scan α) : Scan (Option α) := fun s =>
  match x s with
  | some (a, r) => some (some a, r)
  | none => some (none, s)

/-- Refuse unless the text is over. -/
def atEnd : Scan Unit := fun s => if s.isEmpty then some ((), s) else none

/-- Refuse unless a condition holds. -/
def require (b : Bool) : Scan Unit := if b then pure () else failure

/-- Read something as often as it is there, but at most so many times. -/
def upTo (x : Scan α) : Nat → Scan (List α)
  | 0 => pure []
  | n + 1 => do
    match ← option x with
    | none => return []
    | some a =>
      let as ← upTo x n
      return a :: as

/-- Read something as often as it is there. It must take at least one character
each time. -/
def many (x : Scan α) : Scan (List α) := fun s => upTo x s.length s

/-- Read something a given number of times. -/
def times (x : Scan α) : Nat → Scan (List α)
  | 0 => pure []
  | n + 1 => do
    let a ← x
    let as ← times x n
    return a :: as

/-- Read something at least once, with a separator between one and the next. -/
def separated (x : Scan α) (separator : Scan β) : Scan (List α) := do
  let a ← x
  let as ← many (do let _ ← separator; x)
  return a :: as

/-- What a scanner makes of a whole text. -/
def run (x : Scan α) (s : List Char) : Option α :=
  match x s with
  | some (a, []) => some a
  | _ => none

end Scan
end RemoteConsole
