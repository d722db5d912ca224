/-!
# Internet addresses and their text

`IpAddress.text` writes an address in its standard form: four decimal bytes, or
eight groups in hexadecimal of which the first longest run of zero groups, if it
has at least two, is written `::`. A socket address adds a port, and a scope if it
has one; the groups then stand in brackets. `SocketAddress.ofText?` reads a socket
address. It also takes groups with leading zeros, upper-case digits, any one run of
zero groups as `::`, and four decimal bytes in place of the last two groups.
-/

namespace RemoteConsole

inductive IpAddress where
  | v4 (a b c d : UInt8)
  | v6 (groups : Vector UInt16 8)
  deriving Repr, DecidableEq

/-- An internet address with a port. -/
structure SocketAddress where
  ip : IpAddress
  port : UInt16
  /-- The zone an address of groups belongs to. -/
  scope : UInt32 := 0
  deriving Repr, DecidableEq

namespace IpAddress

def decimal (n : Nat) : List Char := Nat.toDigits 10 n

/-- Four bytes with points between them. -/
def textOfBytes (a b c d : Nat) : List Char :=
  decimal a ++ '.' :: decimal b ++ '.' :: decimal c ++ '.' :: decimal d

/-- Groups in hexadecimal with colons between them. -/
def textOfGroups (gs : List UInt16) : List Char :=
  [':'].intercalate (gs.map fun g => Nat.toDigits 16 g.toNat)

/-- The length of the run of zeros at the front. -/
def zeroRun (gs : List UInt16) : Nat := (gs.takeWhile (· == 0)).length

/-- The place and length of the first longest run of zeros. -/
def longestRun : List UInt16 → Nat × Nat
  | [] => (0, 0)
  | g :: r =>
    let here := zeroRun (g :: r)
    let (start, length) := longestRun r
    if length ≤ here then (0, here) else (start + 1, length)

/-- Whether the groups stand for an address of four bytes. -/
def isMapped (gs : List UInt16) : Bool := gs.take 6 == [0, 0, 0, 0, 0, 0xFFFF]

/-- The standard text of an address. -/
def text : IpAddress → List Char
  | v4 a b c d => textOfBytes a.toNat b.toNat c.toNat d.toNat
  | v6 groups =>
    let gs := groups.toList
    if isMapped gs then
      let g := (gs.getD 6 0).toNat
      let h := (gs.getD 7 0).toNat
      [':', ':', 'f', 'f', 'f', 'f', ':'] ++ textOfBytes (g / 256) (g % 256) (h / 256) (h % 256)
    else
      let (start, length) := longestRun gs
      if 1 < length then
        textOfGroups (gs.take start) ++ ':' :: ':' :: textOfGroups (gs.drop (start + length))
      else textOfGroups gs

/-- The value of a digit to a base of at most sixteen. -/
def digit? (base : Nat) (c : Char) : Option Nat :=
  let n :=
    if '0' ≤ c && c ≤ '9' then c.toNat - 48
    else if 'a' ≤ c && c ≤ 'f' then c.toNat - 87
    else if 'A' ≤ c && c ≤ 'F' then c.toNat - 55
    else 16
  if n < base then some n else none

/-- All digits at the front of a text, their value, and the rest. There must be at
least one. -/
def number? (base : Nat) (s : List Char) : Option (List Char × Nat × List Char) :=
  let ds := s.takeWhile fun c => (digit? base c).isSome
  if ds.isEmpty then none
  else some (ds, ds.foldl (fun n c => n * base + (digit? base c).getD 0) 0,
    s.dropWhile fun c => (digit? base c).isSome)

def byte? (s : List Char) : Option (UInt8 × List Char) := do
  let (ds, n, rest) ← number? 10 s
  if ds.length ≤ 3 && n < 256 && !(ds.head? == some '0' && 1 < ds.length) then
    some (UInt8.ofNat n, rest)
  else none

/-- What follows a given character. -/
def skip? (c : Char) : List Char → Option (List Char)
  | [] => none
  | d :: r => if d = c then some r else none

/-- Four bytes with points between them. -/
def bytes? (s : List Char) : Option ((UInt8 × UInt8 × UInt8 × UInt8) × List Char) := do
  let (a, s) ← byte? s
  let (b, s) ← byte? (← skip? '.' s)
  let (c, s) ← byte? (← skip? '.' s)
  let (d, s) ← byte? (← skip? '.' s)
  return ((a, b, c, d), s)

def group? (s : List Char) : Option (UInt16 × List Char) := do
  let (ds, n, rest) ← number? 16 s
  if ds.length ≤ 4 then some (UInt16.ofNat n, rest) else none

def groupsOfBytes : UInt8 × UInt8 × UInt8 × UInt8 → List UInt16
  | (a, b, c, d) => [UInt16.ofNat (a.toNat * 256 + b.toNat), UInt16.ofNat (c.toNat * 256 + d.toNat)]

/-- At most `n` groups with colons between them; the last two may be written as
four bytes. Gives the groups, whether they end in bytes, and the rest. -/
def groups (first : Bool) : Nat → List Char → List UInt16 × Bool × List Char
  | 0, s => ([], false, s)
  | n + 1, s =>
    match if first then some s else skip? ':' s with
    | none => ([], false, s)
    | some r =>
      match if n = 0 then none else bytes? r with
      | some (bs, rest) => (groupsOfBytes bs, true, rest)
      | none =>
        match group? r with
        | some (g, rest) =>
          let (gs, endsInBytes, rest) := groups false n rest
          (g :: gs, endsInBytes, rest)
        | none => ([], false, s)

def ofGroups? (gs : List UInt16) : Option IpAddress :=
  if h : gs.length = 8 then some (v6 ⟨gs.toArray, by simpa using h⟩) else none

def v6? (s : List Char) : Option (IpAddress × List Char) := do
  let (head, endsInBytes, rest) := groups true 8 s
  if head.length = 8 then
    return (← ofGroups? head, rest)
  else if endsInBytes then none
  else
    let rest ← skip? ':' rest
    let rest ← skip? ':' rest
    let (tail, _, rest) := groups true (7 - head.length) rest
    return (← ofGroups? (head ++ List.replicate (8 - head.length - tail.length) 0 ++ tail), rest)

def v4? (s : List Char) : Option (IpAddress × List Char) := do
  let ((a, b, c, d), rest) ← bytes? s
  return (v4 a b c d, rest)

end IpAddress

namespace SocketAddress

open IpAddress

def text (s : SocketAddress) : String :=
  String.ofList <|
    match s.ip with
    | .v4 .. => s.ip.text ++ ':' :: decimal s.port.toNat
    | .v6 _ =>
      '[' :: s.ip.text ++ (if s.scope = 0 then [] else '%' :: decimal s.scope.toNat)
        ++ ']' :: ':' :: decimal s.port.toNat

/-- A number in decimal below a bound. -/
def bounded? (bound : Nat) (s : List Char) : Option (Nat × List Char) := do
  let (_, n, rest) ← number? 10 s
  if n < bound then some (n, rest) else none

def port? (s : List Char) : Option (UInt16 × List Char) := do
  let (n, rest) ← bounded? (Nat.pow 2 16) (← skip? ':' s)
  return (UInt16.ofNat n, rest)

/-- The scope behind a percent sign, if there is one. -/
def readScope (s : List Char) : UInt32 × List Char :=
  match (skip? '%' s).bind (bounded? (Nat.pow 2 32)) with
  | some (n, rest) => (UInt32.ofNat n, rest)
  | none => (0, s)

def v4? (s : List Char) : Option (SocketAddress × List Char) := do
  let (ip, s) ← IpAddress.v4? s
  let (port, s) ← port? s
  return ({ ip, port }, s)

def v6? (s : List Char) : Option (SocketAddress × List Char) := do
  let (ip, s) ← IpAddress.v6? (← skip? '[' s)
  let (scope, s) := readScope s
  let (port, s) ← port? (← skip? ']' s)
  return ({ ip, port, scope }, s)

def ofText? (text : String) : Option SocketAddress :=
  match (v4? text.toList).orElse fun _ => v6? text.toList with
  | some (a, []) => some a
  | _ => none

end SocketAddress
end RemoteConsole
