import RemoteConsole.Net.Address

/-!
# Absolute URLs

`Url.scheme?` gives the scheme of a text that is an absolute URL and refuses any
other text. Blanks and control characters at both ends, and tabs and line ends
anywhere, do not count. Six schemes are special: a name of a host has to follow,
only `file` may go without, and a backslash counts as a slash. Any other scheme may
be followed by anything, but two slashes start an authority there too.
-/

namespace RemoteConsole
namespace Url

/-- What kind of scheme a URL has. -/
inductive Kind where
  | special
  | file
  | other
  deriving Repr, DecidableEq

def kind (scheme : List Char) : Kind :=
  let s := String.ofList scheme
  if s = "file" then .file
  else if s ∈ ["http", "https", "ws", "wss", "ftp"] then .special
  else .other

/-- Whether a character separates the parts of a path. -/
def isSlash (k : Kind) (c : Char) : Bool := c == '/' || (k != .other && c == '\\')

/-- Whether a character ends an authority. -/
def endsAuthority (k : Kind) (c : Char) : Bool := isSlash k c || c == '?' || c == '#'

/-- A text without blanks and control characters at its ends, and without tabs and
line ends. -/
def tidy (s : List Char) : List Char :=
  let isEdge (c : Char) : Bool := c ≤ ' '
  let s := ((s.dropWhile isEdge).reverse.dropWhile isEdge).reverse
  s.filter fun c => !(c == '\t' || c == '\n' || c == '\r')

def splitScheme (s : List Char) : Option (List Char × List Char) :=
  let isSchemeChar (c : Char) : Bool := c.isAlphanum || c == '+' || c == '-' || c == '.'
  match s.dropWhile isSchemeChar with
  | ':' :: rest =>
    if (s.head?.map Char.isAlpha).getD false then
      some ((s.takeWhile isSchemeChar).map Char.toLower, rest)
    else none
  | _ => none

/-- The bytes that a text with percent signs stands for. -/
def percentDecode : List UInt8 → List UInt8
  | 37 :: a :: b :: rest =>
    match IpAddress.digit? 16 (Char.ofNat a.toNat), IpAddress.digit? 16 (Char.ofNat b.toNat) with
    | some m, some n => UInt8.ofNat (m * 16 + n) :: percentDecode rest
    | _, _ => 37 :: percentDecode (a :: b :: rest)
  | c :: rest => c :: percentDecode rest
  | [] => []

/-- The characters that no name of a host may hold. -/
def isForbidden (c : Char) : Bool :=
  c ≤ ' ' || c == '\x7f' ||
    c ∈ ['#', '/', ':', '<', '>', '?', '@', '[', '\\', ']', '^', '|', '%']

/-- The characters that the name of a host must not hold after a scheme that is
not special. -/
def isForbiddenOpaque (c : Char) : Bool :=
  c ∈ ['\x00', ' ', '#', '/', ':', '<', '>', '?', '@', '[', '\\', ']', '^', '|']

/-- A part of an address of four bytes: decimal, hexadecimal behind `0x`, or octal
behind a zero. -/
def partValue? (s : List Char) : Option Nat :=
  let (base, ds) :=
    match s with
    | '0' :: 'x' :: r | '0' :: 'X' :: r => (16, r)
    | '0' :: c :: r => (8, c :: r)
    | s => (10, s)
  if s.isEmpty then none
  else ds.foldlM (fun n c => (IpAddress.digit? base c).map (n * base + ·)) 0

def parts (s : List Char) : List (List Char) :=
  let ps := (String.ofList s).splitOn "." |>.map String.toList
  if ps.getLast? == some [] then ps.dropLast else ps

/-- Whether a name looks like an address of four bytes. -/
def looksNumeric (s : List Char) : Bool :=
  match (parts s).getLast? with
  | none | some [] => false
  | some p => p.all Char.isDigit || (partValue? p).isSome

/-- Whether a name is an address of four bytes. The last part may stand for several
of them. -/
def isNumericHost (s : List Char) : Bool :=
  let ps := parts s
  match ps.mapM partValue? with
  | none => false
  | some values =>
    let last := values.getLastD 0
    ps.length ≤ 4 && values.dropLast.all (· < 256) && last < Nat.pow 256 (5 - ps.length)

/-- Whether a text in brackets is an address of groups. -/
def isBracketHost (s : List Char) : Bool :=
  match IpAddress.skip? '[' s with
  | none => false
  | some r =>
    match IpAddress.v6? r with
    | some (_, [']']) => true
    | _ => false

/-- Whether a text names a host after a special scheme. -/
def isHost (s : List Char) : Bool :=
  if s.head? == some '[' then isBracketHost s
  else
    match String.fromUTF8? ⟨(percentDecode (String.ofList s).toUTF8.toList).toArray⟩ with
    | none => false
    | some name =>
      !name.isEmpty && !name.toList.any isForbidden &&
        (!looksNumeric name.toList || isNumericHost (name.toList.map Char.toLower))

/-- Whether a text names a host after another scheme. -/
def isOpaqueHost (s : List Char) : Bool :=
  if s.head? == some '[' then isBracketHost s else !s.any isForbiddenOpaque

/-- What stands in front of the port: everything up to the first colon that is not
in brackets. -/
def hostPart (inBrackets : Bool) : List Char → List Char
  | [] => []
  | c :: r =>
    if c == ':' && !inBrackets then []
    else c :: hostPart (if c == '[' then true else if c == ']' then false else inBrackets) r

/-- Whether a text is a port, which may be left out behind its colon. -/
def isPort (s : List Char) : Bool :=
  s.all Char.isDigit && (s.foldl (fun n c => n * 10 + (c.toNat - 48)) 0) < Nat.pow 2 16

/-- The authority without the part in front of its last `@`, and whether there is
such a part. -/
def dropUser (s : List Char) : List Char × Bool :=
  if s.contains '@' then ((s.reverse.takeWhile (· != '@')).reverse, true) else (s, false)

/-- Whether a text is an authority: perhaps a user, a host, and perhaps a port. -/
def isAuthority (k : Kind) (s : List Char) : Bool :=
  let (s, hasUser) := dropUser s
  let host := hostPart false s
  let rest := s.drop host.length
  let port := rest.tail
  if host.isEmpty then k == .other && rest.isEmpty && !hasUser
  else (if k == .other then isOpaqueHost host else isHost host) && isPort port

/-- Whether a text may stand where a file's host stands: nothing, the letter of a
drive, or a host. -/
def isFileHost (s : List Char) : Bool :=
  match s with
  | [] => true
  | [c, d] => (c.isAlpha && (d == ':' || d == '|')) || isHost s
  | s => isHost s

def scheme? (text : String) : Option String := do
  let (scheme, rest) ← splitScheme (tidy text.toList)
  let k := kind scheme
  let slashes := (rest.take 2).takeWhile (isSlash k)
  let good :=
    match k with
    | .special =>
      isAuthority k ((rest.dropWhile (isSlash k)).takeWhile fun c => !endsAuthority k c)
    | .file =>
      slashes.length < 2 || isFileHost ((rest.drop 2).takeWhile fun c => !endsAuthority k c)
    | .other =>
      slashes.length < 2 || isAuthority k ((rest.drop 2).takeWhile fun c => !endsAuthority k c)
  if good then some (String.ofList scheme) else none

end Url
end RemoteConsole
