import RemoteConsole.Toml.Text

/-!
# Numbers and moments of TOML

A whole number has 64 bits and a sign; it is written in decimal without leading
zeros, or without a sign to the base 16, 8 or 2. Digits may have single underscores
between them. A real number has a fraction or an exponent, and must not be too
large for binary64. A moment is a date, a time of day, or both, perhaps with an
offset.
-/

namespace RemoteConsole
namespace Toml.Grammar

open Scan

/-- A row of digits that may have single underscores between them. -/
def digits (isDigit : Char → Bool) : Scan (List Char) := do
  let d ← one isDigit
  let ds ← many (do
    let _ ← option (char '_')
    one isDigit)
  return d :: ds

/-- The value of a row of digits. -/
def decimalValue (ds : List Char) : Nat := ds.foldl (fun n d => n * 10 + (d.toNat - 48)) 0

/-- A plus or minus sign, if there is one. Gives whether it is a minus. -/
def sign : Scan Bool := do
  let c ← option (one fun c => c == '+' || c == '-')
  return c == some '-'

/-- A row of decimal digits without leading zeros. -/
def decimalDigits : Scan (List Char) := do
  match ← next? with
  | some '0' =>
    let _ ← char '0'
    return ['0']
  | _ => digits Char.isDigit

def decimalWhole : Scan Int := do
  let negative ← sign
  let n := decimalValue (← decimalDigits)
  require (if negative then n ≤ Nat.pow 2 63 else n < Nat.pow 2 63)
  return if negative then -(n : Int) else n

/-- A whole number to a base, behind a zero and a letter. -/
def basedWhole (letter : Char) (base : Nat) (isDigit : Char → Bool) : Scan Int := do
  word ['0', letter]
  let ds ← digits isDigit
  let n := ds.foldl (fun n d => n * base + hexValue [d]) 0
  require (n < Nat.pow 2 63)
  return n

def whole : Scan Int :=
  basedWhole 'x' 16 isHexDigit <|> basedWhole 'o' 8 (fun c => '0' ≤ c && c ≤ '7')
    <|> basedWhole 'b' 2 (fun c => c == '0' || c == '1') <|> decimalWhole

/-- The least magnitude too large for binary64. -/
def tooLarge : Nat := Nat.pow 2 1024 - Nat.pow 2 970

/-- Whether `significand * 10 ^ exponent` is too large for binary64. -/
def overflows (significand : Nat) (exponent : Int) : Bool :=
  match exponent with
  | .ofNat n => significand != 0 && (400 < n || tooLarge ≤ significand * Nat.pow 10 n)
  | .negSucc n =>
    (n + 1 < (Nat.toDigits 10 significand).length) && tooLarge * Nat.pow 10 (n + 1) ≤ significand

def fraction : Scan (List Char) := do
  let _ ← char '.'
  digits Char.isDigit

def exponent : Scan Int := do
  let _ ← one fun c => c == 'e' || c == 'E'
  let negative ← sign
  let n := decimalValue (← digits Char.isDigit)
  return if negative then -(n : Int) else n

/-- A real number in decimal. Only a positive one can be too large. -/
def decimalReal : Scan Unit := do
  let negative ← sign
  let ds ← decimalDigits
  let fs ← option fraction
  let e ← option exponent
  require (fs.isSome || e.isSome)
  let fs := fs.getD []
  require (negative || !overflows (decimalValue (ds ++ fs)) (e.getD 0 - fs.length))

/-- Infinity, or no number at all. -/
def specialReal : Scan Unit := do
  let _ ← sign
  word ['i', 'n', 'f'] <|> word ['n', 'a', 'n']

/-- A number of so many digits within bounds. -/
def field (width low high : Nat) : Scan Nat := do
  let n := decimalValue (← times (one Char.isDigit) width)
  require (low ≤ n && n ≤ high)
  return n

/-- How many days a month has. -/
def daysOf (year month : Nat) : Nat :=
  if month = 2 then
    if year % 4 = 0 && (year % 100 != 0 || year % 400 = 0) then 29 else 28
  else if month = 4 || month = 6 || month = 9 || month = 11 then 30
  else 31

def date : Scan Unit := do
  let year ← field 4 0 9999
  let _ ← char '-'
  let month ← field 2 1 12
  let _ ← char '-'
  let _ ← field 2 1 (daysOf year month)

def timeOfDay : Scan Unit := do
  let _ ← field 2 0 23
  let _ ← char ':'
  let _ ← field 2 0 59
  let _ ← char ':'
  let _ ← field 2 0 60
  let _ ← option (do
    let _ ← char '.'
    spanOf1 Char.isDigit)

/-- An offset from universal time. -/
def offset : Scan Unit := do
  match ← one fun c => c == 'Z' || c == 'z' || c == '+' || c == '-' with
  | 'Z' | 'z' => return
  | _ =>
    let _ ← field 2 0 23
    let _ ← char ':'
    let _ ← field 2 0 59

def moment? : Scan Unit :=
  (do
    date
    let _ ← option (do
      let _ ← one fun c => c == 'T' || c == 't' || c == ' '
      timeOfDay
      option offset)) <|> timeOfDay

/-- What a number or a moment stands for. -/
def numeric : Scan Toml :=
  (do moment?; return .moment) <|> (do decimalReal <|> specialReal; return .real)
    <|> (do let n ← whole; return .whole n)

end Toml.Grammar
end RemoteConsole
