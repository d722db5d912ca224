import RemoteConsole.Decimal.Shortest

/-!
# JSON numbers and how they are written

A numeral is a JSON number as it stands in a text; its value is a whole number or
a finite binary64 number. Whole numbers from -2^63 to 2^64 - 1 keep their value
when they are written without fraction and exponent; every other numeral, and
`-0`, is a binary64 number. `Numeral.value?` reads a numeral and `Numeral.ofNumber`
writes a number.
-/

namespace RemoteConsole
namespace Json

inductive Number where
  /-- A whole number that fits 64 bits. -/
  | whole (n : Int)
  /-- Any other number. -/
  | real (x : Decimal.Binary64)
  deriving Repr, DecidableEq

inductive ExponentSign where
  | none
  | plus
  | minus
  deriving Repr, DecidableEq

def ExponentSign.text : ExponentSign → List Char
  | none => []
  | plus => ['+']
  | minus => ['-']

/-- A number as it is written: the digits before and after the point, and the
exponent. Without digits after the point there is no point. -/
structure Numeral where
  negative : Bool := false
  whole : List Char
  fraction : List Char := []
  exponent : Option (ExponentSign × List Char) := none
  deriving Repr, DecidableEq

def digitValue (c : Char) : Nat := c.toNat - '0'.toNat

/-- The number that decimal digits stand for. -/
def digitsValue (ds : List Char) : Nat := ds.foldl (fun n c => n * 10 + digitValue c) 0

namespace Numeral

def text (n : Numeral) : List Char :=
  (if n.negative then ['-'] else [])
    ++ n.whole
    ++ (if n.fraction.isEmpty then [] else '.' :: n.fraction)
    ++ (match n.exponent with
        | none => []
        | some (s, ds) => 'e' :: s.text ++ ds)

/-- One more than the largest significand. -/
def significandBound : Nat := Nat.pow 2 64

/-- Append digits to a significand as long as it stays below the bound. Gives the
significand and how many digits were left over. -/
def absorb : Nat → List Char → Nat × Nat
  | acc, [] => (acc, 0)
  | acc, c :: r =>
    let next := acc * 10 + digitValue c
    if next < significandBound then absorb next r else (acc, r.length + 1)

/-- The significand of a numeral and the power of ten it is scaled by: a digit
before the point that is left over raises the power, one behind the point that is
taken lowers it. -/
def scale (n : Numeral) : Nat × Int :=
  let (s, left) := absorb 0 n.whole
  let (s, left') := absorb s n.fraction
  let e : Int := match n.exponent with
    | none => 0
    | some (.minus, ds) => -(digitsValue ds : Int)
    | some (_, ds) => digitsValue ds
  (s, (left : Int) - ((n.fraction.length - left' : Nat) : Int) + e)

/-- The binary64 number of a numeral, if it is not too large. -/
def real? (n : Numeral) : Option Decimal.Binary64 :=
  (Decimal.scaled? n.scale.1 n.scale.2).map fun m => ⟨n.negative, m⟩

/-- The value of a numeral; `none` if it is too large for a binary64 number. -/
def value? (n : Numeral) : Option Number :=
  if n.fraction.isEmpty && n.exponent.isNone then
    let v := digitsValue n.whole
    if n.negative then
      if v ≠ 0 ∧ v ≤ Nat.pow 2 63 then some (.whole (-(v : Int))) else n.real?.map .real
    else
      if v < Nat.pow 2 64 then some (.whole v) else n.real?.map .real
  else n.real?.map .real

def ofInt (n : Int) : Numeral :=
  { negative := n < 0, whole := Nat.toDigits 10 n.natAbs }

/-- Numbers are written without exponent from 10^-5 up to, but not including,
10^16. -/
def isPositional (e : Int) : Bool := -5 ≤ e && e < 16

/-- The numeral of a decimal with the digits `ds`, of which the last counts
`10 ^ e`. -/
def ofDigits (negative : Bool) (ds : List Char) (e : Int) : Numeral :=
  let top : Int := (ds.length : Int) - 1 + e
  if isPositional top then
    if 0 ≤ e then
      { negative, whole := ds ++ List.replicate e.toNat '0', fraction := ['0'] }
    else if 0 ≤ top then
      { negative, whole := ds.take (top.toNat + 1), fraction := ds.drop (top.toNat + 1) }
    else
      { negative, whole := ['0'], fraction := List.replicate ((-top).toNat - 1) '0' ++ ds }
  else
    { negative
      whole := ds.take 1
      fraction := ds.drop 1
      exponent := some (if top < 0 then .minus else .plus, Nat.toDigits 10 top.natAbs) }

/-- The numeral of a binary64 number: the shortest decimal that reads back. -/
def ofReal (x : Decimal.Binary64) : Numeral :=
  let d := Decimal.shortest x.magnitude
  ofDigits x.negative (Nat.toDigits 10 d.digits) d.exponent

def ofNumber : Number → Numeral
  | .whole n => ofInt n
  | .real x => ofReal x

end Numeral
end Json
end RemoteConsole
