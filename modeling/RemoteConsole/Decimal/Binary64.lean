/-!
# Finite binary64 numbers, exactly

A finite binary64 number is a sign and a magnitude `mantissa * 2 ^ exponent`. All
operations here work on whole numbers: a magnitude is the quotient of two of
them, rounded once to the nearest number of the format, and of two that are
equally near to the one with the even mantissa (`Magnitude.ofRatio?`). A quotient
too large for the format has no magnitude.
-/

namespace RemoteConsole
namespace Decimal

/-- A quotient of whole numbers rounded to the nearest whole number, a half going
to the even neighbour. -/
def roundQuotient (num den : Nat) : Nat :=
  let q := num / den
  let r := num % den
  if 2 * r < den then q
  else if den < 2 * r then q + 1
  else if q % 2 = 0 then q else q + 1

/-- An absolute value of the format: `mantissa * 2 ^ exponent`. -/
structure Magnitude where
  mantissa : Nat
  exponent : Int
  deriving Repr, DecidableEq

namespace Magnitude

/-- The exponent of the smallest positive number. -/
def minExponent : Int := -1074

/-- The exponent of the largest number. -/
def maxExponent : Int := 971

def zero : Magnitude := ⟨0, minExponent⟩

/-- `num / den / 2 ^ e` as a quotient of whole numbers. -/
def scaleDown (num den : Nat) (e : Int) : Nat × Nat :=
  if e < 0 then (num * Nat.pow 2 e.natAbs, den) else (num, den * Nat.pow 2 e.natAbs)

/-- The exponent at which the quotient `num / den` has 53 binary digits, or the
smallest exponent if it is too small for that. -/
def exponentOf (num den : Nat) : Int :=
  let e : Int := (Nat.log2 num : Int) - (Nat.log2 den : Int) - 53
  let (n, d) := scaleDown num den e
  max (if n / d < Nat.pow 2 53 then e else e + 1) minExponent

/-- The number of the format that is nearest to `num / den`. -/
def ofRatio? (num den : Nat) : Option Magnitude :=
  if num = 0 then some zero
  else
    let e := exponentOf num den
    let (n, d) := scaleDown num den e
    let m := roundQuotient n d
    let (m, e) := if m = Nat.pow 2 53 then (Nat.pow 2 52, e + 1) else (m, e)
    if e ≤ maxExponent then some ⟨m, e⟩ else none

/-- The magnitude as a quotient of whole numbers. -/
def ratio (a : Magnitude) : Nat × Nat :=
  if a.exponent < 0 then (a.mantissa, Nat.pow 2 a.exponent.natAbs)
  else (a.mantissa * Nat.pow 2 a.exponent.natAbs, 1)

def mul? (a b : Magnitude) : Option Magnitude :=
  ofRatio? (a.ratio.1 * b.ratio.1) (a.ratio.2 * b.ratio.2)

def div? (a b : Magnitude) : Option Magnitude :=
  ofRatio? (a.ratio.1 * b.ratio.2) (a.ratio.2 * b.ratio.1)

end Magnitude

/-- A finite binary64 number. -/
structure Binary64 where
  negative : Bool
  magnitude : Magnitude
  deriving Repr, DecidableEq

namespace Binary64

def isZero (x : Binary64) : Bool := x.magnitude.mantissa == 0

end Binary64

/-- The largest power of ten up to which one step of scaling goes. -/
def maxPower : Nat := 308

def powerOfTen? (n : Nat) : Option Magnitude := Magnitude.ofRatio? (Nat.pow 10 n) 1

/-- `a` divided by `10 ^ n`, in steps of at most `maxPower` with a rounding at
each, until nothing but zero is left. -/
def divPower? (a : Magnitude) (n : Nat) : Option Magnitude :=
  if _h : n ≤ maxPower then (powerOfTen? n).bind a.div?
  else if a.mantissa = 0 then some a
  else do
    let b ← (powerOfTen? maxPower).bind a.div?
    divPower? b (n - maxPower)
termination_by n
decreasing_by simp [maxPower] at _h ⊢; omega

/-- The magnitude read for `significand * 10 ^ exponent`: the significand is
rounded, then scaled by a rounded power of ten. A result too large for the
format is refused. -/
def scaled? (significand : Nat) (exponent : Int) : Option Magnitude := do
  let a ← Magnitude.ofRatio? significand 1
  if exponent < 0 then divPower? a exponent.natAbs
  else if exponent.toNat ≤ maxPower then (powerOfTen? exponent.toNat).bind a.mul?
  else if a.mantissa = 0 then some a
  else none

end Decimal
end RemoteConsole
