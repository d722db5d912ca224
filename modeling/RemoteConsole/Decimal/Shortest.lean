import RemoteConsole.Decimal.Binary64

/-!
# The shortest decimal of a binary64 number

Of the decimals that read back as a given number the one with the fewest digits
is written, and of those the one nearest to the number. A decimal reads back
when it lies between the midpoints to the two neighbouring numbers; the
midpoints themselves count when the mantissa is even. `shortest` tries the two
decimals around the number on ever finer grids.
-/

namespace RemoteConsole
namespace Decimal

/-- A decimal `digits * 10 ^ exponent`. -/
structure Digits where
  digits : Nat
  exponent : Int
  deriving Repr, DecidableEq

/-- The interval of values that are read as one magnitude, in units of `1 / unit`. -/
structure Interval where
  unit : Nat
  low : Nat
  value : Nat
  high : Nat
  closed : Bool
  deriving Repr

namespace Interval

/-- The interval of a magnitude, in quarters of its last place: half a place up,
and half a place down, but a quarter below a power of two whose lower neighbour
is that much closer. -/
def ofMagnitude (a : Magnitude) : Interval :=
  let (num, den) := a.ratio
  let quarter := if a.exponent < 0 then 1 else Nat.pow 2 a.exponent.natAbs
  let narrow := a.mantissa = Nat.pow 2 52 ∧ a.exponent ≠ Magnitude.minExponent
  { unit := den * 4
    low := num * 4 - (if narrow then quarter else 2 * quarter)
    value := num * 4
    high := num * 4 + 2 * quarter
    closed := a.mantissa % 2 = 0 }

/-- Whether the quotient `num / den` lies in the interval. -/
def has (i : Interval) (num den : Nat) : Bool :=
  let x := num * i.unit
  if i.closed then i.low * den ≤ x && x ≤ i.high * den
  else i.low * den < x && x < i.high * den

end Interval

def tenPower (e : Int) : Nat × Nat :=
  if e < 0 then (1, Nat.pow 10 e.natAbs) else (Nat.pow 10 e.natAbs, 1)

/-- The best multiple of `10 ^ e` in the interval, if there is one: of the two
around the value the nearer, and of two equally near the even one. -/
def bestOnGrid (i : Interval) (e : Int) : Option Digits :=
  let (pn, pd) := tenPower e
  let num := i.value * pd
  let den := i.unit * pn
  let q := num / den
  let r := num % den
  let below := i.has (q * pn) pd
  let above := i.has ((q + 1) * pn) pd
  if below && above then
    if 2 * r < den || (2 * r == den && q % 2 == 0) then some ⟨q, e⟩ else some ⟨q + 1, e⟩
  else if below then some ⟨q, e⟩
  else if above then some ⟨q + 1, e⟩
  else none

/-- Search the grids of `10 ^ e`, `10 ^ (e - 1)`, …, at most `n` of them. -/
def searchGrids (i : Interval) : Nat → Int → Option Digits
  | 0, _ => none
  | n + 1, e => (bestOnGrid i e).orElse fun _ => searchGrids i n (e - 1)

def stripZeros (d : Digits) : Digits :=
  if h : d.digits ≠ 0 ∧ d.digits % 10 = 0 then stripZeros ⟨d.digits / 10, d.exponent + 1⟩
  else d
termination_by d.digits
decreasing_by omega

/-- The shortest decimal that reads back as the magnitude. -/
def shortest (a : Magnitude) : Digits :=
  if a.mantissa = 0 then ⟨0, 0⟩
  else
    let (num, den) := a.ratio
    -- the value is below `10 ^ top`
    let top : Int := ((num / den).log2 * 30103 / 100000 : Nat) + 2
    let start : Int := if num / den = 0 then
        1 - (((den / num).log2 * 30103 / 100000 : Nat) : Int)
      else top
    stripZeros ((searchGrids (.ofMagnitude a) 40 start).getD ⟨num, 0⟩)

end Decimal
end RemoteConsole
