import RemoteConsole.Decimal.Shortest

/-!
# The digits of the shortest decimal

The interval of a magnitude that is not zero does not reach down to zero, so no grid
gives the digits of zero for it. Hence the digit zero stands alone in the shortest
decimal only for the magnitude zero, and then without an exponent
(`shortest_exponent_of_digits_eq_zero`).
-/

namespace RemoteConsole

namespace Decimal

theorem ratio_fst_ne_zero {a : Magnitude} (h : a.mantissa ≠ 0) : a.ratio.1 ≠ 0 := by
  unfold Magnitude.ratio
  split
  · exact h
  · exact Nat.mul_ne_zero h (Nat.pos_iff_ne_zero.1 (Nat.two_pow_pos _))

/-- The interval of a magnitude that is not zero starts above zero: half a place is
less than the value. -/
theorem ofMagnitude_low_pos {a : Magnitude} (h : a.mantissa ≠ 0) :
    0 < (Interval.ofMagnitude a).low := by
  have hm : 0 < a.mantissa := Nat.pos_of_ne_zero h
  simp only [Interval.ofMagnitude, Magnitude.ratio]
  by_cases he : a.exponent < 0
  · simp only [he, if_true]
    split <;> omega
  · simp only [he, if_false]
    have hpow : 0 < Nat.pow 2 a.exponent.natAbs := Nat.two_pow_pos _
    have hle : Nat.pow 2 a.exponent.natAbs ≤ a.mantissa * Nat.pow 2 a.exponent.natAbs :=
      Nat.le_mul_of_pos_left _ hm
    split <;> omega

theorem tenPower_snd_pos (e : Int) : 0 < (tenPower e).2 := by
  unfold tenPower
  split
  · exact Nat.pow_pos (by decide)
  · exact Nat.one_pos

theorem has_zero {i : Interval} (hi : 0 < i.low) {den : Nat} (hden : 0 < den) :
    i.has 0 den = false := by
  have hpos : 0 < i.low * den := Nat.mul_pos hi hden
  cases hc : i.closed with
  | true => simp [Interval.has, hc, Nat.pos_iff_ne_zero.1 hpos]
  | false => simp [Interval.has, hc]

theorem bestOnGrid_digits_ne_zero {i : Interval} (hi : 0 < i.low) {e : Int} {d : Digits}
    (h : bestOnGrid i e = some d) : d.digits ≠ 0 := by
  simp only [bestOnGrid] at h
  generalize i.value * (tenPower e).2 / (i.unit * (tenPower e).1) = q at h
  have hbelow : i.has (q * (tenPower e).1) (tenPower e).2 = true → q ≠ 0 := by
    rintro hq rfl
    rw [Nat.zero_mul, has_zero hi (tenPower_snd_pos e)] at hq
    exact Bool.noConfusion hq
  grind

theorem searchGrids_digits_ne_zero {i : Interval} (hi : 0 < i.low) {n : Nat} {e : Int}
    {d : Digits} (h : searchGrids i n e = some d) : d.digits ≠ 0 := by
  induction n generalizing e with
  | zero => simp [searchGrids] at h
  | succ n ih =>
      simp only [searchGrids] at h
      cases hb : bestOnGrid i e with
      | some d' =>
          rw [hb, Option.orElse_some, Option.some.injEq] at h
          exact h ▸ bestOnGrid_digits_ne_zero hi hb
      | none =>
          rw [hb, Option.orElse_none] at h
          exact ih h

theorem stripZeros_digits_ne_zero {d : Digits} (h : d.digits ≠ 0) :
    (stripZeros d).digits ≠ 0 := by
  fun_induction stripZeros d with
  | case1 d hd ih => exact ih (by simp only; omega)
  | case2 d hd => exact h

/-- The digit zero has no exponent. -/
theorem shortest_exponent_of_digits_eq_zero {a : Magnitude} (h : (shortest a).digits = 0) :
    (shortest a).exponent = 0 := by
  by_cases hm : a.mantissa = 0
  · simp [shortest, hm]
  · simp only [shortest, hm, if_false] at h
    refine absurd h (stripZeros_digits_ne_zero ?_)
    generalize (if a.ratio.1 / a.ratio.2 = 0 then _ else _ : Int) = start
    cases hs : searchGrids (Interval.ofMagnitude a) 40 start with
    | some d => exact searchGrids_digits_ne_zero (ofMagnitude_low_pos hm) hs
    | none => exact ratio_fst_ne_zero hm

end Decimal

end RemoteConsole
