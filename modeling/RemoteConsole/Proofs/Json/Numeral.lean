import Mathlib.Data.List.Basic
import RemoteConsole.Json.Document
import RemoteConsole.Proofs.Decimal.Shortest

/-!
# Numerals read back

A proper numeral has digits where digits have to be, and no zero at the front of
several digits before the point. Its characters are read as the numeral again, if
what comes after them does not go on with the number: `numeral?_text_append`. Every
number is written as a proper numeral (`isProper_ofNumber`), and the numeral of a
whole number of 64 bits has that number as its value (`value?_ofInt`).
-/

namespace RemoteConsole

namespace Json

namespace Token

theorem isDigit_eq (c : Char) : isDigit c = c.isDigit := by
  simp [isDigit, Char.isDigit, Char.le_def]

theorem digits_of_isDigit {ds rest : List Char} (hds : ∀ c ∈ ds, isDigit c = true)
    (hrest : ∀ c ∈ rest.head?, isDigit c = false) : digits (ds ++ rest) = (ds, rest) := by
  rw [digits, List.takeWhile_append_of_pos hds, List.dropWhile_append_of_pos hds]
  cases rest with
  | nil => simp
  | cons c r => simp [hrest c rfl]

end Token

namespace Numeral

/-- A numeral that can stand in a text. -/
structure IsProper (n : Numeral) : Prop where
  whole_ne_nil : n.whole ≠ []
  whole_isDigit : ∀ c ∈ n.whole, Token.isDigit c = true
  /-- A zero at the front stands alone. -/
  whole_of_zero : n.whole.head? = some '0' → n.whole = ['0']
  fraction_isDigit : ∀ c ∈ n.fraction, Token.isDigit c = true
  exponent_isDigit : ∀ p ∈ n.exponent, p.2 ≠ [] ∧ ∀ c ∈ p.2, Token.isDigit c = true

/-- A text that does not go on with a number in front of it. -/
def Ends (rest : List Char) : Prop :=
  ∀ c ∈ rest.head?, Token.isDigit c = false ∧ c ≠ '.' ∧ c ≠ 'e' ∧ c ≠ 'E'

/-- The characters of an exponent. -/
def exponentText : Option (ExponentSign × List Char) → List Char
  | none => []
  | some (s, ds) => 'e' :: s.text ++ ds

/-- The characters of a fraction. -/
def fractionText (ds : List Char) : List Char := if ds.isEmpty then [] else '.' :: ds

theorem text_eq (n : Numeral) :
    n.text = (if n.negative then ['-'] else []) ++ n.whole ++ fractionText n.fraction
      ++ exponentText n.exponent := by
  cases he : n.exponent with
  | none => simp [text, fractionText, exponentText, he]
  | some p => simp [text, fractionText, exponentText, he]

theorem exponentSign_text_append (s : ExponentSign) {ds : List Char} (hne : ds ≠ [])
    (hds : ∀ c ∈ ds, Token.isDigit c = true) (rest : List Char) :
    Token.exponentSign (s.text ++ ds ++ rest) = (s, ds ++ rest) := by
  cases ds with
  | nil => exact absurd rfl hne
  | cons c r =>
      have hc : Token.isDigit c = true := hds c (by simp)
      cases s with
      | plus => rfl
      | minus => rfl
      | none =>
          simp only [ExponentSign.text, List.nil_append, List.cons_append]
          unfold Token.exponentSign
          split <;> simp_all [Token.isDigit]

theorem exponent?_text_append {e : Option (ExponentSign × List Char)} {rest : List Char}
    (he : ∀ p ∈ e, p.2 ≠ [] ∧ ∀ c ∈ p.2, Token.isDigit c = true) (hrest : Ends rest) :
    Token.exponent? (exponentText e ++ rest) = some (e, rest) := by
  cases e with
  | none =>
      cases rest with
      | nil => rfl
      | cons c r =>
          obtain ⟨_, _, h1, h2⟩ := hrest c rfl
          simp [exponentText, Token.exponent?, h1, h2]
  | some p =>
      obtain ⟨s, ds⟩ := p
      obtain ⟨hne, hds⟩ := he (s, ds) rfl
      have hdigits : Token.digits (ds ++ rest) = (ds, rest) :=
        Token.digits_of_isDigit hds fun c hc => (hrest c hc).1
      have hsign := exponentSign_text_append s hne hds rest
      simp only [exponentText, List.cons_append, Token.exponent?, true_or, if_true, hsign, hdigits]

theorem isDigit_head?_exponentText {e : Option (ExponentSign × List Char)} {rest : List Char}
    (hrest : Ends rest) :
    ∀ c ∈ (exponentText e ++ rest).head?, Token.isDigit c = false ∧ c ≠ '.' := by
  cases e with
  | none => exact fun c hc => ⟨(hrest c hc).1, (hrest c hc).2.1⟩
  | some p =>
      intro c hc
      obtain rfl : 'e' = c := by simpa [exponentText] using hc
      decide

theorem fraction?_text_append {ds rest : List Char}
    (hds : ∀ c ∈ ds, Token.isDigit c = true)
    (hrest : ∀ c ∈ rest.head?, Token.isDigit c = false ∧ c ≠ '.') :
    Token.fraction? (fractionText ds ++ rest) = some (ds, rest) := by
  cases ds with
  | nil =>
      simp only [fractionText, List.isEmpty_nil, if_true, List.nil_append]
      unfold Token.fraction?
      split
      · exact absurd rfl (hrest '.' rfl).2
      · rfl
  | cons d r =>
      have hdigits : Token.digits (d :: r ++ rest) = (d :: r, rest) :=
        Token.digits_of_isDigit hds fun c hc => (hrest c hc).1
      simp only [fractionText, List.isEmpty_cons, Bool.false_eq_true, if_false, List.cons_append]
      rw [List.cons_append] at hdigits
      simp [Token.fraction?, hdigits]

theorem isDigit_head?_fractionText {ds rest : List Char}
    (hrest : ∀ c ∈ rest.head?, Token.isDigit c = false ∧ c ≠ '.') :
    ∀ c ∈ (fractionText ds ++ rest).head?, Token.isDigit c = false := by
  cases ds with
  | nil => exact fun c hc => (hrest c hc).1
  | cons d r =>
      intro c hc
      obtain rfl : '.' = c := by simpa [fractionText] using hc
      decide

theorem whole?_append {ds rest : List Char} (hne : ds ≠ [])
    (hds : ∀ c ∈ ds, Token.isDigit c = true) (hzero : ds.head? = some '0' → ds = ['0'])
    (hrest : ∀ c ∈ rest.head?, Token.isDigit c = false) :
    Token.whole? (ds ++ rest) = some (ds, rest) := by
  rw [Token.whole?, Token.digits_of_isDigit hds hrest]
  split
  · rename_i h
    simp only [Prod.mk.injEq] at h
    exact absurd h.1 hne
  · rename_i h
    simp only [Prod.mk.injEq] at h
    simp [h.1] at hzero
  · rename_i h
    simp only [Prod.mk.injEq] at h
    rw [h.1, h.2]

theorem minusSign_append (negative : Bool) {ds : List Char} (hne : ds ≠ [])
    (hds : ∀ c ∈ ds, Token.isDigit c = true) (rest : List Char) :
    Token.minusSign ((if negative then ['-'] else []) ++ ds ++ rest)
      = (negative, ds ++ rest) := by
  cases negative with
  | true => rfl
  | false =>
      cases ds with
      | nil => exact absurd rfl hne
      | cons c r =>
          have hc : Token.isDigit c = true := hds c (by simp)
          simp only [Bool.false_eq_true, if_false, List.nil_append, List.cons_append]
          unfold Token.minusSign
          split
          · rename_i h
            simp only [List.cons.injEq] at h
            rw [h.1] at hc
            simp [Token.isDigit] at hc
          · rfl

/-- The characters of a proper numeral are read as that numeral. -/
theorem numeral?_text_append {n : Numeral} (hn : n.IsProper) {rest : List Char}
    (hrest : Ends rest) : Token.numeral? (n.text ++ rest) = some (n, rest) := by
  have hexp := isDigit_head?_exponentText (e := n.exponent) hrest
  have hfrac : ∀ c ∈ (fractionText n.fraction ++ (exponentText n.exponent ++ rest)).head?,
      Token.isDigit c = false := isDigit_head?_fractionText hexp
  have hsign := minusSign_append n.negative hn.whole_ne_nil hn.whole_isDigit
    (fractionText n.fraction ++ (exponentText n.exponent ++ rest))
  have hwhole := whole?_append hn.whole_ne_nil hn.whole_isDigit hn.whole_of_zero hfrac
  simp only [Token.numeral?, text_eq, List.append_assoc] at hsign ⊢
  simp only [hsign, hwhole, fraction?_text_append hn.fraction_isDigit hexp,
    exponent?_text_append hn.exponent_isDigit hrest, Option.bind_eq_bind, Option.bind_some,
    Option.pure_def]

theorem head?_text {n : Numeral} (hn : n.IsProper) :
    ∃ c r, n.text = c :: r ∧ (Token.isDigit c = true ∨ c = '-') := by
  cases hw : n.whole with
  | nil => exact absurd hw hn.whole_ne_nil
  | cons c r =>
      cases hneg : n.negative with
      | true =>
          rw [text_eq, hneg]
          exact ⟨'-', _, rfl, Or.inr rfl⟩
      | false =>
          rw [text_eq, hneg, hw]
          exact ⟨c, _, rfl, Or.inl (hn.whole_isDigit c (by simp [hw]))⟩

theorem isDigit_of_mem_toDigits {n : Nat} {c : Char} (h : c ∈ Nat.toDigits 10 n) :
    Token.isDigit c = true := by
  rw [Token.isDigit_eq]
  exact Nat.isDigit_of_mem_toDigits (by decide) (by decide) h

theorem eq_zero_of_head?_toDigits {n : Nat} (h : (Nat.toDigits 10 n).head? = some '0') :
    n = 0 := by
  induction n using Nat.base_induction 10 (by decide) with
  | single m hm => simpa [Nat.toDigits_of_lt_base hm] using h
  | digit m k hk hm ih =>
      rw [← Nat.toDigits_append_toDigits (by decide) hm hk,
        List.head?_append_of_ne_nil _ Nat.toDigits_ne_nil] at h
      exact absurd (ih h) (Nat.pos_iff_ne_zero.1 hm)

theorem toDigits_of_head? {n : Nat} (h : (Nat.toDigits 10 n).head? = some '0') :
    Nat.toDigits 10 n = ['0'] := by
  rw [eq_zero_of_head?_toDigits h, Nat.toDigits_zero]

theorem isProper_ofInt (n : Int) : (ofInt n).IsProper where
  whole_ne_nil := Nat.toDigits_ne_nil
  whole_isDigit _ h := isDigit_of_mem_toDigits h
  whole_of_zero := toDigits_of_head?
  fraction_isDigit := by simp [ofInt]
  exponent_isDigit := by simp [ofInt]

/-- A decimal is written as a proper numeral, if the digit zero has no exponent. -/
theorem isProper_ofDigits (negative : Bool) {m : Nat} {e : Int} (hzero : m = 0 → e = 0) :
    (ofDigits negative (Nat.toDigits 10 m) e).IsProper := by
  have hne : Nat.toDigits 10 m ≠ [] := Nat.toDigits_ne_nil
  have hdigit : ∀ c ∈ Nat.toDigits 10 m, Token.isDigit c = true :=
    fun _ => isDigit_of_mem_toDigits
  have hhead : (Nat.toDigits 10 m).head? = some '0' → e = 0 ∧ Nat.toDigits 10 m = ['0'] :=
    fun h => ⟨hzero (eq_zero_of_head?_toDigits h), toDigits_of_head? h⟩
  generalize Nat.toDigits 10 m = ds at hne hdigit hhead
  have hreplicate : ∀ k, ∀ c ∈ List.replicate k '0', Token.isDigit c = true := by
    intro k c hc
    rw [List.eq_of_mem_replicate hc]
    decide
  simp only [ofDigits]
  split
  · split
    · -- all digits stand before the point
      refine ⟨by simp [hne], ?_, ?_, by simp [Token.isDigit], by simp⟩
      · intro c hc
        rcases List.mem_append.1 hc with hc | hc
        · exact hdigit c hc
        · exact hreplicate _ c hc
      · intro h
        rw [List.head?_append_of_ne_nil _ hne] at h
        obtain ⟨he, hds⟩ := hhead h
        simp [he, hds]
    · split
      · -- the point is among the digits
        rename_i he _
        refine ⟨by simp [hne], fun c hc => hdigit c (List.mem_of_mem_take hc), ?_,
          fun c hc => hdigit c (List.mem_of_mem_drop hc), by simp⟩
        intro h
        rw [List.head?_take, if_neg (by simp)] at h
        have he0 : e = 0 := (hhead h).1
        omega
      · -- the point is in front of the digits
        refine ⟨by simp, by simp [Token.isDigit], by simp, ?_, by simp⟩
        intro c hc
        rcases List.mem_append.1 hc with hc | hc
        · exact hreplicate _ c hc
        · exact hdigit c hc
  · -- one digit before the point, and an exponent
    cases ds with
    | nil => exact absurd rfl hne
    | cons d r =>
        refine ⟨by simp, ?_, by simp, fun c hc => hdigit c (List.mem_of_mem_drop hc), ?_⟩
        · exact fun c hc => hdigit c (List.mem_of_mem_take hc)
        · intro p hp
          obtain rfl : _ = p := by simpa using hp
          exact ⟨Nat.toDigits_ne_nil, fun _ => isDigit_of_mem_toDigits⟩

theorem isProper_ofNumber (n : Number) : (ofNumber n).IsProper := by
  cases n with
  | whole n => exact isProper_ofInt n
  | real x => exact isProper_ofDigits _ Decimal.shortest_exponent_of_digits_eq_zero

theorem digitsValue_toDigits (n : Nat) : digitsValue (Nat.toDigits 10 n) = n := by
  have h : digitsValue (Nat.toDigits 10 n) = Nat.ofDigitChars 10 (Nat.toDigits 10 n) 0 := by
    simp only [digitsValue, digitValue, Nat.ofDigitChars_eq_foldl, Nat.mul_comm]
  rw [h, Nat.ofDigitChars_ten_toDigits]

/-- A whole number of 64 bits, with a sign or without. -/
def IsWord (n : Int) : Prop := -(Nat.pow 2 63 : Nat) ≤ n ∧ n < (Nat.pow 2 64 : Nat)

theorem isWord_toNat (i : UInt64) : IsWord i.toNat := by
  have hi : i.toNat < Nat.pow 2 64 := i.toNat_lt
  constructor
  · omega
  · omega

theorem isWord_toInt (i : Int64) : IsWord i.toInt := by
  have hlow : -(Nat.pow 2 63 : Nat) ≤ i.toInt := i.le_toInt
  have hhigh : i.toInt < (Nat.pow 2 63 : Nat) := i.toInt_lt
  have hle : Nat.pow 2 63 ≤ Nat.pow 2 64 := by decide
  constructor
  · exact hlow
  · omega

/-- The numeral of a whole number of 64 bits has that number as its value. -/
theorem value?_ofInt {n : Int} (hn : IsWord n) : (ofInt n).value? = some (.whole n) := by
  obtain ⟨hlow, hhigh⟩ := hn
  simp only [value?, ofInt, List.isEmpty_nil, Option.isNone_none, Bool.and_self, if_true,
    digitsValue_toDigits, decide_eq_true_eq]
  by_cases hneg : n < 0
  · rw [if_pos hneg, if_pos (by omega)]
    congr 2
    omega
  · rw [if_neg hneg, if_pos (by omega)]
    congr 2
    omega

end Numeral

end Json

end RemoteConsole
