import RemoteConsole.Proofs.Json.Numeral

/-!
# The tokens of a value's text

`toTokens` lists the tokens that a value is written with, the strings with every
character standing for itself. Cutting the text of a value into tokens gives this
list, and goes on with whatever comes after the value: `ofText_print`.
-/

namespace RemoteConsole

namespace Json

mutual

/-- The tokens of a value. -/
def toTokens : Json → List Token
  | null => [.null]
  | bool b => [.bool b]
  | number n => [.number (.ofNumber n)]
  | string s => [.string (pieces s)]
  | array items => .openBracket :: itemTokens items ++ [.closeBracket]
  | object fields => .openBrace :: fieldTokens fields ++ [.closeBrace]

/-- The tokens of the items of an array, with commas between them. -/
def itemTokens : List Json → List Token
  | [] => []
  | v :: r => toTokens v ++ (if r.isEmpty then [] else [.comma]) ++ itemTokens r

/-- The tokens of the fields of an object, with commas between them. -/
def fieldTokens : List (String × Json) → List Token
  | [] => []
  | (k, v) :: r =>
    .string (pieces k) :: .colon :: toTokens v ++ (if r.isEmpty then [] else [.comma])
      ++ fieldTokens r

end

namespace Token

theorem hexValue?_hexDigit {n : Nat} (h : n < 16) : hexValue? (hexDigit n) = some n := by
  have hall : ∀ n < 16, hexValue? (hexDigit n) = some n := by decide
  exact hall n h

/-- A piece in front of the pieces of a string. -/
def consPiece (p : Piece) (x : List Piece × List Char) : List Piece × List Char :=
  (p :: x.1, x.2)

theorem bind_consPiece (p : Piece) (o : Option (List Piece × List Char)) :
    (o.bind fun x => some (p :: x.1, x.2)) = o.map (consPiece p) := by
  cases o <;> rfl

/-- A character that is not escaped stands for itself. -/
theorem pieces?_cons {c : Char} (hquote : c ≠ '"') (hslash : c ≠ '\\') (hlow : 0x20 ≤ c.toNat)
    (s : List Char) : pieces? (c :: s) = (pieces? s).map (consPiece (.char c)) := by
  rw [pieces?.eq_def]
  split
  · rename_i h
    simp at h
  · rename_i h
    simp only [List.cons.injEq] at h
    exact absurd h.1 hquote
  · rename_i h
    simp only [List.cons.injEq] at h
    exact absurd h.1 hslash
  · rename_i h
    simp only [List.cons.injEq] at h
    exact absurd h.1 hslash
  · rename_i h
    simp only [List.cons.injEq] at h
    obtain ⟨rfl, rfl⟩ := h
    have hplain : (c.toNat < 0x20 || c == '\\') = false := by simp [hslash]; omega
    simp only [hplain, Bool.false_eq_true, if_false]
    exact bind_consPiece _ _

/-- A one-letter escape stands for its character. -/
theorem pieces?_unescape {c e : Char} (hc : c ≠ 'u') (he : unescape? c = some e)
    (s : List Char) : pieces? ('\\' :: c :: s) = (pieces? s).map (consPiece (.char e)) := by
  rw [pieces?.eq_def]
  split
  · rename_i h
    simp at h
  · rename_i h
    simp at h
  · rename_i h
    simp only [List.cons.injEq, true_and] at h
    exact absurd h.1 hc
  · rename_i h
    simp only [List.cons.injEq, true_and] at h
    obtain ⟨rfl, rfl⟩ := h
    simp only [he]
    exact bind_consPiece _ _
  · rename_i hno h
    simp only [List.cons.injEq] at h
    obtain ⟨rfl, rfl⟩ := h
    exact absurd rfl (hno c s rfl)

/-- A control character stands in the two hexadecimal digits of its escape. -/
theorem pieces?_unit {c : Char} (h : c.toNat < 0x20) (s : List Char) :
    pieces? ('\\' :: 'u' :: '0' :: '0' :: hexDigit (c.toNat / 16)
      :: hexDigit (c.toNat % 16) :: s) = (pieces? s).map (consPiece (.char c)) := by
  have hunit : unit? '0' '0' (hexDigit (c.toNat / 16)) (hexDigit (c.toNat % 16))
      = some c.toNat := by
    simp only [unit?, hexValue?_hexDigit (show c.toNat / 16 < 16 by omega),
      hexValue?_hexDigit (show c.toNat % 16 < 16 by omega)]
    simp [hexValue?]
    omega
  have hpiece : Piece.ofUnit c.toNat = .char c := by
    have hhigh : Piece.isHigh c.toNat = false := by simp [Piece.isHigh]; omega
    have hlow : Piece.isLow c.toNat = false := by simp [Piece.isLow]; omega
    simp [Piece.ofUnit, hhigh, hlow, Char.ofNat_toNat]
  simp only [pieces?, hunit, hpiece, Option.bind_eq_bind, Option.bind_some, Option.pure_def]
  exact bind_consPiece _ _

/-- The escape of a character stands for that character. -/
theorem pieces?_escape_append (c : Char) (s : List Char) :
    pieces? (escape c ++ s) = (pieces? s).map (consPiece (.char c)) := by
  unfold escape
  split
  · rename_i h
    subst h
    exact pieces?_unescape (by decide) rfl s
  · rename_i hquote
    split
    · rename_i h
      subst h
      exact pieces?_unescape (by decide) rfl s
    · rename_i hslash
      split
      · rename_i hlow
        iterate 5
          split
          · rename_i h
            subst h
            exact pieces?_unescape (by decide) rfl s
        exact pieces?_unit hlow s
      · rename_i hlow
        exact pieces?_cons hquote hslash (by omega) s

theorem pieces?_flatMap_escape (s rest : List Char) :
    pieces? (s.flatMap escape ++ '"' :: rest) = some (s.map .char, rest) := by
  induction s with
  | nil => rfl
  | cons c r ih =>
      rw [List.flatMap_cons, List.append_assoc, pieces?_escape_append, ih]
      rfl

theorem isSpace_of_isDigit {c : Char} (h : isDigit c = true) : isSpace c = false := by
  cases hs : isSpace c with
  | false => rfl
  | true =>
      simp only [isSpace, Bool.or_eq_true, beq_iff_eq] at hs
      rcases hs with ((rfl | rfl) | rfl) | rfl <;> exact absurd h (by decide)

/-- The characters of a proper numeral are one token. -/
theorem first_text_append {n : Numeral} (hn : n.IsProper) {rest : List Char}
    (hrest : Numeral.Ends rest) :
    ∃ c r, n.text ++ rest = c :: r ∧ isSpace c = false ∧ first c r = (.number n, rest) := by
  obtain ⟨c, r, htext, hc⟩ := Numeral.head?_text hn
  have hread := Numeral.numeral?_text_append hn hrest
  refine ⟨c, r ++ rest, by rw [htext, List.cons_append], ?_, ?_⟩
  · rcases hc with hc | rfl
    · exact isSpace_of_isDigit hc
    · decide
  · rw [htext, List.cons_append] at hread
    unfold first
    -- the last case is the one of the numerals; no other token starts like one
    split
    case h_11 => simp [hread]
    all_goals rcases hc with hc | hc <;> simp [isDigit] at hc

theorem ofText_nil : ofText [] = [] := by
  rw [ofText]

theorem ofText_cons {c : Char} (h : isSpace c = false) (r : List Char) :
    ofText (c :: r) = (first c r).1 :: ofText (first c r).2 := by
  rw [ofText, if_neg (by simp [h])]

/-- The quoted text of a string is one token. -/
theorem ofText_quote_append (s : String) (rest : List Char) :
    ofText (quote s.toList ++ rest) = .string (pieces s) :: ofText rest := by
  have hread := pieces?_flatMap_escape s.toList rest
  simp only [quote, List.cons_append, List.append_assoc, List.nil_append]
  rw [ofText_cons (by decide)]
  simp [first, hread, pieces]

theorem ofText_number_append (n : Number) {rest : List Char} (hrest : Numeral.Ends rest) :
    ofText ((Numeral.ofNumber n).text ++ rest) = .number (.ofNumber n) :: ofText rest := by
  obtain ⟨c, r, htext, hspace, hfirst⟩ := first_text_append (Numeral.isProper_ofNumber n) hrest
  rw [htext, ofText_cons hspace, hfirst]

theorem ends_cons {c : Char} (h : c = ',' ∨ c = ']' ∨ c = '}') (rest : List Char) :
    Numeral.Ends (c :: rest) := by
  intro d hd
  obtain rfl : c = d := by simpa using hd
  rcases h with rfl | rfl | rfl <;> decide

end Token

open Token

mutual

/-- The text of a value is cut into the tokens of the value. -/
theorem ofText_print_append : ∀ (v : Json) (rest : List Char), Numeral.Ends rest →
    Token.ofText (v.print ++ rest) = v.toTokens ++ Token.ofText rest
  | .null, rest, _ => by
      simp only [print, List.cons_append, List.nil_append]
      rw [ofText_cons (by decide)]
      rfl
  | .bool true, rest, _ => by
      simp only [print, List.cons_append, List.nil_append]
      rw [ofText_cons (by decide)]
      rfl
  | .bool false, rest, _ => by
      simp only [print, List.cons_append, List.nil_append]
      rw [ofText_cons (by decide)]
      rfl
  | .number n, rest, hrest => by
      rw [print, ofText_number_append n hrest]
      rfl
  | .string s, rest, _ => by
      rw [print, ofText_quote_append]
      rfl
  | .array items, rest, _ => by
      simp only [print, toTokens, List.cons_append, List.append_assoc, List.nil_append]
      rw [ofText_cons (by decide)]
      simp only [first]
      rw [ofText_printItems_append items rest, ofText_cons (by decide)]
      rfl
  | .object fields, rest, _ => by
      simp only [print, toTokens, List.cons_append, List.append_assoc, List.nil_append]
      rw [ofText_cons (by decide)]
      simp only [first]
      rw [ofText_printFields_append fields rest, ofText_cons (by decide)]
      rfl

theorem ofText_printItems_append : ∀ (items : List Json) (rest : List Char),
    Token.ofText (printItems items ++ ']' :: rest)
      = itemTokens items ++ Token.ofText (']' :: rest)
  | [], rest => rfl
  | [v], rest => by
      simp only [printItems, itemTokens, List.isEmpty_nil, if_true, List.append_nil]
      exact ofText_print_append v _ (ends_cons (by simp) rest)
  | v :: w :: r, rest => by
      rw [printItems, itemTokens]
      simp only [List.isEmpty_cons, Bool.false_eq_true, if_false, List.append_assoc,
        List.cons_append, List.nil_append]
      rw [ofText_print_append v _ (ends_cons (by simp) _), ofText_cons (by decide)]
      simp only [first]
      rw [ofText_printItems_append (w :: r) rest]

theorem ofText_printFields_append : ∀ (fields : List (String × Json)) (rest : List Char),
    Token.ofText (printFields fields ++ '}' :: rest)
      = fieldTokens fields ++ Token.ofText ('}' :: rest)
  | [], rest => rfl
  | [(k, v)], rest => by
      simp only [printFields, fieldTokens, List.isEmpty_nil, if_true, List.append_nil,
        List.append_assoc, List.cons_append]
      rw [ofText_quote_append, ofText_cons (by decide)]
      simp only [first]
      rw [ofText_print_append v _ (ends_cons (by simp) rest)]
  | (k, v) :: f :: r, rest => by
      rw [printFields, fieldTokens]
      simp only [List.isEmpty_cons, Bool.false_eq_true, if_false, List.append_assoc,
        List.cons_append, List.nil_append]
      rw [ofText_quote_append, ofText_cons (by decide)]
      simp only [first]
      rw [ofText_print_append v _ (ends_cons (by simp) _), ofText_cons (by decide)]
      simp only [first]
      rw [ofText_printFields_append (f :: r) rest]

end

/-- The tokens of a value's text are those of the value. -/
theorem ofText_print (v : Json) : Token.ofText v.print = v.toTokens := by
  have h := ofText_print_append v [] (by simp [Numeral.Ends])
  rwa [ofText_nil, List.append_nil, List.append_nil] at h

end Json

end RemoteConsole
