import RemoteConsole.Proofs.Line.Plain

/-!
# Two words on one line

Two words with a space between them need not be read as these two words: a blank inside
a word cuts it, a quote at an end of it is lost or pairs up with another, and an empty
word is not there at all. The main statement is `tokens_pair_iff`: the two words come
back as the first two tokens if and only if both are plain.
-/

namespace RemoteConsole

namespace Lexeme

theorem length_dropOpening_le (w : List Char) : (dropOpening w).length ≤ w.length := by
  cases w with
  | nil => exact Nat.le_refl _
  | cons c r =>
      simp only [dropOpening]
      split
      · simp
      · exact Nat.le_refl _

theorem length_dropClosing_le (w : List Char) : (dropClosing w).length ≤ w.length := by
  have h := length_dropOpening_le w.reverse
  simpa [dropClosing] using h

theorem head?_of_length_dropOpening {w : List Char} (h : w.length ≤ (dropOpening w).length) :
    w.head?.any isQuote = false := by
  cases w with
  | nil => rfl
  | cons c r =>
      cases hq : isQuote c with
      | false => simp [hq]
      | true =>
          simp only [dropOpening, hq, if_true, List.length_cons] at h
          omega

theorem getLast?_of_length_dropClosing {w : List Char}
    (h : w.length ≤ (dropClosing w).length) : w.getLast?.any isQuote = false := by
  rw [← List.head?_reverse]
  exact head?_of_length_dropOpening (by simpa [dropClosing] using h)

theorem quotes_of_length_token {w : List Char} (h : w.length ≤ (bare w).token.length) :
    w.head?.any isQuote = false ∧ w.getLast?.any isQuote = false := by
  have hclose := length_dropClosing_le (dropOpening w)
  have hhead : w.head?.any isQuote = false :=
    head?_of_length_dropOpening (Nat.le_trans h hclose)
  refine ⟨hhead, getLast?_of_length_dropClosing ?_⟩
  rwa [token, dropOpening_of_head? hhead] at h

theorem length_token_le (l : Lexeme) : l.token.length ≤ l.source.length := by
  cases l with
  | span q text =>
      simp only [token, source_span, List.length_append, List.length_cons]
      omega
  | bare w => exact Nat.le_trans (length_dropClosing_le _) (length_dropOpening_le w)

theorem takeWhile_append {rest : List Char} (h : ∀ d ∈ rest.head?, Text.isBlank d = true)
    (r : List Char) :
    (r ++ rest).takeWhile (!Text.isBlank ·) = r.takeWhile (!Text.isBlank ·) := by
  induction r with
  | nil =>
      cases rest with
      | nil => rfl
      | cons d rest => simp [h d rfl]
  | cons c r ih => simp only [List.cons_append, List.takeWhile_cons, ih]

/-- If the first lexeme stands for a text that ends in the word it is read from, the word
is plain and nothing stands before it. -/
theorem isPlain_of_token_first {c : Char} {r rest before : List Char}
    (hc : Text.isBlank c = false) (hrest : ∀ d ∈ rest.head?, Text.isBlank d = true)
    (h : (first c (r ++ rest)).1.token = before ++ c :: r) :
    before = [] ∧ isPlain (String.ofList (c :: r)) = true := by
  unfold first at h
  split at h
  · rename_i text rest' hup
    -- the word starts with the quote, and the text of the span does not hold it
    split at hup
    · have hmem : c ∈ before ++ c :: r := by simp
      rw [← h] at hmem
      exact absurd hmem (not_mem_of_upTo hup)
    · cases hup
  · simp only [takeWhile_append hrest] at h
    have hprefix := List.takeWhile_prefix (!Text.isBlank ·) (l := r)
    have htake := hprefix.length_le
    have hlength := length_token_le (bare (c :: r.takeWhile (!Text.isBlank ·)))
    have hbefore := congrArg List.length h
    simp only [source_bare, List.length_cons, List.length_append] at hlength hbefore
    have hword : r.takeWhile (!Text.isBlank ·) = r := hprefix.eq_of_length (by omega)
    rw [hword] at h hbefore hlength
    have hquotes := quotes_of_length_token (w := c :: r) (by rw [h]; simp)
    refine ⟨List.eq_nil_of_length_eq_zero (by omega), isPlain_iff.2 ?_⟩
    rw [String.toList_ofList]
    refine ⟨by simp, ?_, hquotes⟩
    intro d hd
    rcases List.mem_cons.1 hd with rfl | hd
    · exact hc
    · rw [← hword] at hd
      simpa using List.all_eq_true.1 List.all_takeWhile d hd

end Lexeme

theorem length_token_le_of_mem_lexemes {s : List Char} {l : Lexeme} (h : l ∈ lexemes s) :
    l.token.length ≤ s.length := by
  fun_induction lexemes s with
  | case1 => simp at h
  | case2 c r hc ih => exact Nat.le_succ_of_le (ih h)
  | case3 c r hc hlt ih =>
      rcases List.mem_cons.1 h with rfl | h
      · have hsource := congrArg List.length (Lexeme.source_first c r)
        have htoken := Lexeme.length_token_le (Lexeme.first c r).1
        simp only [List.length_append, List.length_cons] at hsource ⊢
        omega
      · have hle := ih h
        simp only [List.length_cons]
        omega

theorem length_token_lt_of_lexemes_eq {s : List Char} {l m : Lexeme} {ls : List Lexeme}
    (h : lexemes s = l :: m :: ls) : m.token.length < s.length := by
  induction s with
  | nil => simp at h
  | cons c r ih =>
      cases hc : Text.isBlank c with
      | true =>
          rw [lexemes_blank hc] at h
          exact Nat.lt_succ_of_lt (ih h)
      | false =>
          rw [lexemes_cons hc, List.cons.injEq] at h
          have hm : m ∈ lexemes (Lexeme.first c r).2 := by simp [h.2]
          have hle := length_token_le_of_mem_lexemes hm
          have hlt := Lexeme.length_first_lt c r
          simp only [List.length_cons]
          omega

/-- A word that is not blank and with which the first token ends is plain, and it is the
whole token. -/
theorem isPlain_of_lexemes_append {w rest before : List Char} {l : Lexeme} {ls : List Lexeme}
    (hw : ∃ c ∈ w, Text.isBlank c = false) (hrest : ∀ d ∈ rest.head?, Text.isBlank d = true)
    (h : lexemes (w ++ rest) = l :: ls) (htoken : l.token = before ++ w) :
    before = [] ∧ isPlain (String.ofList w) = true := by
  induction w generalizing before with
  | nil => simp at hw
  | cons c r ih =>
      cases hc : Text.isBlank c with
      | true =>
          -- the blank is skipped, so it cannot be part of the token
          rw [List.cons_append, lexemes_blank hc] at h
          have hr : ∃ d ∈ r, Text.isBlank d = false := by simpa [hc] using hw
          have hlonger : l.token = (before ++ [c]) ++ r := by rw [htoken, List.append_cons]
          have hbefore := (ih hr h hlonger).1
          simp at hbefore
      | false =>
          rw [List.cons_append, lexemes_cons hc, List.cons.injEq] at h
          rw [← h.1] at htoken
          exact Lexeme.isPlain_of_token_first hc hrest htoken

theorem isPlain_of_tokens_append {w rest : String} {more : List String}
    (hw : ∃ c ∈ w.toList, Text.isBlank c = false)
    (hrest : ∀ d ∈ rest.toList.head?, Text.isBlank d = true)
    (h : tokens (w ++ rest) = w :: more) : isPlain w = true := by
  rw [tokens, String.toList_append] at h
  obtain ⟨l, ls, hlex, hl, _⟩ := List.map_eq_cons_iff.1 h
  have hl : l.token = [] ++ w.toList := by rw [← hl, String.toList_ofList, List.nil_append]
  simpa using (isPlain_of_lexemes_append hw hrest hlex hl).2

theorem length_lt_of_tokens_eq {line t v : String} {more : List String}
    (h : tokens line = t :: v :: more) : v.toList.length < line.toList.length := by
  rw [tokens] at h
  obtain ⟨l, ls, hlex, _, hls⟩ := List.map_eq_cons_iff.1 h
  obtain ⟨m, ms, rfl, hm, _⟩ := List.map_eq_cons_iff.1 hls
  rw [← hm, String.toList_ofList]
  exact length_token_lt_of_lexemes_eq hlex

/-- Two words with a space between them come back as the first two tokens if and only if
both are plain. -/
theorem tokens_pair_iff {w v : String} :
    (∃ more, tokens (w ++ " " ++ v) = w :: v :: more) ↔
      isPlain w = true ∧ isPlain v = true := by
  constructor
  · rintro ⟨more, h⟩
    have hw : ∃ c ∈ w.toList, Text.isBlank c = false := by
      refine Decidable.byContradiction fun hno => ?_
      have hblank : ∀ c ∈ w.toList ++ [' '], Text.isBlank c = true := by
        simpa [or_imp, forall_and] using hno
      -- of a blank word nothing is left, so the second word would be read from itself
      have hv : tokens v = w :: v :: more := by
        rw [← h]
        simp only [tokens, String.toList_append]
        rw [show " ".toList = [' '] from rfl, lexemes_append_of_isBlank hblank]
      exact absurd (length_lt_of_tokens_eq hv) (Nat.lt_irrefl _)
    have hwplain : isPlain w = true := by
      rw [String.append_assoc] at h
      exact isPlain_of_tokens_append hw (by simp) h
    rw [tokens_append_space hwplain, List.cons.injEq] at h
    have hv : ∃ c ∈ v.toList, Text.isBlank c = false := by
      refine Decidable.byContradiction fun hno => ?_
      have hnil : tokens v = [] := tokens_eq_nil_iff.2 (by simpa using hno)
      simp [hnil] at h
    have hself : tokens (v ++ "") = v :: more := by
      rw [String.append_empty]
      exact h.2
    exact ⟨hwplain, isPlain_of_tokens_append hv (by simp) hself⟩
  · rintro ⟨hw, hv⟩
    exact ⟨[], by rw [tokens_append_space hw, tokens_of_isPlain hv]⟩

end RemoteConsole
