import RemoteConsole.Program.Run
import RemoteConsole.Proofs.Line.Conservation

/-!
# Words joined to a line

The words given to a one-line run are joined to a line with single spaces, those with blanks
in quotes. Words that are each read as themselves, whatever comes after them, can be joined
(`tokens_intercalate_of_readsAs`). For the converse quotes are counted: a line that is read as
the words it was joined from loses as many as were added, and no lexeme loses fewer than its
word would get, so each loses just these. The main statement, `Exec.tokens_joinLine_iff`, says
exactly which words survive.
-/

namespace RemoteConsole

/-- A written word that is read as a certain word, if a blank or nothing comes after it. -/
def ReadsAs (written word : String) : Prop :=
  ∀ rest : List Char, (∀ d ∈ rest.head?, Text.isBlank d = true) →
    ∃ l, lexemes (written.toList ++ rest) = l :: lexemes rest ∧ l.token = word.toList

theorem readsAs_of_isPlain {w : String} (h : isPlain w = true) : ReadsAs w w := by
  intro rest hrest
  exact ⟨_, lexemes_append_of_isPlain h hrest, token_bare_of_isPlain h⟩

theorem tokens_append_of_readsAs {written word : String} (h : ReadsAs written word)
    (rest : String) (hrest : ∀ d ∈ rest.toList.head?, Text.isBlank d = true) :
    tokens (written ++ rest) = word :: tokens rest := by
  obtain ⟨l, hlex, htoken⟩ := h rest.toList hrest
  simp only [tokens, String.toList_append, hlex, List.map_cons, htoken, String.ofList_toList]

/-- Words that are each read as themselves can be joined. -/
theorem tokens_intercalate_of_readsAs {write : String → String} {words : List String}
    (h : ∀ w ∈ words, ReadsAs (write w) w) :
    tokens (" ".intercalate (words.map write)) = words := by
  induction words with
  | nil => exact tokens_empty
  | cons w ws ih =>
      have hw : ReadsAs (write w) w := h w (by simp)
      have hws := ih fun v hv => h v (by simp [hv])
      cases ws with
      | nil =>
          have hone := tokens_append_of_readsAs hw "" (by simp)
          rw [String.append_empty, tokens_empty] at hone
          simpa using hone
      | cons v vs =>
          rw [List.map_cons, String.intercalate_cons_of_ne_nil (by simp), String.append_assoc,
            tokens_append_of_readsAs hw _ (by simp), tokens_space_append, hws]

/-- A bare word that loses no quote is plain. -/
theorem isPlain_of_bare_mem_lexemes {s w : List Char} (hmem : .bare w ∈ lexemes s)
    (h : (Lexeme.bare w).loss = 0) :
    isPlain (String.ofList (Lexeme.bare w).token) = true := by
  have hlength : w.length ≤ (Lexeme.bare w).token.length := Nat.le_of_sub_eq_zero h
  obtain ⟨hhead, hlast⟩ := Lexeme.quotes_of_length_token hlength
  have htoken : (Lexeme.bare w).token = w := by
    rw [Lexeme.token, Lexeme.dropOpening_of_head? hhead, Lexeme.dropClosing_of_getLast? hlast]
  rw [htoken, isPlain_iff, String.toList_ofList]
  exact ⟨ne_nil_of_bare_mem_lexemes hmem, not_isBlank_of_bare_mem_lexemes hmem, hhead, hlast⟩

/-- Words with a single space between one and the next are read as these words if and only if
all of them are plain. -/
theorem tokens_intercalate_iff {words : List String} :
    tokens (" ".intercalate words) = words ↔ ∀ w ∈ words, isPlain w = true := by
  constructor
  · intro h w hw
    -- Nothing was added to the words, so no lexeme loses anything.
    have hwrite : ∀ w : String, Text.marks (id w).toList = Text.marks w.toList + 0 := fun _ => rfl
    have hsum : ((lexemes (" ".intercalate words).toList).map Lexeme.loss).sum = 0 := by
      simpa using sum_loss_of_tokens_eq hwrite (by simpa using h)
    rw [← h, tokens] at hw
    obtain ⟨l, hl, rfl⟩ := List.mem_map.1 hw
    have hloss : l.loss = 0 := List.sum_eq_zero_iff.1 hsum _ (List.mem_map_of_mem hl)
    cases l with
    | span q t =>
        rw [Lexeme.loss_span] at hloss
        cases hloss
    | bare v => exact isPlain_of_bare_mem_lexemes hl hloss
  · intro h
    have hread : ∀ w ∈ words, ReadsAs (id w) w := fun w hw => readsAs_of_isPlain (h w hw)
    simpa using tokens_intercalate_of_readsAs hread

/-- A request, with a credential or without, is read as its method and its words, one by one,
if and only if none of these is empty, holds a blank, or begins or ends with a quote. -/
theorem Request.tokens_line_iff (r : Request) :
    tokens r.line = r.method :: r.params.words ↔
      ∀ w ∈ r.method :: r.params.words,
        w ≠ "" ∧ (∀ c ∈ w.toList, Text.isBlank c = false) ∧
          w.toList.head?.any Lexeme.isQuote = false ∧
          w.toList.getLast?.any Lexeme.isQuote = false := by
  rw [line, tokens_intercalate_iff]
  refine forall₂_congr fun w _ => ?_
  rw [isPlain_iff, ne_eq, ne_eq, String.toList_eq_nil_iff]

namespace Exec

/-- How many quotes a word gets when it is written. -/
def added (w : String) : Nat := if w.toList.any Text.isBlank then 2 else 0

theorem marks_quoteWord (w : String) :
    Text.marks (quoteWord w).toList = Text.marks w.toList + added w := by
  simp only [quoteWord, added]
  split
  · split <;> simp [Text.marks_append, Text.marks_cons]
  · rfl

theorem exists_quote_of_quoteWord {w : String} (hblank : w.toList.any Text.isBlank = true)
    (hquote : '"' ∉ w.toList ∨ '\'' ∉ w.toList) :
    ∃ q, Lexeme.isQuote q = true ∧ q ∉ w.toList ∧ (quoteWord w).toList = q :: w.toList ++ [q] := by
  by_cases hdouble : '"' ∈ w.toList
  · refine ⟨'\'', rfl, hquote.resolve_left (not_not_intro hdouble), ?_⟩
    simp [quoteWord, hblank, hdouble]
  · refine ⟨'"', rfl, hdouble, ?_⟩
    simp [quoteWord, hblank, hdouble]

theorem readsAs_quoteWord_of_isBlank {w : String} (hblank : w.toList.any Text.isBlank = true)
    (hquote : '"' ∉ w.toList ∨ '\'' ∉ w.toList) : ReadsAs (quoteWord w) w := by
  obtain ⟨q, hq, hmem, hwritten⟩ := exists_quote_of_quoteWord hblank hquote
  intro rest _
  refine ⟨.span q w.toList, ?_, rfl⟩
  rw [hwritten]
  exact lexemes_source_append (.span hq hmem)

theorem readsAs_quoteWord_of_isPlain {w : String} (h : isPlain w = true) :
    ReadsAs (quoteWord w) w := by
  have hblank : w.toList.any Text.isBlank = false := by
    simpa using (isPlain_iff.1 h).2.1
  rw [quoteWord, if_neg (by simp [hblank])]
  exact readsAs_of_isPlain h

theorem any_isBlank_token_of_bare_mem_lexemes {s w : List Char} (h : .bare w ∈ lexemes s) :
    (Lexeme.bare w).token.any Text.isBlank = false := by
  have hnone : ∀ c ∈ (Lexeme.bare w).token, Text.isBlank c = false := by
    intro c hc
    exact not_isBlank_of_bare_mem_lexemes h c (Lexeme.mem_of_mem_token_bare hc)
  simpa using hnone

/-- A lexeme loses at least the quotes that its token would get. -/
theorem added_le_loss {s : List Char} {l : Lexeme} (h : l ∈ lexemes s) :
    added (String.ofList l.token) ≤ l.loss := by
  rw [added, String.toList_ofList]
  cases l with
  | span q t =>
      rw [Lexeme.loss_span]
      split <;> omega
  | bare w =>
      rw [any_isBlank_token_of_bare_mem_lexemes h]
      exact Nat.zero_le _

/-- If a joined line is read as the words, each lexeme loses just the quotes that its token
got. -/
theorem loss_eq_added_of_tokens_joinLine {words : List String}
    (h : tokens (joinLine words) = words) :
    ∀ l ∈ lexemes (joinLine words).toList, l.loss = added (String.ofList l.token) := by
  have hsum := sum_loss_of_tokens_eq marks_quoteWord h
  have hwords : words.map added =
      (lexemes (joinLine words).toList).map fun l => added (String.ofList l.token) := by
    conv_lhs => rw [← h]
    simp only [tokens, List.map_map, Function.comp_def]
  rw [hwords] at hsum
  -- The sums are equal and no term exceeds its partner, so no partner exceeds its term.
  intro l hl
  by_contra hne
  have hlt : added (String.ofList l.token) < l.loss :=
    Nat.lt_of_le_of_ne (added_le_loss hl) (Ne.symm hne)
  have hless := List.sum_lt_sum (l := lexemes (joinLine words).toList)
    (fun l => added (String.ofList l.token)) Lexeme.loss (fun l hl => added_le_loss hl)
    ⟨l, hl, hlt⟩
  exact absurd hsum hless.ne'

/-- A word that is not empty and either holds a blank and lacks one of the two quotes, or
holds no blank and has no quote at either end. -/
def Survives (w : String) : Prop :=
  w ≠ "" ∧
    ((∃ c ∈ w.toList, Text.isBlank c = true) ∧ ('"' ∉ w.toList ∨ '\'' ∉ w.toList) ∨
      (∀ c ∈ w.toList, Text.isBlank c = false) ∧
        w.toList.head?.any Lexeme.isQuote = false ∧
        w.toList.getLast?.any Lexeme.isQuote = false)

theorem readsAs_quoteWord {w : String} (h : Survives w) : ReadsAs (quoteWord w) w := by
  obtain ⟨hne, ⟨hblank, hquote⟩ | hplain⟩ := h
  · exact readsAs_quoteWord_of_isBlank (by simpa using hblank) hquote
  · exact readsAs_quoteWord_of_isPlain (isPlain_iff.2 ⟨by simpa using hne, hplain⟩)

theorem survives_of_span {s t : List Char} {q : Char} (hmem : .span q t ∈ lexemes s)
    (h : added (String.ofList t) = 2) : Survives (String.ofList t) := by
  obtain ⟨hq, hqt⟩ := isQuote_of_span_mem_lexemes hmem
  have hblank : ∃ c ∈ t, Text.isBlank c = true := by
    simpa [added] using h
  have hne : t ≠ [] := by
    rintro rfl
    simp at hblank
  simp only [Lexeme.isQuote, Bool.or_eq_true, beq_iff_eq] at hq
  refine ⟨by simpa using hne, .inl ⟨by simpa using hblank, ?_⟩⟩
  rw [String.toList_ofList]
  rcases hq with rfl | rfl
  · exact .inl hqt
  · exact .inr hqt

theorem survives_of_bare {s w : List Char} (hmem : .bare w ∈ lexemes s)
    (h : (Lexeme.bare w).loss = 0) : Survives (String.ofList (Lexeme.bare w).token) := by
  obtain ⟨hne, hplain⟩ := isPlain_iff.1 (isPlain_of_bare_mem_lexemes hmem h)
  exact ⟨by simpa using hne, .inr hplain⟩

theorem survives_of_loss_eq_added {s : List Char} {l : Lexeme} (hmem : l ∈ lexemes s)
    (h : l.loss = added (String.ofList l.token)) : Survives (String.ofList l.token) := by
  cases l with
  | span q t => exact survives_of_span hmem (h.symm.trans (Lexeme.loss_span q t))
  | bare w =>
      have hadded : added (String.ofList (Lexeme.bare w).token) = 0 := by
        rw [added, String.toList_ofList, any_isBlank_token_of_bare_mem_lexemes hmem]
        rfl
      exact survives_of_bare hmem (h.trans hadded)

/-- The words of a one-line run come back from the line they are joined to if and only if all
of them survive. -/
theorem tokens_joinLine_iff (words : List String) :
    tokens (joinLine words) = words ↔ ∀ w ∈ words, Survives w := by
  constructor
  · intro h w hw
    have hloss := loss_eq_added_of_tokens_joinLine h
    rw [← h, tokens] at hw
    obtain ⟨l, hl, rfl⟩ := List.mem_map.1 hw
    exact survives_of_loss_eq_added hl (hloss l hl)
  · intro h
    exact tokens_intercalate_of_readsAs fun w hw => readsAs_quoteWord (h w hw)

example :
    tokens (joinLine ["say", "it's fine", "a=\"b\"c"]) = ["say", "it's fine", "a=\"b\"c"] := by
  decide +kernel

/-- A quote in front of one word pairs with one behind a later word. -/
example : tokens (joinLine ["'a", "b", "c'"]) = ["a b c"] := by
  decide +kernel

end Exec

end RemoteConsole
