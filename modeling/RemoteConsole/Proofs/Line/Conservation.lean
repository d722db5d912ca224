import Mathlib.Algebra.Order.BigOperators.Group.List
import Mathlib.Algebra.Order.Ring.Nat
import RemoteConsole.Proofs.Line.Forwarding
import RemoteConsole.Proofs.Line.Pair

/-!
# What a line is made of

The marks of a text are its characters that are not blank. A line has the marks of its
lexemes and no others (`marks_lexemes`), and a lexeme has those of its token and one for each
quote that is lost (`Lexeme.marks_source`). So if the words of a list are written down in some
way, with single spaces in between, and the line is read back as these words, then exactly as
many quotes are lost in reading as were added in writing (`sum_loss_of_tokens_eq`).
-/

namespace RemoteConsole

namespace Text

/-- How many characters of a text are not blank. -/
def marks (s : List Char) : Nat := s.countP (!isBlank ·)

@[simp] theorem marks_nil : marks [] = 0 := rfl

theorem marks_blank {c : Char} (h : isBlank c = true) (r : List Char) :
    marks (c :: r) = marks r := by
  simp [marks, h]

theorem marks_cons {c : Char} (h : isBlank c = false) (r : List Char) :
    marks (c :: r) = marks r + 1 := by
  simp [marks, h]

theorem marks_append (s t : List Char) : marks (s ++ t) = marks s + marks t :=
  List.countP_append

theorem marks_of_isQuote {s : List Char} (h : ∀ c ∈ s, Lexeme.isQuote c = true) :
    marks s = s.length :=
  List.countP_eq_length.2 fun c hc => by simp [Lexeme.not_isBlank_of_isQuote (h c hc)]

theorem marks_intercalate (ws : List (List Char)) :
    marks ([' '].intercalate ws) = (ws.map marks).sum := by
  induction ws with
  | nil => rfl
  | cons w ws ih =>
      cases ws with
      | nil => simp
      | cons v vs =>
          rw [List.intercalate_cons_cons, marks_append, marks_append, ih,
            marks_blank isBlank_space, marks_nil, Nat.add_zero]
          rfl

end Text

namespace Lexeme

/-- How many quotes a lexeme loses when it is read. -/
def loss (l : Lexeme) : Nat := l.source.length - l.token.length

theorem loss_span (q : Char) (t : List Char) : (span q t).loss = 2 := by
  simp only [loss, token, source_span, List.length_append, List.length_cons, List.length_nil]
  omega

/-- A lexeme loses marks only, and its token has the others. -/
theorem marks_source {l : Lexeme} {rest : List Char} (h : l.Fits rest) :
    Text.marks l.source = Text.marks l.token + l.loss := by
  cases h with
  | @span quote text hquote _ =>
      have hq := not_isBlank_of_isQuote hquote
      rw [loss_span, source_span, token, List.cons_append, Text.marks_cons hq, Text.marks_append,
        Text.marks_cons hq, Text.marks_nil]
  | @bare c word _ _ _ =>
      obtain ⟨opening, closing, hword, _, _, hquote⟩ := exists_token_bare (c :: word)
      have hopening := Text.marks_of_isQuote fun d hd => hquote d (List.mem_append_left closing hd)
      have hclosing := Text.marks_of_isQuote fun d hd => hquote d (List.mem_append_right opening hd)
      have hmarks := congrArg Text.marks hword
      have hlength := congrArg List.length hword
      rw [Text.marks_append, Text.marks_append, hopening, hclosing] at hmarks
      rw [List.length_append, List.length_append] at hlength
      simp only [loss, source_bare]
      omega

end Lexeme

theorem isQuote_of_span_mem_lexemes {s t : List Char} {q : Char} (h : .span q t ∈ lexemes s) :
    Lexeme.isQuote q = true ∧ q ∉ t := by
  obtain ⟨_, _, _, hfits⟩ := (laidOut_lexemes s).fits_of_mem h
  cases hfits with
  | span hquote htext => exact ⟨hquote, htext⟩

theorem ne_nil_of_bare_mem_lexemes {s w : List Char} (h : .bare w ∈ lexemes s) : w ≠ [] := by
  obtain ⟨_, _, _, hfits⟩ := (laidOut_lexemes s).fits_of_mem h
  cases hfits with
  | bare _ _ _ => exact List.cons_ne_nil _ _

/-- Every mark of a text belongs to one of its lexemes. -/
theorem marks_lexemes (s : List Char) :
    Text.marks s = ((lexemes s).map fun l => Text.marks l.source).sum := by
  fun_induction lexemes s with
  | case1 => simp
  | case2 c r hc ih => rw [Text.marks_blank hc, ih]
  | case3 c r hc _ ih =>
      rw [List.map_cons, List.sum_cons, ← ih, ← Text.marks_append, Lexeme.source_first]

theorem marks_eq_sum_add_sum_loss (s : List Char) :
    Text.marks s = ((lexemes s).map fun l => Text.marks l.token).sum
      + ((lexemes s).map Lexeme.loss).sum := by
  rw [marks_lexemes, ← List.sum_map_add]
  congr 1
  refine List.map_congr_left ?_
  intro l hl
  obtain ⟨_, _, _, hfits⟩ := (laidOut_lexemes s).fits_of_mem hl
  exact Lexeme.marks_source hfits

/-- Of words that are written down with some marks added and read back as they were, as many
quotes are lost as there were marks added. -/
theorem sum_loss_of_tokens_eq {words : List String} {write : String → String}
    {added : String → Nat}
    (hwrite : ∀ w, Text.marks (write w).toList = Text.marks w.toList + added w)
    (h : tokens (" ".intercalate (words.map write)) = words) :
    ((lexemes (" ".intercalate (words.map write)).toList).map Lexeme.loss).sum =
      (words.map added).sum := by
  have hline : Text.marks (" ".intercalate (words.map write)).toList =
      (words.map fun w => Text.marks w.toList).sum + (words.map added).sum := by
    rw [String.toList_intercalate, show " ".toList = [' '] from rfl, Text.marks_intercalate,
      ← List.sum_map_add]
    simp only [List.map_map, Function.comp_def, hwrite]
  have htokens : (words.map fun w => Text.marks w.toList).sum =
      ((lexemes (" ".intercalate (words.map write)).toList).map
        fun l => Text.marks l.token).sum := by
    conv_lhs => rw [← h]
    simp only [tokens, List.map_map, Function.comp_def, String.toList_ofList]
  have hsplit := marks_eq_sum_add_sum_loss (" ".intercalate (words.map write)).toList
  omega

end RemoteConsole
