import Mathlib.Data.List.Permutation
import RemoteConsole.Proofs.Line.Collapse
import RemoteConsole.Proofs.Line.Layout
import RemoteConsole.Rpc.Request

/-!
# The tokens of a forwarded line

A forwarded line is cut at its blanks, quotes or not, and the peer puts the words
together again with single spaces and reads its tokens anew. The cuts go through
the spans as well. Whether a quote opens a span depends on the text behind it, as
far as that goes, so the argument is that settling the rest of a line leaves every
such decision as it was (`upTo_settle`, `first_settle`): the lexemes of the settled
text are those of the text, each collapsed (`lexemes_settle`). The main statement is
`tokens_line_ofLine?`.
-/

namespace RemoteConsole

namespace Lexeme

/-- A lexeme whose text is collapsed. A bare word has no blanks to collapse. -/
def collapse : Lexeme → Lexeme
  | span q text => span q (Text.collapse text)
  | bare word => bare word

/-- Settling the rest of a line moves no closing quote: the text before it is
collapsed and what comes after it is settled. -/
theorem upTo_settle {q : Char} (hq : Text.isBlank q = false) (s : List Char) :
    upTo q (Text.settle s)
      = (upTo q s).map fun p => (Text.collapse p.1, Text.settle p.2) := by
  induction s with
  | nil => rfl
  | cons c r ih =>
      cases hc : Text.isBlank c with
      | false =>
          rw [Text.settle_cons hc, upTo, upTo, ih]
          split
          · rfl
          · simp [Option.map_map, Function.comp_def, Text.collapse_cons hc]
      | true =>
          have hcq : c ≠ q := fun h => by simp [h, hq] at hc
          cases r with
          | nil => simp [Text.settle_blank_singleton hc, upTo, hcq]
          | cons d r =>
              cases hd : Text.isBlank d with
              | true =>
                  have hdq : d ≠ q := fun h => by simp [h, hq] at hd
                  rw [Text.settle_blank_blank hc hd, ih, upTo.eq_def q (c :: d :: r)]
                  simp only [hcq, if_false, Option.map_map]
                  simp only [upTo, hdq, if_false, Option.map_map]
                  congr 1
                  funext p
                  simp [Text.collapse_blank_blank hc hd]
              | false =>
                  have hsq : ' ' ≠ q := fun h => by simp [← h] at hq
                  rw [Text.settle_blank_cons hc hd, upTo, if_neg hsq, ih,
                    upTo.eq_def q (c :: d :: r)]
                  simp only [hcq, if_false, Option.map_map]
                  by_cases hdq : d = q
                  · simp [upTo, hdq, Text.collapse_blank_singleton hc]
                  · simp only [upTo, hdq, if_false, Option.map_map]
                    congr 1
                    funext p
                    simp [Text.collapse_blank_cons hc hd]

theorem takeWhile_settle (s : List Char) :
    (Text.settle s).takeWhile (!Text.isBlank ·) = s.takeWhile (!Text.isBlank ·) := by
  induction s with
  | nil => rfl
  | cons c r ih =>
      cases hc : Text.isBlank c with
      | false => simp [Text.settle_cons hc, hc, ih]
      | true =>
          cases r with
          | nil => simp [Text.settle_blank_singleton hc, hc]
          | cons d r =>
              cases hd : Text.isBlank d with
              | true =>
                  rw [Text.settle_blank_blank hc hd, ih]
                  simp [hc, hd]
              | false => simp [Text.settle_blank_cons hc hd, hc]

theorem dropWhile_settle (s : List Char) :
    (Text.settle s).dropWhile (!Text.isBlank ·)
      = Text.settle (s.dropWhile (!Text.isBlank ·)) := by
  induction s with
  | nil => rfl
  | cons c r ih =>
      cases hc : Text.isBlank c with
      | false => simp [Text.settle_cons hc, hc, ih]
      | true =>
          cases r with
          | nil => simp [Text.settle_blank_singleton hc, hc]
          | cons d r =>
              cases hd : Text.isBlank d with
              | true =>
                  rw [Text.settle_blank_blank hc hd, ih]
                  simp [hc, hd, Text.settle_blank_blank hc hd]
              | false => simp [Text.settle_blank_cons hc hd, hc]

/-- The first lexeme of a settled text is the first lexeme collapsed, and the rest
is settled. A character opens a span in one text if and only if it does in the
other. -/
theorem first_settle (c : Char) (r : List Char) :
    first c (Text.settle r) = ((first c r).1.collapse, Text.settle (first c r).2) := by
  cases hq : isQuote c with
  | false => simp [first, hq, collapse, takeWhile_settle, dropWhile_settle]
  | true =>
      have hb : Text.isBlank c = false := not_isBlank_of_isQuote hq
      cases hu : upTo c r with
      | none => simp [first, hq, upTo_settle hb, hu, collapse, takeWhile_settle, dropWhile_settle]
      | some p =>
          obtain ⟨text, rest⟩ := p
          simp [first, hq, upTo_settle hb, hu, collapse]

end Lexeme

/-- Settling a text collapses its lexemes and changes nothing else about them. -/
theorem lexemes_settle (s : List Char) :
    lexemes (Text.settle s) = (lexemes s).map Lexeme.collapse := by
  fun_induction lexemes s with
  | case1 => simp
  | case2 c r hc ih =>
      cases r with
      | nil => simp [Text.settle_blank_singleton hc]
      | cons d r =>
          cases hd : Text.isBlank d with
          | true => rw [Text.settle_blank_blank hc hd, ih]
          | false => rw [Text.settle_blank_cons hc hd, lexemes_blank Text.isBlank_space, ih]
  | case3 c r hc _ ih =>
      have hc : Text.isBlank c = false := by simpa using hc
      rw [Text.settle_cons hc, lexemes_cons hc, Lexeme.first_settle, List.map_cons, ih]

/-- The lexemes of the words of a text, put together again. -/
theorem lexemes_intercalate_words (s : List Char) :
    lexemes ([' '].intercalate (Text.words s)) = (lexemes s).map Lexeme.collapse := by
  induction s with
  | nil => simp
  | cons c r ih =>
      cases hc : Text.isBlank c with
      | true => rw [Text.words_blank hc, lexemes_blank hc, ih]
      | false =>
          rw [Text.intercalate_words_cons hc, ← Text.settle_cons hc, lexemes_settle]

theorem not_isBlank_of_bare_mem_lexemes {s w : List Char} (h : Lexeme.bare w ∈ lexemes s) :
    ∀ c ∈ w, Text.isBlank c = false := by
  obtain ⟨_, _, _, hfits⟩ := (laidOut_lexemes s).fits_of_mem h
  cases hfits with
  | bare hword _ _ => exact hword

theorem token_collapse {s : List Char} {l : Lexeme} (h : l ∈ lexemes s) :
    l.collapse.token = Text.collapse l.token := by
  cases l with
  | span q text => rfl
  | bare w =>
      refine (Text.collapse_of_not_isBlank fun c hc => ?_).symm
      exact not_isBlank_of_bare_mem_lexemes h c (Lexeme.mem_of_mem_token_bare hc)

/-- The tokens of a line whose words are put together again. -/
theorem tokens_rejoin (line : String) :
    tokens (rejoin line) = (tokens line).map collapseBlanks := by
  unfold tokens
  rw [toList_rejoin, lexemes_intercalate_words, List.map_map, List.map_map]
  refine List.map_congr_left fun l hl => ?_
  simp [collapseBlanks, token_collapse hl]

namespace Request

theorem exists_ofLine? (id : UInt64) {line : String}
    (h : ∃ c ∈ line.toList, Text.isBlank c = false) :
    ∃ r, ofLine? id line = some r ∧ r.id = id ∧ r.params.token? = none ∧
      r.line = rejoin line := by
  cases hw : blankWords line with
  | nil =>
      obtain ⟨c, hc, hb⟩ := h
      have hn : ofLine? id line = none := by simp [ofLine?, hw]
      simp [ofLine?_eq_none_iff.1 hn c hc] at hb
  | cons m ws =>
      let r : Request := { id, method := m, params := .bare ws }
      have hline : r.line = rejoin line := by
        rw [rejoin, hw]
        rfl
      exact ⟨r, ofLine?_eq_some_iff.2 ⟨rfl, rfl, hw.symm⟩, rfl, rfl, hline⟩

/-- A line that is not blank arrives as its tokens with every run of blanks in them
collapsed: as many tokens as were sent, and those without blanks unchanged. -/
theorem tokens_line_ofLine? (id : UInt64) (line : String)
    (h : ∃ c ∈ line.toList, Text.isBlank c = false) :
    ∃ r, ofLine? id line = some r ∧
      tokens r.line = (tokens line).map collapseBlanks ∧
      (tokens r.line).length = (tokens line).length ∧
      ∀ (i : Nat) (t : String), (tokens line)[i]? = some t →
        (∀ c ∈ t.toList, Text.isBlank c = false) → (tokens r.line)[i]? = some t := by
  obtain ⟨r, hr, _, _, hline⟩ := exists_ofLine? id h
  have htokens : tokens r.line = (tokens line).map collapseBlanks := by
    rw [hline, tokens_rejoin]
  refine ⟨r, hr, htokens, ?_, ?_⟩
  · rw [htokens, List.length_map]
  · intro i t ht hb
    rw [htokens, List.getElem?_map, ht, Option.map_some, collapseBlanks_of_not_isBlank hb]

/-- A span with a run of blanks, a stray quote right behind it, and a quote that is
never closed. -/
theorem tokens_line_ofLine?_quotes :
    (∃ c ∈ "'a \t b'\" 'c".toList, Text.isBlank c = false) ∧
      ∃ r, ofLine? 7 "'a \t b'\" 'c" = some r ∧ tokens r.line = ["a b", "", "c"] := by
  have h : ∃ c ∈ "'a \t b'\" 'c".toList, Text.isBlank c = false :=
    ⟨'a', by decide, by decide +kernel⟩
  obtain ⟨r, hr, ht, _⟩ := tokens_line_ofLine? 7 _ h
  refine ⟨h, r, hr, ?_⟩
  rw [ht]
  cbv

end Request

end RemoteConsole
