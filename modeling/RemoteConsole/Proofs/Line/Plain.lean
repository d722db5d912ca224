import RemoteConsole.Proofs.Line.Collapse
import RemoteConsole.Proofs.Line.Layout
import RemoteConsole.Rpc.Request

/-!
# Words that are read as they are written

A plain word has a first and a last character that are no quotes and holds no blank.
At the front of a line, with a blank or nothing behind it, it is read as one token
that is the word itself (`tokens_append_space`), whatever the rest of the line holds.
So a request whose method is plain is read with the method as its first token
(`Request.tokens_line_of_isPlain`).
-/

namespace RemoteConsole

/-- Whether a word is read as it is written. -/
def isPlain (w : String) : Bool :=
  !w.toList.isEmpty && w.toList.all (!Text.isBlank ·) &&
    !w.toList.head?.any Lexeme.isQuote && !w.toList.getLast?.any Lexeme.isQuote

namespace Lexeme

theorem dropOpening_of_head? {w : List Char} (h : w.head?.any isQuote = false) :
    dropOpening w = w := by
  cases w with
  | nil => rfl
  | cons c r =>
      simp only [List.head?_cons, Option.any_some] at h
      simp [dropOpening, h]

theorem dropClosing_of_getLast? {w : List Char} (h : w.getLast?.any isQuote = false) :
    dropClosing w = w := by
  rw [← List.head?_reverse] at h
  rw [dropClosing, dropOpening_of_head? h, List.reverse_reverse]

end Lexeme

theorem isPlain_iff {w : String} :
    isPlain w = true ↔
      w.toList ≠ [] ∧ (∀ c ∈ w.toList, Text.isBlank c = false) ∧
        w.toList.head?.any Lexeme.isQuote = false ∧
        w.toList.getLast?.any Lexeme.isQuote = false := by
  simp [isPlain, and_assoc]

theorem lexemes_append_of_isPlain {w : String} (h : isPlain w = true) {rest : List Char}
    (hrest : ∀ d ∈ rest.head?, Text.isBlank d = true) :
    lexemes (w.toList ++ rest) = .bare w.toList :: lexemes rest := by
  obtain ⟨hne, hblank, hhead, _⟩ := isPlain_iff.1 h
  cases hw : w.toList with
  | nil => exact absurd hw hne
  | cons c r =>
      rw [hw] at hblank hhead
      have hc : Lexeme.isQuote c = false := by simpa using hhead
      exact lexemes_source_append (.bare hblank hrest (by simp [hc]))

theorem token_bare_of_isPlain {w : String} (h : isPlain w = true) :
    (Lexeme.bare w.toList).token = w.toList := by
  obtain ⟨_, _, hhead, hlast⟩ := isPlain_iff.1 h
  rw [Lexeme.token, Lexeme.dropOpening_of_head? hhead, Lexeme.dropClosing_of_getLast? hlast]

@[simp] theorem tokens_empty : tokens "" = [] := by simp [tokens]

theorem tokens_space_append (line : String) : tokens (" " ++ line) = tokens line := by
  simp only [tokens, String.toList_append]
  rw [show " ".toList = [' '] from rfl, List.singleton_append, lexemes_blank Text.isBlank_space]

theorem tokens_append_of_isPlain {w rest : String} (h : isPlain w = true)
    (hrest : ∀ d ∈ rest.toList.head?, Text.isBlank d = true) :
    tokens (w ++ rest) = w :: tokens rest := by
  simp [tokens, lexemes_append_of_isPlain h hrest, token_bare_of_isPlain h]

theorem tokens_append_space {w : String} (h : isPlain w = true) (line : String) :
    tokens (w ++ " " ++ line) = w :: tokens line := by
  rw [String.append_assoc, tokens_append_of_isPlain h (by simp), tokens_space_append]

theorem tokens_of_isPlain {w : String} (h : isPlain w = true) : tokens w = [w] := by
  have hone : tokens (w ++ "") = w :: tokens "" := tokens_append_of_isPlain h (by simp)
  rwa [String.append_empty, tokens_empty] at hone

theorem blankWords_append_of_isPlain {w rest : String} (h : isPlain w = true)
    (hrest : ∀ d ∈ rest.toList.head?, Text.isBlank d = true) :
    blankWords (w ++ rest) = w :: blankWords rest := by
  obtain ⟨hne, hblank, _⟩ := isPlain_iff.1 h
  simp [blankWords, Text.words_append hne hblank hrest]

/-- Two plain words with a space between them are cut into these two. -/
theorem blankWords_pair {w v : String} (hw : isPlain w = true) (hv : isPlain v = true) :
    blankWords (w ++ " " ++ v) = [w, v] := by
  have hspace : blankWords (" " ++ v) = blankWords (v ++ "") := by
    simp only [blankWords, String.toList_append, String.append_empty]
    rw [show " ".toList = [' '] from rfl, List.singleton_append, Text.words_blank Text.isBlank_space]
  rw [String.append_assoc, blankWords_append_of_isPlain hw (by simp), hspace,
    blankWords_append_of_isPlain hv (by simp)]
  rfl

/-- A request whose method is plain is read with that method as the first token. -/
theorem Request.tokens_line_of_isPlain {r : Request} (h : isPlain r.method = true) :
    tokens r.line = r.method :: tokens (" ".intercalate r.params.words) := by
  cases hw : r.params.words with
  | nil => simp [Request.line, hw, tokens_of_isPlain h]
  | cons w ws =>
      rw [Request.line, hw, String.intercalate_cons_of_ne_nil (by simp), tokens_append_space h]

end RemoteConsole
