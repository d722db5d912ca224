import RemoteConsole.Proofs.Command.Dispatch
import RemoteConsole.Proofs.Line.Collapse
import RemoteConsole.Proofs.Line.Pair
import RemoteConsole.Scripted.Peer

/-!
# The method of a forwarded line

A command is looked up under the first token of a line, from which quotes have been taken away.
A line that is forwarded goes out under its first word, as it is written. The two are the same
exactly if that word has no quote at either end (`firstWord_eq_firstToken_iff`). So a name in
quotes is found among the commands that the peer offers, and goes out as a method that the peer
need not offer (`Executor.execute_quoted`). The main statement is `Executor.execute_forwards`.
-/

namespace RemoteConsole

namespace Text

/-- The first word of a text has only blanks before it, and a blank or nothing behind it. -/
theorem exists_append_of_words_eq_cons {s w : List Char} {ws : List (List Char)}
    (h : words s = w :: ws) :
    ∃ gap rest, s = gap ++ (w ++ rest) ∧ (∀ c ∈ gap, isBlank c = true) ∧
      ∀ d ∈ rest.head?, isBlank d = true := by
  induction s generalizing w ws with
  | nil => simp at h
  | cons c r ih =>
      cases hc : isBlank c with
      | true =>
          rw [words_blank hc] at h
          obtain ⟨gap, rest, rfl, hgap, hrest⟩ := ih h
          exact ⟨c :: gap, rest, rfl, by simpa [hc] using hgap, hrest⟩
      | false =>
          cases r with
          | nil =>
              rw [words_singleton hc] at h
              cases h
              exact ⟨[], [], by simp⟩
          | cons d r =>
              cases hd : isBlank d with
              | true =>
                  rw [words_cons_blank hc hd] at h
                  cases h
                  exact ⟨[], d :: r, rfl, by simp, by simpa using hd⟩
              | false =>
                  -- The word goes on, so nothing stands before the rest of it.
                  rw [words_cons_cons hc hd] at h
                  cases hw : words (d :: r) with
                  | nil => simp [words_eq_nil_iff.1 hw d (by simp)] at hd
                  | cons v vs =>
                      rw [hw, extendFirst, List.cons.injEq] at h
                      obtain ⟨rfl, rfl⟩ := h
                      obtain ⟨gap, rest, hr, hgap, hrest⟩ := ih hw
                      cases gap with
                      | nil => exact ⟨[], rest, by rw [hr]; rfl, by simp, hrest⟩
                      | cons x gap =>
                          cases hr
                          simp [hgap d (by simp)] at hd

end Text

theorem exists_append_of_blankWords_eq_cons {line word : String} {ws : List String}
    (h : blankWords line = word :: ws) :
    ∃ rest, tokens line = tokens (word ++ rest) ∧
      ∀ d ∈ rest.toList.head?, Text.isBlank d = true := by
  obtain ⟨w, vs, hwords, rfl, _⟩ := List.map_eq_cons_iff.1 h
  obtain ⟨gap, rest, hline, hgap, hrest⟩ := Text.exists_append_of_words_eq_cons hwords
  refine ⟨String.ofList rest, ?_, by rwa [String.toList_ofList]⟩
  simp only [tokens, hline, lexemes_append_of_isBlank hgap, String.toList_append,
    String.toList_ofList]

theorem word_of_blankWords_eq_cons {line word : String} {ws : List String}
    (h : blankWords line = word :: ws) :
    word.toList ≠ [] ∧ ∀ c ∈ word.toList, Text.isBlank c = false := by
  obtain ⟨w, vs, hwords, rfl, _⟩ := List.map_eq_cons_iff.1 h
  have hmem : w ∈ Text.words line.toList := by simp [hwords]
  rw [String.toList_ofList]
  exact ⟨Text.ne_nil_of_mem_words hmem, Text.not_isBlank_of_mem_words hmem⟩

/-- The first word of a line is its first token exactly if it has no quote at either end. -/
theorem firstWord_eq_firstToken_iff {line name word : String} {args ws : List String}
    (htokens : tokens line = name :: args) (hwords : blankWords line = word :: ws) :
    word = name ↔ isPlain word = true := by
  obtain ⟨rest, hline, hrest⟩ := exists_append_of_blankWords_eq_cons hwords
  rw [hline] at htokens
  constructor
  · rintro rfl
    obtain ⟨hne, hblank⟩ := word_of_blankWords_eq_cons hwords
    obtain ⟨c, hc⟩ := List.exists_mem_of_ne_nil _ hne
    exact isPlain_of_tokens_append ⟨c, hc, hblank c hc⟩ hrest htokens
  · intro hplain
    rw [tokens_append_of_isPlain hplain hrest] at htokens
    exact (List.cons.inj htokens).1

/-- A link that has learned from its peer that it offers `echo`. -/
def echoLink : Link :=
  (Link.connect (Scripted.peer
    [{ method := some describeMethod
       answer := .result (.object [("procs", .ofStrings ["echo"])]) },
      { answer := .result (.string "hi") }])).finishDiscovery

namespace Executor

variable {κ : Type} [Console κ]

/-- A line that makes a link send something goes out in one envelope, under its first word. The
name that was looked up is one that the peer offers; the method is that name, and so offered,
exactly if the word has no quote at either end. -/
theorem execute_forwards {x : Executor κ} {t : Table κ} {s : Scene κ} {l l' : Link}
    {line name : String} {args : List String} (htable : x.registry = .table t)
    (hlink : x.link? s = some l) (hdiscovered : l.isDiscovered = true)
    (htokens : tokens line = name :: args) (hlocal : t.get? name = none)
    (hafter : (x.execute s line).2.link = some l') (hsends : l'.sent ≠ l.sent) :
    name ∈ l.procedures ∧
      ∃ r word ws, l'.sent = l.sent ++ [r] ∧ blankWords line = word :: ws ∧ r.method = word ∧
        (r.method = name ↔
          word.toList.head?.any Lexeme.isQuote = false ∧
            word.toList.getLast?.any Lexeme.isQuote = false) ∧
        (word.toList.head?.any Lexeme.isQuote = false →
          word.toList.getLast?.any Lexeme.isQuote = false → r.method ∈ l.procedures) := by
  have hawait := Link.awaitDiscovery_of_isDiscovered hdiscovered
  rw [execute_of_route_eq_unknown s htable (Table.route_of_get?_eq_none htokens hlocal), hlink]
    at hafter
  cases hremote : l.isRemote name with
  | false =>
      -- A name that is not offered is a miss, and nothing is sent.
      simp only [forward_of_not_isRemote (hawait.symm ▸ hremote), hawait, Scene.link_echo,
        Option.some.injEq] at hafter
      exact absurd (congrArg Link.sent hafter).symm hsends
  | true =>
      have hoffered : name ∈ l.procedures := List.contains_iff_mem.1 hremote
      have hne : tokens line ≠ [] := by simp [htokens]
      obtain ⟨r, henvelope, hcall⟩ := l.exists_call_eq hne
      simp only [forward_of_isRemote_awaitDiscovery (hawait.symm ▸ hremote), hawait, hcall,
        Scene.link_echo, Option.some.injEq] at hafter
      have hwords := henvelope.words.symm
      obtain ⟨hword, hblank⟩ := word_of_blankWords_eq_cons hwords
      have hmethod : r.method = name ↔
          r.method.toList.head?.any Lexeme.isQuote = false ∧
            r.method.toList.getLast?.any Lexeme.isQuote = false := by
        rw [firstWord_eq_firstToken_iff htokens hwords, isPlain_iff]
        exact ⟨fun h => h.2.2, fun h => ⟨hword, hblank, h⟩⟩
      refine ⟨hoffered, r, r.method, r.params.words, ?_, hwords, rfl, hmethod, ?_⟩
      · rw [← hafter]
      · intro hhead hlast
        rwa [hmethod.2 ⟨hhead, hlast⟩]

/-- Quotes behind the first word leave the method as it is. -/
theorem execute_forwards_unquoted :
    let x : Executor Transcript := { registry := .table .empty }
    let s : Scene Transcript := { console := {}, link := some echoLink }
    echoLink.isDiscovered = true ∧ tokens "echo 'a b'" = ["echo", "a b"] ∧
      ∃ l', (x.execute s "echo 'a b'").2.link = some l' ∧ l'.sent ≠ echoLink.sent ∧
        ∃ r, l'.sent = echoLink.sent ++ [r] ∧ r.method = "echo" ∧
          r.method ∈ echoLink.procedures := by
  intro x s
  have hdiscovered : echoLink.isDiscovered = true := rfl
  have htokens : tokens "echo 'a b'" = ["echo", "a b"] := by decide +kernel
  have hsent : (x.execute s "echo 'a b'").2.link.any (·.sent != echoLink.sent) = true := by
    decide +kernel
  obtain ⟨l', hafter, hne⟩ := (Option.any_eq_true _ _).1 hsent
  have hsends : l'.sent ≠ echoLink.sent := bne_iff_ne.1 hne
  obtain ⟨_, r, word, ws, hl', hwords, hword, hmethod, hoffered⟩ :=
    execute_forwards (x := x) (s := s) rfl rfl hdiscovered htokens rfl hafter hsends
  have hecho : blankWords "echo 'a b'" = ["echo", "'a", "b'"] := by decide +kernel
  rw [hecho] at hwords
  cases hwords
  have hhead : "echo".toList.head?.any Lexeme.isQuote = false := rfl
  have hlast : "echo".toList.getLast?.any Lexeme.isQuote = false := rfl
  exact ⟨hdiscovered, htokens, l', hafter, hsends, r, hl', hmethod.2 ⟨hhead, hlast⟩,
    hoffered hhead hlast⟩

/-- A quoted name is found among the commands that the peer offers, and goes out as a method
that it does not offer. -/
theorem execute_quoted :
    let x : Executor Transcript := { registry := .table .empty }
    let s : Scene Transcript := { console := {}, link := some echoLink }
    echoLink.isDiscovered = true ∧ echoLink.procedures = ["echo"] ∧
      (tokens "\"echo\" hi").head? = some "echo" ∧
      (x.execute s "\"echo\" hi").2.link.map Link.sent =
        some (echoLink.sent ++ [{ id := 1, method := "\"echo\"", params := .bare ["hi"] }]) ∧
      "\"echo\"" ≠ "echo" ∧ "\"echo\"" ∉ echoLink.procedures := by
  decide +kernel

end Executor

end RemoteConsole
