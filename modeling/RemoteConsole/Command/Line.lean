import RemoteConsole.Text.Blank

/-!
# The words of a command line

A command line is read as a list of lexemes with blanks between them. A quote,
double or single, that is met again later in the line opens a span: the span
ends at the next equal quote and stands for the text in between, whatever it
holds. Anything else that is not blank starts a bare word, which runs to the
next blank and loses at most one quote at each end. A span needs no blank before
or after it.

`lexemes` is the reading and `tokens` what the lexemes stand for.
`tokens_eq_nil_iff` says that only a blank line has no tokens.
-/

namespace RemoteConsole

/-- One word of a command line as it is written. -/
inductive Lexeme where
  /-- A text between two equal quotes. -/
  | span (quote : Char) (text : List Char)
  /-- A blank-free word that opens no span. -/
  | bare (word : List Char)
  deriving Repr, DecidableEq

namespace Lexeme

def isQuote (c : Char) : Bool := c == '"' || c == '\''

/-- A word without a quote at its very beginning. -/
def dropOpening : List Char → List Char
  | [] => []
  | c :: r => if isQuote c then r else c :: r

/-- A word without a quote at its very end. -/
def dropClosing (w : List Char) : List Char := (dropOpening w.reverse).reverse

/-- The text that a lexeme stands for. -/
def token : Lexeme → List Char
  | span _ text => text
  | bare word => dropClosing (dropOpening word)

/-- The characters a lexeme is written with. -/
def source : Lexeme → List Char
  | span quote text => quote :: text ++ [quote]
  | bare word => word

@[simp] theorem source_span (q : Char) (t : List Char) :
    (span q t).source = q :: t ++ [q] := rfl

@[simp] theorem source_bare (w : List Char) : (bare w).source = w := rfl

/-- The text up to the next `quote` and what follows that quote, if there is one. -/
def upTo (quote : Char) : List Char → Option (List Char × List Char)
  | [] => none
  | c :: r =>
    if c = quote then some ([], r)
    else (upTo quote r).map fun (text, rest) => (c :: text, rest)

theorem eq_of_upTo {q : Char} {s text rest : List Char}
    (h : upTo q s = some (text, rest)) : s = text ++ q :: rest := by
  induction s generalizing text rest with
  | nil => simp [upTo] at h
  | cons c r ih =>
    simp only [upTo] at h
    split at h
    · rename_i hc; simp at h; simp [← h.1, ← h.2, hc]
    · cases hr : upTo q r with
      | none => simp [hr] at h
      | some p =>
        obtain ⟨t, u⟩ := p
        simp [hr] at h
        simp [← h.1, ← h.2, ih hr]

/-- The first lexeme of a text that starts with the character `c`, which is not
blank, and what is left of the text after it. -/
def first (c : Char) (r : List Char) : Lexeme × List Char :=
  match if isQuote c then upTo c r else none with
  | some (text, rest) => (span c text, rest)
  | none => (bare (c :: r.takeWhile (!Text.isBlank ·)), r.dropWhile (!Text.isBlank ·))

/-- Reading the first lexeme splits the text. -/
theorem source_first (c : Char) (r : List Char) :
    (first c r).1.source ++ (first c r).2 = c :: r := by
  unfold first
  split
  · rename_i text rest h
    split at h
    · simp [eq_of_upTo h]
    · simp at h
  · simp

theorem length_first_lt (c : Char) (r : List Char) : (first c r).2.length < r.length + 1 := by
  have h := congrArg List.length (source_first c r)
  have : 0 < (first c r).1.source.length := by
    unfold first
    split <;> simp
  simp only [List.length_append, List.length_cons] at h
  omega

end Lexeme

def lexemes : List Char → List Lexeme
  | [] => []
  | c :: r =>
    if Text.isBlank c then lexemes r
    else
      have := Lexeme.length_first_lt c r
      (Lexeme.first c r).1 :: lexemes (Lexeme.first c r).2
termination_by s => s.length

@[simp] theorem lexemes_nil : lexemes [] = [] := by
  rw [lexemes]

theorem lexemes_blank {c : Char} (h : Text.isBlank c = true) (r : List Char) :
    lexemes (c :: r) = lexemes r := by
  rw [lexemes, if_pos h]

theorem lexemes_cons {c : Char} (h : Text.isBlank c = false) (r : List Char) :
    lexemes (c :: r) = (Lexeme.first c r).1 :: lexemes (Lexeme.first c r).2 := by
  rw [lexemes, if_neg (by simp [h])]

theorem lexemes_eq_nil_iff {s : List Char} :
    lexemes s = [] ↔ ∀ c ∈ s, Text.isBlank c = true := by
  induction s with
  | nil => simp
  | cons c r ih =>
    cases hc : Text.isBlank c with
    | true => simp [lexemes_blank hc, ih, hc]
    | false => simp [lexemes_cons hc, hc]

/-- The words that a command line stands for, quotes taken away. -/
def tokens (line : String) : List String :=
  (lexemes line.toList).map fun l => String.ofList l.token

theorem tokens_eq_nil_iff {line : String} :
    tokens line = [] ↔ ∀ c ∈ line.toList, Text.isBlank c = true := by
  simp [tokens, lexemes_eq_nil_iff]

end RemoteConsole
