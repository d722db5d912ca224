/-!
# Blank characters and the words between them

A character is blank when it has the Unicode property `White_Space`. `words`
cuts a text into its maximal blank-free runs and `trim` removes the blanks at
both ends. The main statements say that a word is never empty and never holds a
blank (`ne_nil_of_mem_words`, `not_isBlank_of_mem_words`), and that a text has
no words exactly when all of it is blank (`words_eq_nil_iff`).
-/

namespace RemoteConsole
namespace Text

/-- The characters with the Unicode property `White_Space`. -/
@[irreducible] def isBlank (c : Char) : Bool :=
  let n := c.toNat
  (0x9 ≤ n && n ≤ 0xD) || n == 0x20 || n == 0x85 || n == 0xA0 || n == 0x1680 ||
    (0x2000 ≤ n && n ≤ 0x200A) || n == 0x2028 || n == 0x2029 || n == 0x202F ||
    n == 0x205F || n == 0x3000

@[simp] theorem isBlank_space : isBlank ' ' = true := by decide +kernel

@[simp] theorem isBlank_doubleQuote : isBlank '"' = false := by decide +kernel

@[simp] theorem isBlank_singleQuote : isBlank '\'' = false := by decide +kernel

/-- Put one more character in front of the first word. -/
def extendFirst (c : Char) : List (List Char) → List (List Char)
  | [] => [[c]]
  | w :: ws => (c :: w) :: ws

/-- The maximal blank-free runs of a text, in order. -/
def words : List Char → List (List Char)
  | [] => []
  | c :: r =>
    if isBlank c then words r
    else if (r.head?.map isBlank).getD true then [c] :: words r
    else extendFirst c (words r)

@[simp] theorem words_nil : words [] = [] := rfl

theorem words_blank {c : Char} (h : isBlank c = true) (r : List Char) :
    words (c :: r) = words r := by
  simp [words, h]

theorem ne_nil_of_mem_words {s : List Char} {w : List Char} (h : w ∈ words s) : w ≠ [] := by
  induction s generalizing w with
  | nil => simp at h
  | cons c r ih =>
    unfold words at h
    split at h
    · exact ih h
    · split at h
      · rcases List.mem_cons.1 h with rfl | h
        · simp
        · exact ih h
      · cases hw : words r with
        | nil => simp [hw, extendFirst] at h; simp [h]
        | cons v vs =>
          simp only [hw, extendFirst, List.mem_cons] at h
          rcases h with rfl | h
          · simp
          · exact ih (by simp [hw, h])

theorem not_isBlank_of_mem_words {s : List Char} {w : List Char} (h : w ∈ words s) :
    ∀ c ∈ w, isBlank c = false := by
  induction s generalizing w with
  | nil => simp at h
  | cons c r ih =>
    unfold words at h
    split at h
    · exact ih h
    · rename_i hc
      split at h
      · rcases List.mem_cons.1 h with rfl | h
        · simpa using hc
        · exact ih h
      · cases hw : words r with
        | nil => simp [hw, extendFirst] at h; simpa [h] using hc
        | cons v vs =>
          simp only [hw, extendFirst, List.mem_cons] at h
          rcases h with rfl | h
          · intro d hd
            rcases List.mem_cons.1 hd with rfl | hd
            · simpa using hc
            · exact ih (by simp [hw]) d hd
          · exact ih (by simp [hw, h])

theorem words_eq_nil_iff {s : List Char} : words s = [] ↔ ∀ c ∈ s, isBlank c = true := by
  induction s with
  | nil => simp
  | cons c r ih =>
    unfold words
    split
    · rename_i hc; simp [ih, hc]
    · rename_i hc
      split
      · simp [hc]
      · cases hw : words r <;> simp [extendFirst, hc]

/-- A text without the blanks at its two ends. -/
def trim (s : List Char) : List Char :=
  ((s.dropWhile isBlank).reverse.dropWhile isBlank).reverse

@[simp] theorem trim_nil : trim [] = [] := rfl

end Text

/-- The blank-free words of a line. -/
def blankWords (line : String) : List String :=
  (Text.words line.toList).map String.ofList

def trimBlank (line : String) : String :=
  String.ofList (Text.trim line.toList)

end RemoteConsole
