import RemoteConsole.Text.Blank

/-!
# Runs of blanks made into single spaces

`collapse` replaces every maximal run of blanks in a text by one space. Cutting a
text into its words and putting a single space between them does the same to the
runs between two words, and drops the runs at the two ends. `settle` says what
that leaves of the part of a text behind a character that is not blank: a run at
the end of it is dropped. The main statement is `intercalate_words_cons`, the
words put together again in terms of `settle`.
-/

namespace RemoteConsole

namespace Text

/-- A text with each maximal run of blanks replaced by one space. Of a run, the
last blank is the one that leaves the space. -/
def collapse : List Char → List Char
  | [] => []
  | c :: r =>
    if isBlank c then
      if (r.head?.map isBlank).getD false then collapse r else ' ' :: collapse r
    else c :: collapse r

/-- A text with each maximal run of blanks replaced by one space, save that a run
at the end of the text is dropped. -/
def settle : List Char → List Char
  | [] => []
  | c :: r =>
    if isBlank c then
      if (r.head?.map isBlank).getD true then settle r else ' ' :: settle r
    else c :: settle r

@[simp] theorem collapse_nil : collapse [] = [] := rfl

theorem collapse_cons {c : Char} (h : isBlank c = false) (r : List Char) :
    collapse (c :: r) = c :: collapse r := by
  simp [collapse, h]

theorem collapse_blank_singleton {c : Char} (h : isBlank c = true) :
    collapse [c] = [' '] := by
  simp [collapse, h]

theorem collapse_blank_blank {c d : Char} (hc : isBlank c = true) (hd : isBlank d = true)
    (r : List Char) : collapse (c :: d :: r) = collapse (d :: r) := by
  rw [collapse]
  simp [hc, hd]

theorem collapse_blank_cons {c d : Char} (hc : isBlank c = true) (hd : isBlank d = false)
    (r : List Char) : collapse (c :: d :: r) = ' ' :: collapse (d :: r) := by
  rw [collapse]
  simp [hc, hd]

theorem collapse_of_not_isBlank {s : List Char} (h : ∀ c ∈ s, isBlank c = false) :
    collapse s = s := by
  induction s with
  | nil => rfl
  | cons c r ih =>
      have hc : isBlank c = false := h c (by simp)
      have hr : ∀ d ∈ r, isBlank d = false := fun d hd => h d (by simp [hd])
      rw [collapse_cons hc, ih hr]

@[simp] theorem settle_nil : settle [] = [] := rfl

theorem settle_cons {c : Char} (h : isBlank c = false) (r : List Char) :
    settle (c :: r) = c :: settle r := by
  simp [settle, h]

theorem settle_blank_singleton {c : Char} (h : isBlank c = true) : settle [c] = [] := by
  simp [settle, h]

theorem settle_blank_blank {c d : Char} (hc : isBlank c = true) (hd : isBlank d = true)
    (r : List Char) : settle (c :: d :: r) = settle (d :: r) := by
  rw [settle]
  simp [hc, hd]

theorem settle_blank_cons {c d : Char} (hc : isBlank c = true) (hd : isBlank d = false)
    (r : List Char) : settle (c :: d :: r) = ' ' :: settle (d :: r) := by
  rw [settle]
  simp [hc, hd]

theorem words_singleton {c : Char} (h : isBlank c = false) : words [c] = [[c]] := by
  simp [words, h]

theorem words_cons_blank {c d : Char} (hc : isBlank c = false) (hd : isBlank d = true)
    (r : List Char) : words (c :: d :: r) = [c] :: words (d :: r) := by
  rw [words]
  simp [hc, hd]

theorem words_cons_cons {c d : Char} (hc : isBlank c = false) (hd : isBlank d = false)
    (r : List Char) : words (c :: d :: r) = extendFirst c (words (d :: r)) := by
  rw [words]
  simp [hc, hd]

/-- A word with a blank or nothing behind it is the first word. -/
theorem words_append {w rest : List Char} (hne : w ≠ []) (hw : ∀ c ∈ w, isBlank c = false)
    (hrest : ∀ d ∈ rest.head?, isBlank d = true) : words (w ++ rest) = w :: words rest := by
  induction w with
  | nil => exact absurd rfl hne
  | cons c w ih =>
      have hc : isBlank c = false := hw c (by simp)
      cases w with
      | nil =>
          cases rest with
          | nil => exact words_singleton hc
          | cons d rest => exact words_cons_blank hc (hrest d rfl) rest
      | cons d w =>
          have htail : words (d :: w ++ rest) = (d :: w) :: words rest :=
            ih (by simp) fun e he => hw e (by simp [he])
          rw [List.cons_append, List.cons_append, words_cons_cons hc (hw d (by simp)),
            ← List.cons_append, htail, extendFirst]

theorem intercalate_extendFirst (c : Char) (ws : List (List Char)) :
    [' '].intercalate (extendFirst c ws) = c :: [' '].intercalate ws := by
  cases ws with
  | nil => rfl
  | cons w ws =>
      cases ws with
      | nil => simp [extendFirst]
      | cons v vs => simp [extendFirst, List.intercalate_cons_cons]

/-- The words of a text, put together with single spaces: what comes after a
character that is not blank is settled, and what comes after a blank as well, with
one space in front if any words follow. -/
theorem settle_words (s : List Char) :
    (∀ c, isBlank c = false →
      [' '].intercalate (words (c :: s)) = c :: settle s) ∧
    (∀ c, isBlank c = true →
      settle (c :: s) = if words s = [] then [] else ' ' :: [' '].intercalate (words s)) := by
  induction s with
  | nil =>
      constructor
      · intro c hc
        simp [words_singleton hc]
      · intro c hc
        simp [settle_blank_singleton hc]
  | cons d r ih =>
      obtain ⟨ihword, ihblank⟩ := ih
      cases hd : isBlank d with
      | true =>
          constructor
          · intro c hc
            rw [words_cons_blank hc hd, words_blank hd, ihblank d hd]
            split
            · rename_i hw
              simp [hw]
            · rename_i hw
              simp [List.intercalate_cons_of_ne_nil hw]
          · intro c hc
            rw [settle_blank_blank hc hd, words_blank hd, ihblank d hd]
      | false =>
          constructor
          · intro c hc
            rw [words_cons_cons hc hd, intercalate_extendFirst, ihword d hd, settle_cons hd]
          · intro c hc
            have hne : words (d :: r) ≠ [] := fun h => by
              simpa [hd] using words_eq_nil_iff.1 h d (by simp)
            rw [settle_blank_cons hc hd, if_neg hne, ihword d hd, settle_cons hd]

theorem intercalate_words_cons {c : Char} (h : isBlank c = false) (r : List Char) :
    [' '].intercalate (words (c :: r)) = c :: settle r :=
  (settle_words r).1 c h

end Text

/-- A string with each maximal run of blanks replaced by one space. -/
def collapseBlanks (s : String) : String := String.ofList (Text.collapse s.toList)

theorem collapseBlanks_of_not_isBlank {s : String}
    (h : ∀ c ∈ s.toList, Text.isBlank c = false) : collapseBlanks s = s := by
  rw [collapseBlanks, Text.collapse_of_not_isBlank h, String.ofList_toList]

/-- The words of a line with a single space between one and the next. -/
def rejoin (line : String) : String := " ".intercalate (blankWords line)

theorem toList_rejoin (line : String) :
    (rejoin line).toList = [' '].intercalate (Text.words line.toList) := by
  simp [rejoin, blankWords, String.toList_intercalate, Function.comp_def]

end RemoteConsole
