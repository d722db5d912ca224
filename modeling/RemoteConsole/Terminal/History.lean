import RemoteConsole.Text.Blank

/-!
# Command history

A history keeps the latest lines, at most `limit` of them, oldest first. A line is
kept without the blanks at its ends. A blank line is not taken in, nor one that
equals the line before it.
-/

namespace RemoteConsole

/-- Lines, oldest first, and how many are kept. -/
structure History where
  limit : Nat
  entries : List String := []
  deriving Repr, DecidableEq

namespace History

def last? (h : History) : Option String := h.entries.getLast?

def size (h : History) : Nat := h.entries.length

/-- Whether a line would be taken in. -/
def accepts (h : History) (line : String) : Bool :=
  trimBlank line != "" && h.limit != 0 && h.last? != some (trimBlank line)

/-- The last so many elements of a list. -/
def lastOf {α : Type} (n : Nat) (l : List α) : List α := l.drop (l.length - n)

def record (h : History) (line : String) : History :=
  if h.accepts line then
    { h with entries := lastOf h.limit (h.entries ++ [trimBlank line]) }
  else h

end History
end RemoteConsole
