import RemoteConsole.Entries

/-!
# Option letters

A specification such as `ab:` lists the option letters a command takes; a colon
after a letter says that the letter takes a value. `Scanner.next` reads one
option letter of an argument list at a time. Letters may be clustered (`-ab`),
a value stands behind its letter (`-bval`) or is the next argument (`-b val`),
and `--`, or the first argument that is no cluster, ends the options. A
specification that begins with a colon keeps the scanner silent and tells a
missing value (`:`) from an unknown letter (`?`).

`Scanner.weight_next_lt` says that every letter read uses up some of the
arguments, so that `readAll` ends. `Switches` collects what was read.
-/

namespace RemoteConsole

/-- What a letter means to a specification: `none` if it is unknown, else whether
it takes a value. The first occurrence of the letter decides, and a colon is
never an option letter. -/
def takesValue? (spec : List Char) (letter : Char) : Option Bool :=
  if letter = ':' then none
  else match spec.dropWhile (· != letter) with
    | [] => none
    | _ :: r => some (r.head? == some ':')

/-- What a scanner may complain about. -/
inductive OptionFault where
  /-- The letter is not in the specification. -/
  | unknown (letter : Char)
  /-- The letter takes a value and the arguments end with it. -/
  | missingValue (letter : Char)
  deriving Repr, DecidableEq

def OptionFault.message : OptionFault → String
  | unknown c => "illegal option -- " ++ c.toString
  | missingValue c => "option requires an argument -- " ++ c.toString

def unknownLetter : Char := '?'

def missingLetter : Char := ':'

/-- A position in an argument list. `place` is the cluster being read, with its
dash, and `cursor` the place of its next letter; between clusters `place` is
empty or used up. -/
structure Scanner where
  index : Nat := 0
  place : List Char := []
  cursor : Nat := 0
  lastLetter : Option Char := none
  argument : Option String := none
  quiet : Bool := false
  deriving Repr, DecidableEq

namespace Scanner

/-- What one step of a scanner gives: the scanner after it, the letter read, and
the complaint it makes. No letter means that the options have ended. -/
structure Step where
  scanner : Scanner
  letter : Option Char
  fault : Option OptionFault := none
  deriving Repr, DecidableEq

/-- The arguments from the scanner's index on. -/
def remaining (s : Scanner) (args : List String) : List String := args.drop s.index

/-- Every letter of the cluster has been read. -/
def spent (s : Scanner) : Bool := s.place.length ≤ s.cursor

def atRest (s : Scanner) : Scanner := { s with place := [], cursor := 0 }

/-- Go on to the next argument if the cluster is used up. -/
def advance (s : Scanner) : Scanner :=
  if s.spent then { s with index := s.index + 1 } else s

/-- A step that ends the options. -/
def stop (s : Scanner) : Step := { scanner := s.atRest, letter := none }

/-- Read the value of the letter at hand: the rest of the cluster, or else the
next argument whatever it looks like. -/
def acceptValue (s : Scanner) (letter : Char) (args : List String) (spec : List Char) : Step :=
  if s.spent then
    match args[s.index + 1]? with
    | some value =>
      { scanner := { s.atRest with index := s.index + 2, argument := some value }
        letter := some letter }
    | none =>
      { scanner := { s.atRest with index := s.index + 1 }
        letter := some (if spec.head? == some ':' then missingLetter else unknownLetter)
        fault := if s.quiet || spec.head? == some ':' then none else some (.missingValue letter) }
  else
    { scanner := { s.atRest with
        index := s.index + 1
        argument := some (String.ofList (s.place.drop s.cursor)) }
      letter := some letter }

/-- Read the letter at hand, by the specification `spec`. -/
def accept (s : Scanner) (letter : Char) (args : List String) (spec : List Char) : Step :=
  match takesValue? spec letter with
  | none =>
    { scanner := { s.advance with lastLetter := some letter }
      letter := some unknownLetter
      fault := if s.quiet || spec.head? == some ':' then none else some (.unknown letter) }
  | some false =>
    { scanner := { s.advance with lastLetter := some letter }, letter := some letter }
  | some true => acceptValue { s with lastLetter := some letter } letter args spec

/-- Read one option letter of `args`, by the specification `spec`. -/
def next (s : Scanner) (args : List String) (spec : List Char) : Step :=
  let s := { s with argument := none }
  if h : s.cursor < s.place.length then
    accept { s with cursor := s.cursor + 1 } s.place[s.cursor] args spec
  else
    match args[s.index]? with
    | none => stop s
    | some token =>
      match token.toList with
      | ['-'] => if spec.contains '-' then accept s.atRest '-' args spec else stop s
      | ['-', '-'] => stop { s with index := s.index + 1 }
      | '-' :: c :: r => accept { s with place := '-' :: c :: r, cursor := 2 } c args spec
      | _ => stop s

/-- The number of characters in a list of arguments, with one more for each of them. -/
def load (args : List String) : Nat := args.foldr (fun a n => a.length + 1 + n) 0

theorem load_drop_succ {args : List String} {i : Nat} {a : String} (h : args[i]? = some a) :
    load (args.drop (i + 1)) + a.length + 1 = load (args.drop i) := by
  obtain ⟨hi, rfl⟩ := List.getElem?_eq_some_iff.1 h
  rw [List.drop_eq_getElem_cons hi, load, load, List.foldr_cons]
  omega

theorem load_drop_succ_le (args : List String) (i : Nat) :
    load (args.drop (i + 1)) ≤ load (args.drop i) := by
  cases h : args[i]? with
  | none =>
    have := List.getElem?_eq_none_iff.1 h
    have e : args.drop (i + 1) = args.drop i := by
      rw [List.drop_eq_nil_of_le this, List.drop_eq_nil_of_le (show args.length ≤ i + 1 by omega)]
    exact Nat.le_of_eq (congrArg load e)
  | some a => have := load_drop_succ h; omega

/-- How much of the arguments is left to read. -/
def weight (s : Scanner) (args : List String) : Nat :=
  if s.cursor < s.place.length then
    (s.place.length - s.cursor) + load (args.drop (s.index + 1))
  else load (args.drop s.index)

theorem weight_of_spent {s : Scanner} (h : ¬ s.cursor < s.place.length) (args : List String) :
    s.weight args = load (args.drop s.index) := if_neg h

theorem weight_advance (s : Scanner) (args : List String) :
    s.advance.weight args
      = (s.place.length - s.cursor) + load (args.drop (s.index + 1)) := by
  by_cases h : s.place.length ≤ s.cursor
  · have hs : s.spent = true := by simp [spent, h]
    rw [advance, if_pos hs, weight_of_spent (by simpa using h), Nat.sub_eq_zero_of_le h,
      Nat.zero_add]
  · have hs : ¬ s.spent = true := by simp [spent, h]
    rw [advance, if_neg hs, weight, if_pos (by omega)]

theorem weight_of_place_eq_nil {s : Scanner} (h : s.place = []) (args : List String) :
    s.weight args = load (args.drop s.index) :=
  weight_of_spent (by simp [h]) args

/-- Reading the letter at hand leaves at most the unread letters of the cluster
and the arguments behind it. -/
theorem weight_accept_le (s : Scanner) (letter : Char) (args : List String) (spec : List Char) :
    (accept s letter args spec).scanner.weight args
      ≤ (s.place.length - s.cursor) + load (args.drop (s.index + 1)) := by
  have h := load_drop_succ_le args (s.index + 1)
  unfold accept
  split
  · exact Nat.le_of_eq (weight_advance s args)
  · exact Nat.le_of_eq (weight_advance s args)
  · unfold acceptValue
    split
    · split
      · rw [weight_of_place_eq_nil rfl]
        exact Nat.le_trans h (Nat.le_add_left ..)
      · rw [weight_of_place_eq_nil rfl]
        exact Nat.le_add_left ..
    · rw [weight_of_place_eq_nil rfl]
      exact Nat.le_add_left ..

/-- A letter uses up some of the arguments. -/
theorem weight_next_lt {s : Scanner} {args : List String} {spec : List Char} {c : Char}
    (h : (next s args spec).letter = some c) :
    (next s args spec).scanner.weight args < s.weight args := by
  unfold next at h ⊢
  by_cases hc : s.cursor < s.place.length
  · simp only [hc, dite_true]
    refine Nat.lt_of_le_of_lt (weight_accept_le _ _ _ _) ?_
    simp only [weight, hc, if_true]
    omega
  · simp only [hc, dite_false] at h ⊢
    rw [weight_of_spent hc]
    cases hi : args[s.index]? with
    | none => simp [hi, stop] at h
    | some token =>
      have ht := load_drop_succ hi
      have hl := String.length_toList (s := token)
      simp only [hi] at h ⊢
      split at h
      · split at h
        · rename_i hd
          simp only [hd, if_true]
          refine Nat.lt_of_le_of_lt (weight_accept_le _ _ _ _) ?_
          simp only [atRest, List.length_nil]
          omega
        · simp [stop] at h
      · simp [stop] at h
      · rename_i d r _ hr
        simp only [hr, List.length_cons] at hl
        refine Nat.lt_of_le_of_lt (weight_accept_le _ _ _ _) ?_
        simp only [List.length_cons]
        omega
      · simp [stop] at h

/-- All steps of a scanner up to the one that ends the options. -/
def readAll (s : Scanner) (args : List String) (spec : List Char) : List Step :=
  match h : (next s args spec).letter with
  | none => [next s args spec]
  | some _ =>
    have := weight_next_lt h
    next s args spec :: readAll (next s args spec).scanner args spec
termination_by s.weight args

end Scanner

/-- What an option letter was given with. -/
inductive Switch where
  | flag
  | value (text : String)
  deriving Repr, DecidableEq

namespace Switch

def ofValue? : Option String → Switch
  | some v => value v
  | none => flag

def value? : Switch → Option String
  | flag => none
  | value v => some v

end Switch

/-- The option letters given to a command, each with its last occurrence. -/
structure Switches where
  entries : Entries Char Switch := []
  deriving Repr, DecidableEq

namespace Switches

def empty : Switches := {}

/-- Record a letter; a later occurrence replaces an earlier one. -/
def insert (s : Switches) (letter : Char) (value : Option String) : Switches :=
  ⟨s.entries.put letter (.ofValue? value)⟩

def get? (s : Switches) (letter : Char) : Option Switch := s.entries.get? letter

def isSet (s : Switches) (letter : Char) : Bool := (s.get? letter).isSome

def value? (s : Switches) (letter : Char) : Option String := (s.get? letter).bind Switch.value?

def size (s : Switches) : Nat := s.entries.length

/-- The letters in ascending order, each with what it was given with. -/
def toList (s : Switches) : List (Char × Switch) := s.entries

end Switches

end RemoteConsole
