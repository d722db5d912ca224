import RemoteConsole.Json.Basic

/-!
# JSON texts

A text is cut into tokens (`Token.ofText`), and the tokens are gathered into a
`Document`: what the text says, kept as it is written. Where the text stops being
JSON the document is broken: the value that should stand there is `Node.broken`,
and the containers around it are not closed. So a reader that walks the document
from left to right meets the first fault of the text at its place, and everything
before it is there.

`Json.toNode` is the document that a value's own text has.
-/

namespace RemoteConsole
namespace Json

/-- A piece of a string as it is written: a character, or half of a surrogate pair
given by an escape. -/
inductive Piece where
  | char (c : Char)
  | half (unit : Nat)
  deriving Repr, DecidableEq

namespace Piece

def isHigh (n : Nat) : Bool := 0xD800 ≤ n && n < 0xDC00

def isLow (n : Nat) : Bool := 0xDC00 ≤ n && n < 0xE000

/-- The piece of an escaped code unit. -/
def ofUnit (n : Nat) : Piece :=
  if isHigh n || isLow n then half n else char (Char.ofNat n)

/-- The characters of a string; halves must come in pairs. -/
def text? : List Piece → Option (List Char)
  | [] => some []
  | char c :: r => (text? r).map (c :: ·)
  | half a :: half b :: r =>
    if isHigh a && isLow b then
      (text? r).map (Char.ofNat (0x10000 + (a - 0xD800) * 0x400 + (b - 0xDC00)) :: ·)
    else none
  | half _ :: _ => none

theorem text?_map_char (s : List Char) : text? (s.map char) = some s := by
  induction s with
  | nil => rfl
  | cons c r ih => simp [text?, ih]

end Piece

inductive Token where
  | openBrace
  | closeBrace
  | openBracket
  | closeBracket
  | colon
  | comma
  | null
  | bool (b : Bool)
  | number (n : Numeral)
  | string (s : List Piece)
  /-- Here the text stops being JSON. -/
  | junk
  deriving Repr, DecidableEq

namespace Token

/-- The four characters that may stand between tokens. -/
def isSpace (c : Char) : Bool := c == ' ' || c == '\n' || c == '\t' || c == '\r'

def isDigit (c : Char) : Bool := '0' ≤ c && c ≤ '9'

def hexValue? (c : Char) : Option Nat :=
  if '0' ≤ c && c ≤ '9' then some (c.toNat - 48)
  else if 'a' ≤ c && c ≤ 'f' then some (c.toNat - 87)
  else if 'A' ≤ c && c ≤ 'F' then some (c.toNat - 55)
  else none

/-- The character that a one-letter escape stands for. -/
def unescape? (c : Char) : Option Char :=
  if c = '"' then some '"'
  else if c = '\\' then some '\\'
  else if c = '/' then some '/'
  else if c = 'b' then some '\x08'
  else if c = 'f' then some '\x0c'
  else if c = 'n' then some '\n'
  else if c = 'r' then some '\r'
  else if c = 't' then some '\t'
  else none

/-- The code unit of four hexadecimal digits. -/
def unit? (a b c d : Char) : Option Nat := do
  let a ← hexValue? a
  let b ← hexValue? b
  let c ← hexValue? c
  let d ← hexValue? d
  return ((a * 16 + b) * 16 + c) * 16 + d

/-- The pieces of a string up to its closing quote, and what follows it. -/
def pieces? : List Char → Option (List Piece × List Char)
  | [] => none
  | '"' :: r => some ([], r)
  | '\\' :: 'u' :: a :: b :: c :: d :: r => do
    let n ← unit? a b c d
    let (ps, rest) ← pieces? r
    return (Piece.ofUnit n :: ps, rest)
  | '\\' :: c :: r => do
    let e ← unescape? c
    let (ps, rest) ← pieces? r
    return (.char e :: ps, rest)
  | c :: r =>
    if c.toNat < 0x20 || c == '\\' then none
    else do
      let (ps, rest) ← pieces? r
      return (.char c :: ps, rest)

def digits (s : List Char) : List Char × List Char := (s.takeWhile isDigit, s.dropWhile isDigit)

/-- The digits before the point: a single zero, or digits that start with none. -/
def whole? (s : List Char) : Option (List Char × List Char) :=
  match digits s with
  | ([], _) => none
  | ('0' :: _ :: _, _) => none
  | (ds, rest) => some (ds, rest)

/-- The digits behind a point, if there is a point. -/
def fraction? : List Char → Option (List Char × List Char)
  | '.' :: r =>
    match digits r with
    | ([], _) => none
    | (ds, rest) => some (ds, rest)
  | s => some ([], s)

/-- The sign of an exponent and the rest. -/
def exponentSign : List Char → ExponentSign × List Char
  | '+' :: r => (.plus, r)
  | '-' :: r => (.minus, r)
  | s => (.none, s)

def exponent? : List Char → Option (Option (ExponentSign × List Char) × List Char)
  | [] => some (none, [])
  | c :: r =>
    if c = 'e' ∨ c = 'E' then
      match digits (exponentSign r).2 with
      | ([], _) => none
      | (ds, rest) => some (some ((exponentSign r).1, ds), rest)
    else some (none, c :: r)

def minusSign : List Char → Bool × List Char
  | '-' :: r => (true, r)
  | s => (false, s)

def numeral? (s : List Char) : Option (Numeral × List Char) := do
  let (negative, s) := minusSign s
  let (whole, s) ← whole? s
  let (fraction, s) ← fraction? s
  let (exponent, s) ← exponent? s
  return ({ negative, whole, fraction, exponent }, s)

/-- The token at the front of a text that does not start with a space, and the
rest. After junk nothing is left. -/
def first (c : Char) (r : List Char) : Token × List Char :=
  match c, r with
  | '{', r => (openBrace, r)
  | '}', r => (closeBrace, r)
  | '[', r => (openBracket, r)
  | ']', r => (closeBracket, r)
  | ':', r => (colon, r)
  | ',', r => (comma, r)
  | 'n', 'u' :: 'l' :: 'l' :: r => (null, r)
  | 't', 'r' :: 'u' :: 'e' :: r => (bool true, r)
  | 'f', 'a' :: 'l' :: 's' :: 'e' :: r => (bool false, r)
  | '"', r =>
    match pieces? r with
    | some (ps, rest) => (string ps, rest)
    | none => (junk, [])
  | c, r =>
    match numeral? (c :: r) with
    | some (n, rest) => (number n, rest)
    | none => (junk, [])

theorem length_pieces? {s : List Char} {ps : List Piece} {rest : List Char}
    (h : pieces? s = some (ps, rest)) : rest.length < s.length := by
  fun_induction pieces? s generalizing ps rest with
  | case1 => simp at h
  | case2 r => simp at h; simp [h.2]
  | case3 a b c d r ih =>
    simp only [Option.bind_eq_bind, Option.bind_eq_some_iff, Option.pure_def, Option.some.injEq,
      Prod.mk.injEq] at h
    obtain ⟨n, _, ⟨qs, u⟩, hq, _, rfl⟩ := h
    have := ih hq
    simp only [List.length_cons]
    omega
  | case4 c r _ ih =>
    simp only [Option.bind_eq_bind, Option.bind_eq_some_iff, Option.pure_def, Option.some.injEq,
      Prod.mk.injEq] at h
    obtain ⟨n, _, ⟨qs, u⟩, hq, _, rfl⟩ := h
    have := ih hq
    simp only [List.length_cons]
    omega
  | case5 => simp at h
  | case6 c r _ _ _ _ ih =>
    simp only [Option.bind_eq_bind, Option.bind_eq_some_iff, Option.pure_def, Option.some.injEq,
      Prod.mk.injEq] at h
    obtain ⟨⟨qs, u⟩, hq, _, rfl⟩ := h
    have := ih hq
    simp only [List.length_cons]
    omega

theorem digits_append (s : List Char) : (digits s).1 ++ (digits s).2 = s :=
  List.takeWhile_append_dropWhile

theorem length_digits (s : List Char) : (digits s).1.length + (digits s).2.length = s.length := by
  rw [← List.length_append, digits_append]

theorem length_whole? {s ds rest : List Char} (h : whole? s = some (ds, rest)) :
    rest.length < s.length := by
  have hl := length_digits s
  unfold whole? at h
  split at h
  · simp at h
  · simp at h
  · rename_i ds' rest' h1 _ heq
    simp only [Option.some.injEq, Prod.mk.injEq] at h
    obtain ⟨rfl, rfl⟩ := h
    rw [heq] at hl
    cases ds' with
    | nil => exact absurd rfl h1
    | cons d r => simp only [List.length_cons] at hl; omega

theorem length_fraction? {s ds rest : List Char} (h : fraction? s = some (ds, rest)) :
    rest.length ≤ s.length := by
  unfold fraction? at h
  split at h
  · rename_i r
    have hl := length_digits r
    split at h
    · simp at h
    · rename_i heq
      simp only [Option.some.injEq, Prod.mk.injEq] at h
      obtain ⟨rfl, rfl⟩ := h
      simp only [heq] at hl
      simp only [List.length_cons]
      omega
  · simp only [Option.some.injEq, Prod.mk.injEq] at h
    simp [h.2]

theorem length_exponentSign (s : List Char) : (exponentSign s).2.length ≤ s.length := by
  unfold exponentSign
  split <;> simp

theorem length_exponent? {s rest : List Char} {e : Option (ExponentSign × List Char)}
    (h : exponent? s = some (e, rest)) : rest.length ≤ s.length := by
  unfold exponent? at h
  split at h
  · simp at h; simp [← h.2]
  · rename_i c r
    split at h
    · have hl := length_digits (exponentSign r).2
      have hs := length_exponentSign r
      split at h
      · simp at h
      · rename_i heq
        simp only [Option.some.injEq, Prod.mk.injEq] at h
        obtain ⟨_, rfl⟩ := h
        simp only [heq] at hl
        simp only [List.length_cons]
        omega
    · simp only [Option.some.injEq, Prod.mk.injEq] at h
      simp [← h.2]

theorem length_minusSign (s : List Char) : (minusSign s).2.length ≤ s.length := by
  unfold minusSign
  split <;> simp

theorem length_numeral? {s rest : List Char} {n : Numeral} (h : numeral? s = some (n, rest)) :
    rest.length < s.length := by
  simp only [numeral?, Option.bind_eq_bind, Option.bind_eq_some_iff, Option.pure_def,
    Option.some.injEq, Prod.mk.injEq] at h
  obtain ⟨⟨w, s1⟩, h1, ⟨f, s2⟩, h2, ⟨e, s3⟩, h3, _, rfl⟩ := h
  have a := length_whole? h1
  have b := length_fraction? h2
  have c := length_exponent? h3
  have d := length_minusSign s
  dsimp only at a b c ⊢
  omega

theorem length_first (c : Char) (r : List Char) : (first c r).2.length ≤ r.length := by
  unfold first
  split <;> try (simp; done)
  · simp only [List.length_cons]; omega
  · simp only [List.length_cons]; omega
  · simp only [List.length_cons]; omega
  · split
    · rename_i h
      exact Nat.le_of_lt (length_pieces? h)
    · simp
  · split
    · rename_i h
      have := length_numeral? h
      simp only [List.length_cons] at this
      exact Nat.le_of_lt_succ this
    · simp

def ofText : List Char → List Token
  | [] => []
  | c :: r =>
    if isSpace c then ofText r
    else
      have := length_first c r
      (first c r).1 :: ofText (first c r).2
termination_by s => s.length

end Token

/-- A value as it is written. -/
inductive Node where
  /-- No value stands here: the text stops being JSON. -/
  | broken
  | null
  | bool (b : Bool)
  | number (n : Numeral)
  | string (s : List Piece)
  /-- The items, and whether the text goes on properly up to the closing bracket. -/
  | array (items : List Node) (closed : Bool)
  /-- The fields, and whether the text goes on properly up to the closing brace. -/
  | object (fields : List (List Piece × Node)) (closed : Bool)
  deriving Repr

/-- A whole text: its value, and whether anything follows the value. -/
structure Document where
  root : Node
  trailing : Bool := false
  deriving Repr

namespace Document

/-- A container that is being read, with its content so far, the last part first. -/
inductive Frame where
  | array (items : List Node)
  /-- An object; with a key, that key's value is being read. -/
  | object (fields : List (List Piece × Node)) (key : Option (List Piece))
  deriving Repr

/-- What the next token has to be. -/
inductive Expecting where
  | value
  | itemOrEnd
  | keyOrEnd
  | key
  | colon
  | commaOrEnd
  deriving Repr, DecidableEq

/-- The document of a text that stops being JSON inside the given containers. -/
def abandon : List Frame → Node → Node
  | [], n => n
  | .array items :: stack, .broken => abandon stack (.array items.reverse false)
  | .array items :: stack, n => abandon stack (.array (n :: items).reverse false)
  | .object fields none :: stack, _ => abandon stack (.object fields.reverse false)
  | .object fields (some k) :: stack, n => abandon stack (.object ((k, n) :: fields).reverse false)

/-- What a token does to the containers that are being read. -/
inductive Step where
  /-- Go on inside these containers. -/
  | next (stack : List Frame) (expecting : Expecting)
  /-- The whole value has been read. -/
  | complete (root : Node)
  | fault
  deriving Repr

/-- Put a complete value into the innermost container. -/
def place (n : Node) : List Frame → Step
  | [] => .complete n
  | .array items :: stack => .next (.array (n :: items) :: stack) .commaOrEnd
  | .object fields (some k) :: stack => .next (.object ((k, n) :: fields) none :: stack) .commaOrEnd
  | .object _ none :: _ => .fault

/-- Read the first token of a value. -/
def openValue (stack : List Frame) : Token → Step
  | .openBracket => .next (.array [] :: stack) .itemOrEnd
  | .openBrace => .next (.object [] none :: stack) .keyOrEnd
  | .null => place .null stack
  | .bool b => place (.bool b) stack
  | .number n => place (.number n) stack
  | .string s => place (.string s) stack
  | _ => .fault

/-- Read one token. -/
def step : List Frame → Expecting → Token → Step
  | stack, .value, t => openValue stack t
  | .array items :: stack, .itemOrEnd, .closeBracket
  | .array items :: stack, .commaOrEnd, .closeBracket => place (.array items.reverse true) stack
  | stack, .itemOrEnd, t => openValue stack t
  | .object fields none :: stack, .keyOrEnd, .closeBrace
  | .object fields none :: stack, .commaOrEnd, .closeBrace =>
    place (.object fields.reverse true) stack
  | .object fields none :: stack, .keyOrEnd, .string k
  | .object fields none :: stack, .key, .string k => .next (.object fields (some k) :: stack) .colon
  | stack, .colon, .colon => .next stack .value
  | .array items :: stack, .commaOrEnd, .comma => .next (.array items :: stack) .value
  | .object fields none :: stack, .commaOrEnd, .comma => .next (.object fields none :: stack) .key
  | _, _, _ => .fault

/-- Gather tokens into a document, inside the given containers. -/
def build : List Frame → Expecting → List Token → Document
  | stack, _, [] => ⟨abandon stack .broken, false⟩
  | stack, e, t :: ts =>
    match step stack e t with
    | .next stack e => build stack e ts
    | .complete root => ⟨root, !ts.isEmpty⟩
    | .fault => ⟨abandon stack .broken, false⟩

def ofText (s : List Char) : Document := build [] .value (Token.ofText s)

end Document

/-- How a string is written: each character stands for itself. -/
def pieces (s : String) : List Piece := s.toList.map .char

mutual

/-- The document of a value's own text. -/
def toNode : Json → Node
  | null => .null
  | bool b => .bool b
  | number n => .number (.ofNumber n)
  | string s => .string (pieces s)
  | array items => .array (toNodes items) true
  | object fields => .object (fieldsToNodes fields) true

def toNodes : List Json → List Node
  | [] => []
  | v :: r => toNode v :: toNodes r

def fieldsToNodes : List (String × Json) → List (List Piece × Node)
  | [] => []
  | (k, v) :: r => (pieces k, toNode v) :: fieldsToNodes r

end

end Json
end RemoteConsole
