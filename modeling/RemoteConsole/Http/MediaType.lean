/-!
# Media types

A media type is a type, a subtype, perhaps a suffix behind a plus, and parameters:
`application/problem+json; charset=utf-8`. `MediaType.ofText?` reads the text of
one, and `MediaType.isJson` says whether it stands for JSON.
-/

namespace RemoteConsole

/-- A media type without its parameters, in lower case. -/
structure MediaType where
  type : List Char
  subtype : List Char
  suffix : Option (List Char) := none
  deriving Repr, DecidableEq

namespace MediaType

/-- The characters of which names and values are made. -/
def isNameChar (c : Char) : Bool :=
  c.isAlphanum || c ∈ ['!', '#', '$', '%', '&', '\'', '*', '+', '-', '.', '^', '_', '|', '~',
    '\x60']

/-- The characters that may stand between double quotes. -/
def isQuotedChar (c : Char) : Bool := ' ' ≤ c && c < '\x7f'

/-- Where a reader of parameters is. -/
inductive Place where
  | start
  | name
  | value
  /-- Inside a value. -/
  | plain
  /-- Just behind the quote that opens a value. -/
  | opened
  | quoted
  /-- Behind a quoted value. -/
  | closed
  deriving Repr, DecidableEq

/-- Read one character of the parameters. -/
def Place.next? (p : Place) (c : Char) : Option Place :=
  match p with
  | .start => if c = ' ' then some .start else if isNameChar c then some .name else none
  | .name => if isNameChar c then some .name else if c = '=' then some .value else none
  | .value => if c = '"' then some .opened else if isNameChar c then some .plain else none
  | .plain => if isNameChar c then some .plain else if c = ';' then some .start else none
  | .opened => if isQuotedChar c then some .quoted else none
  | .quoted => if c = '"' then some .closed else if isQuotedChar c then some .quoted else none
  | .closed => if c = ' ' then some .closed else if c = ';' then some .start else none

def Place.isEnd : Place → Bool
  | start | value | plain | closed => true
  | name | opened | quoted => false

/-- Whether a text is a list of parameters. -/
def areParameters (s : List Char) : Bool :=
  match s.foldlM Place.next? .start with
  | some p => p.isEnd
  | none => false

/-- A subtype as it is written: what stands before the last plus that is not its
first character, and what stands behind it. -/
def splitSuffix (s : List Char) : List Char × Option (List Char) :=
  let after := s.reverse.takeWhile (· != '+')
  let before := (s.reverse.drop (after.length + 1)).reverse
  if before.isEmpty then (s, none) else (before, some after.reverse)

def ofText? (s : String) : Option MediaType :=
  let s := s.toList
  let type := s.takeWhile isNameChar
  match s.dropWhile isNameChar with
  | '/' :: r =>
    let sub := r.takeWhile isNameChar
    let (subtype, suffix) := splitSuffix (sub.map Char.toLower)
    let whole : Option MediaType :=
      if type.isEmpty then none else some { type := type.map Char.toLower, subtype, suffix }
    match r.dropWhile isNameChar with
    | [] => whole
    | ';' :: parameters => if !sub.isEmpty && areParameters parameters then whole else none
    | _ => none
  | _ => none

def isJson (m : MediaType) : Bool :=
  let json := ['j', 's', 'o', 'n']
  m.type == "application".toList && (m.subtype == json || m.suffix == some json)

end MediaType
end RemoteConsole
