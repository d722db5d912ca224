import RemoteConsole.Json.Reader
import RemoteConsole.Text.Blank

/-!
# Request envelopes

A request asks a peer to run one method with a list of words. Its parameters are
the words alone, or the words and a credential. `Request.ofLine?` makes a request
of a command line by cutting it at the blanks, without regard to quotes, and
`Request.line` joins the words again. `Request.wire` is the text sent and
`Request.read?` reads such a text.
-/

namespace RemoteConsole

/-- The parameters of a request. -/
inductive Params where
  /-- Words and the credential they are sent under. -/
  | credentialed (token : String) (words : List String)
  | bare (words : List String)
  deriving Repr, DecidableEq

namespace Params

/-- The words, in either form. -/
def words : Params → List String
  | credentialed _ ws => ws
  | bare ws => ws

def token? : Params → Option String
  | credentialed t _ => some t
  | bare _ => none

/-- The same words under a credential, which replaces an earlier one. -/
def withToken (p : Params) (token : String) : Params := credentialed token p.words

@[simp] theorem words_withToken (p : Params) (t : String) : (p.withToken t).words = p.words := rfl

@[simp] theorem token?_withToken (p : Params) (t : String) :
    (p.withToken t).token? = some t := rfl

def toJson : Params → Json
  | credentialed t ws => .object [("token", .string t), ("params", .ofStrings ws)]
  | bare ws => .ofStrings ws

structure Partial where
  token : Option String := none
  words : Option (List String) := none

def reader : Json.RecordReader Partial Params where
  fields :=
    [("token", Json.once Partial.token (fun p t => { p with token := some t }) .string),
     ("params", Json.once Partial.words (fun p ws => { p with words := some ws })
        (.list .string))]
  start := {}
  finish p :=
    match p.token, p.words with
    | some t, some ws => .ok (credentialed t ws)
    | _, _ => .error .mismatched

/-- Read parameters: an object with a credential, or else a list of strings. The
whole value is kept first, so a fault of its text is found before its shape is
looked at. -/
def read : Json.Reader Params := fun levels n =>
  if (n.value? levels).isNone then .error .malformed
  else
    match n with
    | .object fields closed =>
      match reader.read levels (.object fields closed) with
      | .ok p => .ok p
      | .error _ => .error .mismatched
    | n =>
      match Json.Reader.list .string levels n with
      | .ok ws => .ok (bare ws)
      | .error _ => .error .mismatched

end Params

/-- A call of a method. -/
structure Request where
  id : UInt64
  method : String
  params : Params := .bare []
  deriving Repr, DecidableEq

namespace Request

/-- The request that a command line stands for: its first word and the others.
A blank line stands for none. -/
def ofLine? (id : UInt64) (line : String) : Option Request :=
  match blankWords line with
  | [] => none
  | m :: ws => some { id, method := m, params := .bare ws }

def withToken (r : Request) (token : String) : Request :=
  { r with params := r.params.withToken token }

/-- The request under a credential, if there is one. -/
def withToken? (r : Request) : Option String → Request
  | some t => r.withToken t
  | none => r

/-- The command line of a request: the method and the words with a space before
each. -/
def line (r : Request) : String := " ".intercalate (r.method :: r.params.words)

/-- The request as a value, its fields in the order they are sent in. -/
def toJson (r : Request) : Json :=
  .object [("id", .ofInt r.id.toNat), ("method", .string r.method), ("params", r.params.toJson)]

/-- The text sent for a request. -/
def wire (r : Request) : String := r.toJson.text

structure Partial where
  id : Option UInt64 := none
  method : Option String := none
  params : Option Params := none

/-- How a request is read. Parameters may be left out. -/
def reader : Json.RecordReader Partial Request where
  fields :=
    [("id", Json.once Partial.id (fun p i => { p with id := some i }) .word),
     ("method", Json.once Partial.method (fun p m => { p with method := some m }) .string),
     ("params", Json.once Partial.params (fun p ps => { p with params := some ps }) Params.read)]
  start := {}
  finish p :=
    match p.id, p.method with
    | some id, some method => .ok { id, method, params := p.params.getD (.bare []) }
    | _, _ => .error .mismatched

/-- The request of a text, or why it is none. -/
def read (text : String) : Except Json.Fault Request := Json.readText reader.read text

/-- The request of a text. -/
def read? (text : String) : Option Request := (read text).toOption

theorem ofLine?_eq_none_iff {id : UInt64} {line : String} :
    ofLine? id line = none ↔ ∀ c ∈ line.toList, Text.isBlank c = true := by
  unfold ofLine?
  split
  · rename_i h
    simp only [blankWords, List.map_eq_nil_iff] at h
    simpa using Text.words_eq_nil_iff.1 h
  · rename_i h
    constructor
    · intro h'; cases h'
    · intro h'
      rw [blankWords, Text.words_eq_nil_iff.2 h'] at h
      simp at h

theorem ofLine?_eq_some_iff {id : UInt64} {line : String} {r : Request} :
    ofLine? id line = some r ↔
      r.id = id ∧ r.params.token? = none ∧ r.method :: r.params.words = blankWords line := by
  unfold ofLine?
  constructor
  · intro h
    split at h
    · cases h
    · rename_i hwords
      cases h
      exact ⟨rfl, rfl, hwords.symm⟩
  · obtain ⟨_, method, params⟩ := r
    rintro ⟨rfl, htoken, hwords⟩
    cases params with
    | credentialed t ws => cases htoken
    | bare ws => rw [← hwords]; rfl

theorem id_withToken? (r : Request) (credential : Option String) :
    (r.withToken? credential).id = r.id := by
  cases credential <;> rfl

theorem method_withToken? (r : Request) (credential : Option String) :
    (r.withToken? credential).method = r.method := by
  cases credential <;> rfl

theorem words_withToken? (r : Request) (credential : Option String) :
    (r.withToken? credential).params.words = r.params.words := by
  cases credential <;> rfl

theorem line_withToken? (r : Request) (credential : Option String) :
    (r.withToken? credential).line = r.line := by
  rw [line, method_withToken?, words_withToken?, line]

theorem token?_withToken? {r : Request} (h : r.params.token? = none) (credential : Option String) :
    (r.withToken? credential).params.token? = credential := by
  cases credential with
  | none => exact h
  | some t => rfl

end Request
end RemoteConsole
