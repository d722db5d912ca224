import Mathlib.Data.List.Induction
import RemoteConsole.Proofs.Rpc.Operation

/-!
# What is known of the peer's commands

Several tasks may use a link at once, so a description need not be one operation: its envelope
goes out, other things happen, and some time later its call ends, with the peer's answer or
without one. The description that a link made by `connect` owes is over a little after its call
has ended, or without a call. An `Event` is one such part or a whole operation, and
`Link.through` is the link behind events in any order; an operation that describes the peer is
its parts with nothing in between (`Link.snd_describe_eq_through`). The lists that the peer's
answers have brought so far are `Link.announced`. From what one event makes known
(`Link.known_react`) follows what is known behind a run (`Link.procedures?_through`). The main
statement is `Link.knows_connect`.
-/

namespace RemoteConsole

/-- One thing that happens to a link. -/
inductive Event where
  /-- A whole operation. -/
  | use (o : Operation)
  /-- The envelope of a description goes out. -/
  | ask
  /-- The call of a description ends, with the peer's answer or without one. -/
  | answer (a : Attempt String)
  /-- The description that the link owes is over: it succeeded, failed, crashed or was given up. -/
  | settle

/-- Whether the description that the link owes is over with an event. -/
def Event.settles : Event → Bool
  | use .finishDiscovery | settle => true
  | _ => false

namespace Link

/-- The commands that an answer offers, if there is one and it is a reply that holds a
description. -/
def offered? : Attempt String → Option (List String)
  | .done text =>
    match decodeReply text with
    | .ok v => (Description.ofResult v).toOption.map Description.procedures
    | .error _ => none
  | .failed _ | .crashed _ => none

/-- Take the peer to offer a list of commands, if there is one. -/
def publish (l : Link) (list? : Option (List String)) : Link :=
  { l with procedures? := list?.or l.procedures? }

/-- Owe no description any more, and take the peer to offer nothing if nothing is known. -/
def settle (l : Link) : Link := { l with procedures? := some l.procedures, discovering := false }

/-- What the peer answers when it is asked to describe itself, if it does. -/
def describeAnswer (l : Link) : Attempt String := l.peer l.sent l.describeRequest

/-- The link behind an event. -/
def react (l : Link) : Event → Link
  | .use o => l.after o
  | .ask => { l with nextId := l.nextId + 1, sent := l.sent ++ [l.describeRequest] }
  | .answer a => l.publish (offered? a)
  | .settle => l.settle

/-- The link behind events, one after the other. -/
def through (l : Link) (past : List Event) : Link := past.foldl react l

@[simp] theorem through_nil (l : Link) : l.through [] = l := rfl

theorem through_append (l : Link) (past more : List Event) :
    l.through (past ++ more) = (l.through past).through more := List.foldl_append

theorem through_append_singleton (l : Link) (past : List Event) (e : Event) :
    l.through (past ++ [e]) = (l.through past).react e := l.through_append past [e]

/-- The list that an event brings: what the peer's answer offers, if the call of a description
ends with it. -/
def announced? (l : Link) : Event → Option (List String)
  | .use .describe | .use .finishDiscovery => offered? l.describeAnswer
  | .answer a => offered? a
  | _ => none

/-- The lists that answers have brought, oldest first. -/
def announced (l : Link) : List Event → List (List String)
  | [] => []
  | e :: past => (l.announced? e).toList ++ (l.react e).announced past

theorem announced_append_singleton (l : Link) (past : List Event) (e : Event) :
    l.announced (past ++ [e]) = l.announced past ++ ((l.through past).announced? e).toList := by
  induction past generalizing l with
  | nil => simp [announced]
  | cons d past ih =>
      rw [List.cons_append, announced, announced, ih, List.append_assoc]
      rfl

/-- A description succeeds if the answer offers commands, and then they are what is known. -/
theorem describe_cases (l : Link) :
    (∃ names, offered? l.describeAnswer = some names ∧
      l.describe = (.done names, (l.react .ask).publish (some names))) ∨
    offered? l.describeAnswer = none ∧ (∀ names, l.describe.1 ≠ .done names) ∧
      l.describe.2 = l.react .ask := by
  simp only [describe, call_describeMethod, answerTo]
  rw [describeAnswer]
  cases l.peer l.sent l.describeRequest with
  | failed e => exact .inr ⟨rfl, by simp, rfl⟩
  | crashed c => exact .inr ⟨rfl, by simp, rfl⟩
  | done text =>
      rw [Attempt.bind_done, offered?]
      cases decodeReply text with
      | error e => exact .inr ⟨rfl, by simp [Attempt.ofExcept], rfl⟩
      | ok v =>
          simp only [Attempt.ofExcept, Attempt.bind_done]
          cases Description.ofResult v with
          | error e => exact .inr ⟨rfl, by simp, rfl⟩
          | ok d => exact .inl ⟨d.procedures, rfl, rfl⟩

theorem fst_describe_eq_done_iff {l : Link} {names : List String} :
    l.describe.1 = .done names ↔ offered? l.describeAnswer = some names := by
  rcases l.describe_cases with ⟨found, hoffered, hdescribe⟩ | ⟨hoffered, hfailed, _⟩
  · rw [hdescribe, hoffered, Attempt.done.injEq, Option.some.injEq]
  · simp [hoffered, hfailed names]

theorem snd_describe_eq_through (l : Link) :
    l.describe.2 = l.through [.ask, .answer l.describeAnswer] := by
  have hparts : l.through [.ask, .answer l.describeAnswer] =
      (l.react .ask).publish (offered? l.describeAnswer) := rfl
  rw [hparts]
  rcases l.describe_cases with ⟨names, hoffered, hdescribe⟩ | ⟨hoffered, _, hdescribe⟩
  · rw [hdescribe, hoffered]
  · rw [hdescribe, hoffered]
    rfl

theorem finishDiscovery_eq_through (l : Link) :
    l.finishDiscovery = l.through [.ask, .answer l.describeAnswer, .settle] := by
  have hsettle : l.finishDiscovery = l.describe.2.settle := rfl
  rw [hsettle, snd_describe_eq_through]
  rfl

theorem peer_through (l : Link) (past : List Event) : (l.through past).peer = l.peer := by
  induction past using List.reverseRecOn with
  | nil => rfl
  | append_singleton past e ih =>
      rw [through_append_singleton, ← ih]
      cases e with
      | use o => exact peer_after _ o
      | ask => rfl
      | answer a => rfl
      | settle => rfl

/-- What is known of the peer's commands, and whether a description is owed. -/
def known (l : Link) : Option (List String) × Bool := (l.procedures?, l.discovering)

/-- What is known when the given list is brought, or none. -/
def knownAfter (l : Link) (list? : Option (List String)) (settles : Bool) :
    Option (List String) × Bool :=
  (list?.or (if settles then some l.procedures else l.procedures?), l.discovering && !settles)

theorem known_publish (l : Link) (list? : Option (List String)) :
    (l.publish list?).known = l.knownAfter list? false := by
  simp [publish, known, knownAfter]

theorem known_settle_publish (l : Link) (list? : Option (List String)) :
    (l.publish list?).settle.known = l.knownAfter list? true := by
  cases list? <;> simp [publish, settle, known, knownAfter, procedures]

/-- A list that is brought is what is known. Without one, the end of the description that is
owed makes known that the peer offers nothing, unless something is known already. -/
theorem known_react (l : Link) (e : Event) :
    (l.react e).known = l.knownAfter (l.announced? e) e.settles := by
  -- An event that is no part of a description leaves what is known as it is.
  have hsame : l.known = l.knownAfter none false := by simp [known, knownAfter]
  cases e with
  | ask => exact hsame
  | answer a => exact l.known_publish (offered? a)
  | settle => simp [react, settle, known, knownAfter, announced?, Event.settles]
  | use o =>
      cases o with
      | call line => exact (congrArg known (l.snd_callAs line l.token)).trans hsame
      | callAs line credential => exact (congrArg known (l.snd_callAs line credential)).trans hsame
      | build line credential =>
          exact (congrArg (known ·.2) (l.buildRequest_eq line credential)).trans hsame
      | describe =>
          rw [react, after, snd_describe_eq_through]
          exact (l.react .ask).known_publish (offered? l.describeAnswer)
      | finishDiscovery =>
          rw [react, after, finishDiscovery_eq_through]
          exact (l.react .ask).known_settle_publish (offered? l.describeAnswer)
      | login user password => exact (congrArg known (l.snd_login user password)).trans hsame
      | logout => exact hsame

theorem procedures?_react (l : Link) (e : Event) :
    (l.react e).procedures? =
      (l.announced? e).or (if e.settles then some l.procedures else l.procedures?) :=
  congrArg Prod.fst (l.known_react e)

theorem discovering_react (l : Link) (e : Event) :
    (l.react e).discovering = (l.discovering && !e.settles) :=
  congrArg Prod.snd (l.known_react e)

variable {start : Link}

/-- What is known behind a run is the list that was brought last. -/
theorem procedures?_through (hstart : start.procedures? = none) (past : List Event) :
    (start.through past).procedures? =
      (start.announced past).getLast?.or (if past.any Event.settles then some [] else none) := by
  induction past using List.reverseRecOn with
  | nil => simpa [announced] using hstart
  | append_singleton past e ih =>
      rw [through_append_singleton, procedures?_react, procedures, ih, announced_append_singleton,
        List.any_append, List.any_cons, List.any_nil, Bool.or_false]
      cases (start.through past).announced? e with
      | some names => simp
      | none =>
          rw [Option.toList_none, List.append_nil, Option.none_or]
          cases (start.announced past).getLast? <;> cases past.any Event.settles <;>
            cases e.settles <;> rfl

/-- The owed description crashes after another one has succeeded, and takes nothing back. -/
example (peer : Peer) :
    ((connect peer).through
      [.ask, .ask, .answer (.done "\x7b\"result\":\x7b\"procs\":[\"echo\"]\x7d\x7d"),
        .answer (.crashed {}), .settle]).procedures? = some ["echo"] := by
  cbv

theorem discovering_through (hstart : start.discovering = true) (past : List Event) :
    (start.through past).discovering = !past.any Event.settles := by
  induction past using List.reverseRecOn with
  | nil => simpa using hstart
  | append_singleton past e ih =>
      rw [through_append_singleton, discovering_react, ih, List.any_append, List.any_cons,
        List.any_nil, Bool.or_false, Bool.not_or]

theorem isDiscovered_through {l : Link} (h : l.isDiscovered = true) (more : List Event) :
    (l.through more).isDiscovered = true := by
  induction more generalizing l with
  | nil => exact h
  | cons e more ih =>
      refine ih (l := l.react e) ?_
      rw [isDiscovered, procedures?_react, Option.isSome_or]
      cases e.settles with
      | true => exact Bool.or_true _
      | false => exact (congrArg _ h).trans (Bool.or_true _)

/-- What a link knows of the peer's commands behind some events. -/
structure Knows (start : Link) (past : List Event) : Prop where
  peer_eq : (start.through past).peer = start.peer
  describe_eq : (start.through past).describe.2 =
    (start.through past).through [.ask, .answer (start.through past).describeAnswer]
  finishDiscovery_eq : (start.through past).finishDiscovery =
    (start.through past).through [.ask, .answer (start.through past).describeAnswer, .settle]
  describe_eq_done_iff : ∀ names, (start.through past).describe.1 = .done names ↔
    offered? (start.through past).describeAnswer = some names
  procedures_eq : (start.through past).procedures = (start.announced past).getLast?.getD []
  kept : ∀ e names, (start.through past).procedures? = some names →
    (start.through past).announced? e = none →
      (start.through (past ++ [e])).procedures? = some names
  isDiscovered_iff : (start.through past).isDiscovered = true ↔
    start.announced past ≠ [] ∨ ∃ e ∈ past, e.settles = true
  isDiscovered_append : (start.through past).isDiscovered = true →
    ∀ more, (start.through (past ++ more)).isDiscovered = true
  isDiscovering_iff : (start.through past).isDiscovering = true ↔
    start.announced past = [] ∧ ∀ e ∈ past, e.settles = false
  isRemote_iff : ∀ name, (start.through past).isRemote name = true ↔
    name ∈ (start.through past).procedures

/-- Whatever happens to a link that owes a description, and whatever the peer does, it knows
the list that the last of the peer's answers with a description offered. That is settled once
there was such an answer or the owed description has ended, and is not taken back. A
description that is one operation asks the peer, and succeeds with just what its answer
offers. -/
theorem knows_connect (peer : Peer) (past : List Event) : (connect peer).Knows past := by
  have hknown := procedures?_through (show (connect peer).procedures? = none from rfl) past
  have howed := discovering_through (show (connect peer).discovering = true from rfl) past
  have hdiscovered : ((connect peer).through past).isDiscovered = true ↔
      (connect peer).announced past ≠ [] ∨ ∃ e ∈ past, e.settles = true := by
    rw [isDiscovered, hknown, Option.isSome_or, Bool.or_eq_true, List.getLast?_isSome]
    simp
  constructor
  case peer_eq => exact peer_through _ past
  case describe_eq => exact snd_describe_eq_through _
  case finishDiscovery_eq => exact finishDiscovery_eq_through _
  case describe_eq_done_iff => exact fun names => fst_describe_eq_done_iff
  case procedures_eq =>
    rw [procedures, hknown]
    cases ((connect peer).announced past).getLast? with
    | some names => rfl
    | none => cases past.any Event.settles <;> rfl
  case kept =>
    intro e names hnames hnone
    rw [through_append_singleton, procedures?_react, hnone, procedures, hnames]
    cases e.settles <;> rfl
  case isDiscovered_iff => exact hdiscovered
  case isDiscovered_append =>
    intro h more
    rw [through_append]
    exact isDiscovered_through h more
  case isDiscovering_iff =>
    have hnot := not_congr hdiscovered
    rw [isDiscovering, Bool.and_eq_true, howed, Bool.not_eq_true', Bool.not_eq_true',
      ← Bool.not_eq_true (isDiscovered _), hnot]
    simp
  case isRemote_iff =>
    intro name
    rw [isRemote, List.contains_iff_mem]

end Link

end RemoteConsole
