import RemoteConsole.Proofs.Command.Invocation
import RemoteConsole.Proofs.Rpc.Numbering

/-!
# Every line goes one way

A line is blank, names a command of the table, names a command that the peer offers, or names
none. `Executor.Routed` says for each of the four what the line comes to, down to the envelopes
that are sent and the handlers that run; the main statement is `Executor.execute_routed`. Only
a name that the table does not have makes the executor wait for the discovery, and only one
that the peer offers makes it send anything else.
-/

namespace RemoteConsole

namespace Request

theorem ofLine?_eq_none_iff_tokens {id : UInt64} {line : String} :
    ofLine? id line = none ↔ tokens line = [] := by
  rw [ofLine?_eq_none_iff, tokens_eq_nil_iff]

end Request

namespace Link

/-- The operations that waiting for the discovery comes to. -/
def awaiting (l : Link) : List Operation := if l.isDiscovering then [.finishDiscovery] else []

theorem awaitDiscovery_eq_run (l : Link) : l.awaitDiscovery = l.run l.awaiting := by
  unfold awaitDiscovery awaiting
  split <;> rfl

theorem run_append (l : Link) (past more : List Operation) :
    l.run (past ++ more) = (l.run past).run more := List.foldl_append

theorem awaitDiscovery_of_isDiscovered {l : Link} (h : l.isDiscovered = true) :
    l.awaitDiscovery = l := by
  simp [awaitDiscovery, isDiscovering, h]

theorem token_awaitDiscovery (l : Link) : l.awaitDiscovery.token = l.token := by
  unfold awaitDiscovery
  split
  · rw [← after_finishDiscovery, token_after_of_ne (by simp) (by simp)]
  · rfl

theorem sent_awaitDiscovery (l : Link) :
    l.awaitDiscovery.sent = l.sent ++ if l.isDiscovering then [l.describeRequest] else [] := by
  unfold awaitDiscovery
  split
  · rw [finishDiscovery, snd_describe, call_describeMethod]
  · rw [List.append_nil]

/-- The envelope of a line that a link sends. -/
structure IsEnvelope (l : Link) (line : String) (r : Request) : Prop where
  words : r.method :: r.params.words = blankWords line
  id : r.id = l.nextId
  token : r.params.token? = l.token
  credentialed_iff : r.params.token?.isSome = true ↔ l.state = .authenticated

/-- A line that is not blank goes out in one envelope. -/
theorem exists_call_eq (l : Link) {line : String} (h : tokens line ≠ []) :
    ∃ r, l.IsEnvelope line r ∧
      l.call line =
        (l.answerTo r, { l with nextId := l.nextId + 1, sent := l.sent ++ [r] }) := by
  cases hline : Request.ofLine? l.nextId line with
  | none => exact absurd (Request.ofLine?_eq_none_iff_tokens.1 hline) h
  | some bare =>
      obtain ⟨hid, hbare, hwords⟩ := Request.ofLine?_eq_some_iff.1 hline
      have htoken : (bare.withToken? l.token).params.token? = l.token :=
        Request.token?_withToken? hbare l.token
      refine ⟨bare.withToken? l.token, ⟨?_, ?_, htoken, ?_⟩, callAs_of_ofLine? hline l.token⟩
      · rw [Request.method_withToken?, Request.words_withToken?, hwords]
      · rw [Request.id_withToken?, hid]
      · rw [htoken, state_eq_authenticated_iff, Option.isSome_iff_exists]

/-- The envelope of a line is numbered above all that the link sent before, discovery
included. -/
theorem id_lt_of_isEnvelope {peer : Peer} {discovering : Bool} {past : List Operation} {l : Link}
    {line : String} {r : Request} (hl : l = ({ peer, discovering } : Link).run past)
    (hdrawn : drawn (past ++ l.awaiting) < UInt64.size) (h : l.awaitDiscovery.IsEnvelope line r) :
    ∀ q ∈ l.awaitDiscovery.sent, q.id < r.id := by
  intro q hq
  have hrun : l.awaitDiscovery = ({ peer, discovering } : Link).run (past ++ l.awaiting) := by
    rw [run_append, ← hl, awaitDiscovery_eq_run]
  rw [h.id]
  rw [hrun] at hq ⊢
  exact id_lt_nextId_run rfl rfl hdrawn hq

end Link

/-- The status and the text that the answer to a forwarded line comes to. -/
def Attempt.verdict (name : String) : Attempt Json → Status × String
  | done v => (.ok, v.shown)
  | failed e => (.commandError, e.message)
  | crashed c => (.commandError, name ++ ": " ++ c.message)

theorem Table.invocations_of_get?_eq_none {κ : Type} {t : Table κ} {line name : String}
    {args : List String} (htokens : tokens line = name :: args) (h : t.get? name = none) :
    (t.route line).invocations = [] := by
  rw [route_of_get?_eq_none htokens h]
  rfl

theorem Route.length_invocations_le {κ : Type} (r : Route κ) : r.invocations.length ≤ 1 := by
  cases r <;> simp [invocations]

namespace Executor

variable {κ : Type} [Console κ]

theorem link_settle (label : String) (p : HandlerOutcome × Scene κ) :
    (settle label p).2.link = p.2.link := by
  obtain ⟨outcome, s⟩ := p
  cases outcome <;> rfl

theorem forward_of_isRemote_awaitDiscovery {s : Scene κ} {l : Link} {line name : String}
    (h : l.awaitDiscovery.isRemote name = true) :
    forward name line l s =
      (((l.awaitDiscovery.call line).1.verdict name).1,
        { s with link := some (l.awaitDiscovery.call line).2 }.echo
          ((l.awaitDiscovery.call line).1.verdict name).2) := by
  cases hcall : (l.awaitDiscovery.call line).1 <;>
    simp only [forward, h, if_true, hcall, Attempt.verdict]

theorem forward_of_not_isRemote {s : Scene κ} {l : Link} {line name : String}
    (h : l.awaitDiscovery.isRemote name = false) :
    forward name line l s =
      (.notFound, { s with link := some l.awaitDiscovery }.echo (name ++ ": no such command")) := by
  simp only [forward, h, Bool.false_eq_true, if_false, miss]

/-- A name that the table does not have goes to the link, if there is one. -/
theorem execute_of_route_eq_unknown {x : Executor κ} {t : Table κ} (s : Scene κ)
    {line name : String} (htable : x.registry = .table t) (hroute : t.route line = .unknown name) :
    x.execute s line =
      match x.link? s with
      | some l => forward name line l s
      | none => miss name s := by
  cases hlink : x.link? s <;> simp only [link?, htable] at hlink <;>
    simp only [execute, dispatch, htable, hroute, hlink]

theorem execute_of_tokens_eq_nil {t : Table κ} {forwards : Bool} {s : Scene κ} {line : String}
    (h : tokens line = []) : execute { registry := .table t, forwards } s line = (.ok, s) := by
  simp only [execute, dispatch, Table.route, h]

/-- What a line comes to with a table of commands, on each of the ways it can go. `runs` are
the handlers that run. -/
structure Routed (t : Table κ) (link? : Option Link) (s : Scene κ) (line : String)
    (out : Status × Scene κ) (runs : List Invocation) : Prop where
  blank_iff : tokens line = [] ↔ ∀ c ∈ line.toList, Text.isBlank c = true
  blank : tokens line = [] → out = (.ok, s) ∧ runs = []
  registered : ∀ name args c, tokens line = name :: args → t.get? name = some c →
    (∃ text status, c.read args = .stop text status ∧ out = (status, s.echo text) ∧ runs = []) ∨
      ∃ switches rest, c.read args = .run switches rest ∧ runs = [⟨name, rest, switches⟩] ∧
        out = settle (name ++ ": ") (c.handler rest switches s) ∧
        out.2.link = (c.handler rest switches s).2.link
  discovery : ∀ l, link? = some l →
    l.awaitDiscovery.sent = (l.sent ++ if l.isDiscovering then [l.describeRequest] else []) ∧
      l.awaitDiscovery.token = l.token
  offered : ∀ name args l, tokens line = name :: args → t.get? name = none → link? = some l →
    name ∈ l.awaitDiscovery.procedures →
      runs = [] ∧ ∃ r, l.awaitDiscovery.IsEnvelope line r ∧
        (∀ peer discovering past, l = ({ peer, discovering } : Link).run past →
          Link.drawn (past ++ l.awaiting) < UInt64.size →
            ∀ q ∈ l.awaitDiscovery.sent, q.id < r.id) ∧
        out =
          (((l.awaitDiscovery.answerTo r).verdict name).1,
            { s with
              link := some
                { l.awaitDiscovery with
                  nextId := l.awaitDiscovery.nextId + 1
                  sent := l.awaitDiscovery.sent ++ [r] } }.echo
              ((l.awaitDiscovery.answerTo r).verdict name).2)
  unoffered : ∀ name args l, tokens line = name :: args → t.get? name = none → link? = some l →
    name ∉ l.awaitDiscovery.procedures →
      runs = [] ∧ out =
        (.notFound, { s with link := some l.awaitDiscovery }.echo (name ++ ": no such command"))
  unlinked : ∀ name args, tokens line = name :: args → t.get? name = none → link? = none →
    runs = [] ∧ out = (.notFound, s.echo (name ++ ": no such command"))

theorem routed_registered {t : Table κ} {forwards : Bool} {s : Scene κ} {line name : String}
    {args : List String} {c : Command κ} (htokens : tokens line = name :: args)
    (h : t.get? name = some c) :
    (∃ text status, c.read args = .stop text status ∧
        execute { registry := .table t, forwards } s line = (status, s.echo text) ∧
        (t.route line).invocations = []) ∨
      ∃ switches rest, c.read args = .run switches rest ∧
        (t.route line).invocations = [⟨name, rest, switches⟩] ∧
        execute { registry := .table t, forwards } s line =
          settle (name ++ ": ") (c.handler rest switches s) := by
  cases hread : c.read args with
  | stop text status =>
      have hroute : t.route line = .stop text status := by
        simp only [Table.route, htokens, h, hread]
      refine .inl ⟨text, status, rfl, ?_, ?_⟩
      · simp only [execute, dispatch, hroute]
      · rw [hroute]
        rfl
  | run switches rest =>
      have hroute : t.route line = .run name c switches rest := by
        simp only [Table.route, htokens, h, hread]
      refine .inr ⟨switches, rest, rfl, ?_, ?_⟩
      · rw [hroute, Route.invocations]
      · simp only [execute, dispatch, hroute]

/-- Every line goes one way, and each way has exactly the effects it should have. -/
theorem execute_routed (t : Table κ) (forwards : Bool) (s : Scene κ) (line : String) :
    let x : Executor κ := { registry := .table t, forwards }
    ∃ runs : List Invocation, runs.length ≤ 1 ∧
      (∀ past, execute { registry := .table t.traced, forwards } (s.traced past) line =
        ((x.execute s line).1, (x.execute s line).2.traced (past ++ runs))) ∧
      Routed t (x.link? s) s line (x.execute s line) runs := by
  intro x
  have hunknown {name args} (hget : t.get? name = none) (htokens : tokens line = name :: args) :=
    execute_of_route_eq_unknown (x := x) s rfl (Table.route_of_get?_eq_none htokens hget)
  refine ⟨(t.route line).invocations, Route.length_invocations_le _,
    fun past => execute_traced t forwards s past line, ?_⟩
  refine
    { blank_iff := tokens_eq_nil_iff, blank := ?_, registered := ?_,
      discovery := fun l _ => ⟨l.sent_awaitDiscovery, l.token_awaitDiscovery⟩,
      offered := ?_, unoffered := ?_, unlinked := ?_ }
  · intro h
    exact ⟨execute_of_tokens_eq_nil h, by simp [Table.route, h, Route.invocations]⟩
  · intro name args c htokens hget
    obtain h | ⟨switches, rest, hread, hruns, hout⟩ := routed_registered htokens hget
    · exact .inl h
    · exact .inr ⟨switches, rest, hread, hruns, hout, by rw [hout, link_settle]⟩
  · intro name args l htokens hget hlink hoffered
    have hremote : l.awaitDiscovery.isRemote name = true := List.contains_iff_mem.2 hoffered
    have hne : tokens line ≠ [] := by simp [htokens]
    obtain ⟨r, henvelope, hcall⟩ := l.awaitDiscovery.exists_call_eq hne
    refine ⟨Table.invocations_of_get?_eq_none htokens hget, r, henvelope, ?_, ?_⟩
    · intro peer discovering past hl hdrawn
      exact Link.id_lt_of_isEnvelope hl hdrawn henvelope
    · rw [hunknown hget htokens, hlink]
      simp only [forward_of_isRemote_awaitDiscovery hremote, hcall]
  · intro name args l htokens hget hlink hoffered
    have hremote : l.awaitDiscovery.isRemote name = false := by
      simpa [Link.isRemote] using hoffered
    refine ⟨Table.invocations_of_get?_eq_none htokens hget, ?_⟩
    rw [hunknown hget htokens, hlink]
    exact forward_of_not_isRemote hremote
  · intro name args htokens hget hlink
    refine ⟨Table.invocations_of_get?_eq_none htokens hget, ?_⟩
    rw [hunknown hget htokens, hlink]
    rfl

end Executor

end RemoteConsole
