import RemoteConsole.Proofs.Endpoint.Login
import RemoteConsole.Proofs.Endpoint.Protection
import RemoteConsole.Proofs.Endpoint.Reply

/-!
# What an endpoint keeps to itself

An endpoint has two secrets, its credential and the digest of the password. Two endpoints
with the same `redacted` configuration differ in nothing else. A caller who holds neither
credential can run the handlers of the three open methods only. Two of them never look at a
secret, and `login` answers without one unless the name and the password are good. The main
statement is `reply_eq_of_redacted_eq`.
-/

namespace RemoteConsole

namespace EndpointConfig

/-- The configuration without the two secrets. -/
def redacted (c : EndpointConfig) : EndpointConfig := { c with token := "", passwordHash := "" }

/-- The handler of `login` runs for a body, with a name and a password that are good. -/
def LetsIn (c : EndpointConfig) (b : Body) : Prop :=
  ∃ r, b.request = .ok r ∧
    ∃ i ∈ (c.tracedAnswer r).1, i.name = loginMethod ∧ c.accepts i.args = true

variable {c d : EndpointConfig} {r : Request}

theorem run_of_get?_eq_ofReply {line name : String} {args : List String}
    {f : List String → Switches → Json} (htokens : tokens line = name :: args)
    (hget : c.commands.get? name = some (.ofReply f none none)) :
    c.run line = (.ok, { reply? := some (f args .empty) }) :=
  c.run_of_route_eq_run (Table.route_of_optionSpec_eq_none htokens hget rfl)

theorem get?_loginMethod (c : EndpointConfig) :
    c.commands.get? loginMethod = some (.ofReply (fun args _ => c.loginReply args) none none) := by
  rw [get?_commands]
  rfl

theorem get?_helpMethod (c : EndpointConfig) :
    c.commands.get? helpMethod
      = some (.ofReply (fun args _ => helpReply (advertised c.basicCommands)
          c.basicCommands.usages args) none none) := by
  rw [get?_commands]
  rfl

theorem get?_describeMethod (c : EndpointConfig) :
    c.commands.get? describeMethod
      = some (.ofReply (fun _ _ => c.describeReply (advertised c.basicCommands)) none none) := by
  rw [get?_commands]
  rfl

theorem usages_basicCommands (c : EndpointConfig) :
    c.basicCommands.usages
      = [("echo", some "echo [-u] [-s separator] words..."), ("exit", none), ("login", none)] := by
  rfl

theorem describeReply_of_redacted_eq (h : c.redacted = d.redacted) (names : List String) :
    c.describeReply names = d.describeReply names := by
  simp only [redacted, mk.injEq] at h
  obtain ⟨_, _, hname, hid, haddress, _⟩ := h
  rw [describeReply, describeReply, hname, haddress, hid]

/-- A request reaches a good login exactly if the words behind `login` are good. -/
theorem letsIn_iff {b : Body} {args : List String} (hb : b.request = .ok r)
    (hmethod : r.method = loginMethod) (htokens : tokens r.line = loginMethod :: args) :
    c.LetsIn b ↔ c.accepts args = true := by
  have hopen : isOpen r.method = true := hmethod ▸ isOpen_loginMethod
  have htrace := c.tracedAnswer_of_authorize_eq_ok (c.authorize_of_isOpen hopen)
  rw [Table.route_of_optionSpec_eq_none htokens c.get?_loginMethod rfl] at htrace
  have hinvocations : (c.tracedAnswer r).1 = [⟨loginMethod, args, .empty⟩] :=
    congrArg Prod.fst htrace
  constructor
  · rintro ⟨r', hr', i, hi, _, haccepts⟩
    rw [hb, Except.ok.injEq] at hr'
    rw [← hr', hinvocations, List.mem_singleton] at hi
    rw [hi] at haccepts
    exact haccepts
  · intro haccepts
    refine ⟨r, hb, ⟨loginMethod, args, .empty⟩, ?_, rfl, haccepts⟩
    rw [hinvocations]
    exact List.mem_singleton_self _

/-- An open method says the same at both endpoints, if it is not a good login. -/
theorem run_eq_of_isOpen {b : Body} (h : c.redacted = d.redacted) (hb : b.request = .ok r)
    (hopen : isOpen r.method = true) (hc : ¬ c.LetsIn b) (hd : ¬ d.LetsIn b) :
    c.run r.line = d.run r.line := by
  have htokens := Request.tokens_line_of_isPlain (isPlain_of_isOpen hopen)
  have hmem := isOpen_iff.1 hopen
  simp only [openMethods, List.mem_cons, List.not_mem_nil, or_false] at hmem
  rcases hmem with hm | hm | hm
  · rw [hm] at htokens
    rw [run_of_get?_eq_ofReply htokens c.get?_helpMethod,
      run_of_get?_eq_ofReply htokens d.get?_helpMethod,
      advertised_basicCommands, advertised_basicCommands, usages_basicCommands,
      usages_basicCommands]
  · rw [hm] at htokens
    have hcno := eq_false_of_ne_true (mt (letsIn_iff hb hm htokens).2 hc)
    have hdno := eq_false_of_ne_true (mt (letsIn_iff hb hm htokens).2 hd)
    rw [run_of_get?_eq_ofReply htokens c.get?_loginMethod,
      run_of_get?_eq_ofReply htokens d.get?_loginMethod, loginReply_eq, loginReply_eq, hcno, hdno]
    rfl
  · rw [hm] at htokens
    rw [run_of_get?_eq_ofReply htokens c.get?_describeMethod,
      run_of_get?_eq_ofReply htokens d.get?_describeMethod,
      advertised_basicCommands, advertised_basicCommands, describeReply_of_redacted_eq h]

theorem authorize_ne_ok (hclosed : isOpen r.method = false)
    (hcredential : ∀ t, r.params.token? = some t → t ≠ c.token) : c.authorize r ≠ .ok () := by
  intro h
  exact hcredential c.token ((c.authorize_eq_ok_iff hclosed).1 h) rfl

/-- Endpoints that differ in their secrets only give the same reply to whoever holds neither
credential and is let in by neither login. -/
theorem reply_eq_of_redacted_eq {b : Body} (h : c.redacted = d.redacted)
    (hcredential : ∀ r, b.request = .ok r →
      ∀ t, r.params.token? = some t → t ≠ c.token ∧ t ≠ d.token)
    (hc : ¬ c.LetsIn b) (hd : ¬ d.LetsIn b) : c.reply b = d.reply b := by
  cases hb : b.request with
  | error e => rw [reply, reply, hb]
  | ok r =>
      have hno := hcredential r hb
      rw [c.reply_of_request_eq_ok hb, d.reply_of_request_eq_ok hb]
      cases hopen : isOpen r.method with
      | true =>
          rw [answer_of_authorize_eq_ok (c.authorize_of_isOpen hopen),
            answer_of_authorize_eq_ok (d.authorize_of_isOpen hopen),
            run_eq_of_isOpen h hb hopen hc hd]
      | false =>
          -- Both turn the request away before they look at its line.
          rw [answer_of_authorize_ne_ok (authorize_ne_ok hopen fun t ht => (hno t ht).1),
            answer_of_authorize_ne_ok (authorize_ne_ok hopen fun t ht => (hno t ht).2)]

/-- An endpoint like that of the password `pass`, save for its secrets. -/
def otherSecrets : EndpointConfig := { ofUser "admin" "word" with token := "u" }

/-- A login with a password that holds a blank and one of the two passwords, in the wrong
place. -/
def guess : Request := loginRequest 7 "admin" "guess pass"

theorem reply_guess :
    (ofUser "admin" "pass").redacted = otherSecrets.redacted ∧
      (ofUser "admin" "pass").token ≠ otherSecrets.token ∧
      ¬ (ofUser "admin" "pass").LetsIn (.json guess.wire) ∧
      ¬ otherSecrets.LetsIn (.json guess.wire) ∧
      (ofUser "admin" "pass").reply (.json guess.wire) = otherSecrets.reply (.json guess.wire) := by
  have hrequest := Body.request_wire guess
  have htokens : tokens guess.line = [loginMethod, "admin", "guess", "pass"] := by cbv
  have hc : ¬ (ofUser "admin" "pass").LetsIn (.json guess.wire) := by
    rw [letsIn_iff hrequest rfl htokens]
    decide +kernel
  have hd : ¬ otherSecrets.LetsIn (.json guess.wire) := by
    rw [letsIn_iff hrequest rfl htokens]
    decide +kernel
  have hredacted : (ofUser "admin" "pass").redacted = otherSecrets.redacted := by
    simp only [redacted, otherSecrets, ofUser]
  refine ⟨hredacted, by decide, hc, hd, reply_eq_of_redacted_eq hredacted ?_ hc hd⟩
  intro r hr t ht
  rw [hrequest, Except.ok.injEq] at hr
  rw [← hr] at ht
  cases ht

end EndpointConfig

end RemoteConsole
