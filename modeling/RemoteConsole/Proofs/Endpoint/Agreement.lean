import Mathlib
import RemoteConsole.Proofs.Command.Dispatch
import RemoteConsole.Proofs.Endpoint.Session
import RemoteConsole.Proofs.Line.Forwarding

/-!
# A forwarded line ends as it does at the endpoint

A line that starts with `echo`, in whatever quotes, is unknown to a table without that
command and goes to the endpoint the link belongs to. There it is run as the words of
the line with single spaces in between, and what comes of that is what the line comes to.
The main statement is `execute_echo`.
-/

namespace RemoteConsole

theorem exists_not_isBlank_of_head? {line name : String} (h : (tokens line).head? = some name) :
    ∃ c ∈ line.toList, Text.isBlank c = false := by
  refine Decidable.byContradiction fun hno => ?_
  have hnil : tokens line = [] := tokens_eq_nil_iff.2 (by simpa using hno)
  simp [hnil] at h

/-- Under a session every line that is not blank is let through, and it ends as its words
do at the endpoint. -/
theorem Link.AtEndpoint.exists_call_eq {c : EndpointConfig} {l : Link} {line : String}
    (h : AtEndpoint c l) (hstate : l.state = .authenticated)
    (hline : ∃ d ∈ line.toList, Text.isBlank d = false) :
    ∃ r, r.line = rejoin line ∧ c.authorize r = .ok () ∧
      l.call line =
        (if (c.run (rejoin line)).1.isOk then .done (c.run (rejoin line)).2.result
          else .failed (.remote ⟨Int64.ofNat (c.run (rejoin line)).1.code,
            (c.run (rejoin line)).2.text⟩),
        { l with nextId := l.nextId + 1, sent := l.sent ++ [r] }) := by
  obtain ⟨r, hr, _, _, hwords⟩ := Request.exists_ofLine? l.nextId hline
  have hauthorized : c.authorize (r.withToken? l.token) = .ok () := by
    rw [h.token_of_authenticated hstate]
    exact c.authorize_withToken r
  have hcall := callAs_eq h.peer hr hauthorized
  rw [hwords] at hcall
  exact ⟨r.withToken? l.token, by rw [r.line_withToken?, hwords], hauthorized, hcall⟩

namespace Executor

variable {κ : Type} [Console κ]

theorem execute_eq_forward {t : Table κ} {s : Scene κ} {l : Link} {line name : String}
    (hlink : s.link = some l) (htable : t.get? name = none)
    (hhead : (tokens line).head? = some name) :
    execute { registry := .table t } s line = forward name line l s := by
  obtain ⟨args, htokens⟩ := List.head?_eq_some_iff.1 hhead
  rw [execute_of_route_eq_unknown s rfl (Table.route_of_get?_eq_none htokens htable)]
  simp only [link?, if_true, hlink]

theorem forward_of_isRemote {s : Scene κ} {l : Link} {line name : String}
    (hdiscovered : l.isDiscovered = true) (hremote : l.isRemote name = true) :
    forward name line l s =
      match (l.call line).1 with
      | .done v => (.ok, { s with link := some (l.call line).2 }.echo v.shown)
      | .failed e => (.commandError, { s with link := some (l.call line).2 }.echo e.message)
      | .crashed c =>
        (.commandError, { s with link := some (l.call line).2 }.echo (name ++ ": " ++ c.message))
    := by
  have hawait := Link.awaitDiscovery_of_isDiscovered hdiscovered
  rw [forward_of_isRemote_awaitDiscovery (hawait.symm ▸ hremote), hawait]
  cases (l.call line).1 <;> rfl

/-- A line that starts with `echo` comes to what its words come to at the endpoint: the
rendered reply is shown if they run well there, and the endpoint's own text if not. The
one request that is sent is let through. -/
theorem execute_echo (c : EndpointConfig) {t : Table κ} {s : Scene κ} {l : Link}
    {line : String} (hreached : Link.Reached c.peer l) (hstate : l.state = .authenticated)
    (hdiscovered : l.isDiscovered = true) (hlink : s.link = some l)
    (htable : t.get? "echo" = none) (hecho : (tokens line).head? = some "echo") :
    execute { registry := .table t } s line =
      (if (c.run (rejoin line)).1.isOk then
        (.ok,
          { console := Console.echo (c.run (rejoin line)).2.result.shown s.console
            link := some (l.call line).2 })
      else
        (.commandError,
          { console := Console.echo (c.run (rejoin line)).2.text s.console
            link := some (l.call line).2 })) ∧
      (c.run (rejoin line)).1 ≠ .noToken ∧
      ∃ r, (l.call line).2.sent = l.sent ++ [r] ∧ r.line = rejoin line ∧
        c.authorize r = .ok () := by
  have hl := Link.AtEndpoint.of_reached hreached
  have hremote : l.isRemote "echo" = true := by
    rw [Link.isRemote, hl.procedures_of_isDiscovered hdiscovered]
    rfl
  obtain ⟨r, hline, hauthorized, hcall⟩ :=
    hl.exists_call_eq hstate (exists_not_isBlank_of_head? hecho)
  refine ⟨?_, c.fst_run_ne_noToken (rejoin line), r, by rw [hcall], hline, hauthorized⟩
  rw [execute_eq_forward hlink htable hecho, forward_of_isRemote hdiscovered hremote]
  cases hstatus : (c.run (rejoin line)).1.isOk with
  | true =>
      have hdone : (l.call line).1 = .done (c.run (rejoin line)).2.result := by
        rw [hcall, hstatus]
        rfl
      simp only [hdone, if_true]
      rfl
  | false =>
      have hfailed : (l.call line).1 =
          .failed (.remote ⟨Int64.ofNat (c.run (rejoin line)).1.code,
            (c.run (rejoin line)).2.text⟩) := by
        rw [hcall, hstatus]
        rfl
      simp only [hfailed, Bool.false_eq_true, if_false]
      rfl

end Executor

/-- An endpoint whose user has the password `pass`. -/
def passEndpoint : EndpointConfig := .ofUser "admin" "pass"

/-- A link that knows what the endpoint offers and has a session with it. -/
def passLink : Link :=
  ((Link.connect passEndpoint.peer).after .finishDiscovery).after (.login "admin" "pass")

theorem reached_passLink : Link.Reached passEndpoint.peer passLink :=
  (Link.Reached.connect.after .finishDiscovery).after (.login "admin" "pass")

theorem state_passLink : passLink.state = .authenticated := by
  have htokens : tokens ("admin" ++ " " ++ "pass") = ["admin", "pass"] := by cbv
  have haccepts : passEndpoint.accepts (tokens ("admin" ++ " " ++ "pass")) = true := by
    rw [htokens]
    decide +kernel
  rw [passLink, Link.after_login]
  exact Link.state_login (Link.peer_after (.connect passEndpoint.peer) .finishDiscovery)
    (by decide) haccepts

theorem isDiscovered_passLink : passLink.isDiscovered = true := by
  rw [passLink, Link.after_login, Link.after_finishDiscovery]
  exact Link.isDiscovered_login (Link.isDiscovered_finishDiscovery (.connect passEndpoint.peer))

/-- A quoted name, an option with its value attached, a tab and a quote that is never
closed. -/
theorem Executor.execute_echo_quotes :
    Link.Reached passEndpoint.peer passLink ∧ passLink.state = .authenticated ∧
      passLink.isDiscovered = true ∧ (tokens "'echo' -s, \"a\t b").head? = some "echo" ∧
      execute { registry := .table .empty } { console := ({} : Transcript), link := some passLink }
          "'echo' -s, \"a\t b"
        = (.ok, { console := { lines := ["a,b"] }
                  link := some (passLink.call "'echo' -s, \"a\t b").2 }) := by
  have hhead : (tokens "'echo' -s, \"a\t b").head? = some "echo" := by cbv
  have htokens : tokens (rejoin "'echo' -s, \"a\t b") = ["echo", "-s,", "a", "b"] := by cbv
  have hread : EndpointConfig.echoCommand.read ["-s,", "a", "b"]
      = .run (Switches.empty.insert 's' (some ",")) ["a", "b"] := by cbv
  have hrun := passEndpoint.run_echo htokens
  rw [hread] at hrun
  obtain ⟨h, _⟩ := execute_echo passEndpoint (t := .empty)
    (s := { console := ({} : Transcript), link := some passLink })
    reached_passLink state_passLink isDiscovered_passLink rfl rfl hhead
  rw [hrun] at h
  refine ⟨reached_passLink, state_passLink, isDiscovered_passLink, hhead, ?_⟩
  rw [h]
  rfl

end RemoteConsole
