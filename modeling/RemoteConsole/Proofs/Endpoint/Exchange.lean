import RemoteConsole.Proofs.Endpoint.Running
import RemoteConsole.Proofs.Rpc.Envelope
import RemoteConsole.Proofs.Rpc.Operation

/-!
# A link and an endpoint

An endpoint at hand gets the request that was sent, and its answer is read back as what
it says. So an exchange with an endpoint that lets the request through ends as the line of
the request does there: with the result of the run, or with the text shown in its place
(`Link.answerTo_of_authorize_eq_ok`).
-/

namespace RemoteConsole

theorem MediaType.isJson_applicationJson :
    (ofText? "application/json").any isJson = true := by
  decide +kernel

theorem Body.request_wire (r : Request) : (Body.json r.wire).request = .ok r := by
  rw [Body.request, json, Option.bind_some, if_pos MediaType.isJson_applicationJson]
  exact congrArg (Except.mapError BodyFault.unreadable) (Request.read_wire r)

namespace EndpointConfig

theorem reply_wire (c : EndpointConfig) (r : Request) : c.reply (.json r.wire) = c.answer r := by
  rw [reply, Body.request_wire]

/-- An endpoint at hand answers each request on its own, whatever came before. -/
theorem peer_eq (c : EndpointConfig) (past : List Request) (r : Request) :
    c.peer past r = .done (c.answer r).wire := by
  rw [peer, reply_wire]

theorem fits_result_run (c : EndpointConfig) (line : String) :
    Json.Fits 126 (c.run line).2.result := by
  rcases c.run_cases line with h | ⟨v, hv, h⟩ | ⟨status, text, htext, _, h⟩
  · rw [h]
    exact Json.Fits.null
  · rw [h]
    exact hv
  · rw [h, Responder.result]
    split
    · rename_i hreply
      cases hreply
    · split
      · exact Json.Fits.null
      · exact Json.Fits.string _

theorem failureText_run (c : EndpointConfig) (line : String)
    (hstatus : (c.run line).1.isOk = false) :
    (c.run line).2.failureText (c.run line).1 = (c.run line).2.text := by
  rcases c.run_cases line with h | ⟨v, hv, h⟩ | ⟨status, text, htext, _, h⟩
  · rw [h] at hstatus
    cases hstatus
  · rw [h] at hstatus
    cases hstatus
  · rw [h]
    simp [Responder.failureText, Responder.text, htext]

/-- What a peer makes of the answer to a request that is let through. -/
theorem decodeReply_answer (c : EndpointConfig) {r : Request} (h : c.authorize r = .ok ()) :
    decodeReply (c.answer r).wire =
      if (c.run r.line).1.isOk then .ok (c.run r.line).2.result
      else .error (.remote ⟨Int64.ofNat (c.run r.line).1.code, (c.run r.line).2.text⟩) := by
  simp only [answer, h, Responder.response]
  split
  · exact decodeReply_success r.id (c.fits_result_run r.line)
  · rename_i hstatus
    rw [decodeReply_failure, c.failureText_run r.line (by simpa using hstatus)]

end EndpointConfig

namespace Link

/-- A request that is let through ends as its line does at the endpoint. -/
theorem answerTo_of_authorize_eq_ok {c : EndpointConfig} {l : Link} {r : Request}
    (hpeer : l.peer = c.peer) (h : c.authorize r = .ok ()) :
    l.answerTo r =
      if (c.run r.line).1.isOk then .done (c.run r.line).2.result
      else .failed (.remote ⟨Int64.ofNat (c.run r.line).1.code, (c.run r.line).2.text⟩) := by
  rw [answerTo, hpeer, c.peer_eq, Attempt.bind_done, c.decodeReply_answer h]
  split <;> rfl

end Link

end RemoteConsole
