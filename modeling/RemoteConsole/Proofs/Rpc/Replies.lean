import RemoteConsole.Proofs.Line.Forwarding
import RemoteConsole.Proofs.Rpc.Credential
import RemoteConsole.Proofs.Rpc.Envelope

/-!
# What a call makes of a reply

A call gives what the reply says, whatever else the link is used for: `Link.fst_call`. So a call
gets the result that the peer's reply was built from, `null` included, or the error. An error
counts also beside a result. The main statement is `Link.call_replied`.
-/

namespace RemoteConsole

/-- A reply with an error stands for the error, whatever else it holds. -/
theorem decodeReply_of_error {text : String} {r : Response} {e : RemoteError}
    (hread : Response.read text = .ok r) (herror : r.error = some e) :
    decodeReply text = .error (.remote e) := by
  simp only [decodeReply, hread, Response.outcome, herror]

namespace Link

/-- The peer answers the envelope that a call of a line sends with a text. -/
def Replied (l : Link) (line text : String) : Prop :=
  ∀ r ∈ l.sentBy (.call line), l.peer l.sent r = .done text

variable {l : Link} {line text : String}

/-- A call gives what the text it is answered with says. -/
theorem fst_call (hline : ∃ c ∈ line.toList, Text.isBlank c = false) (h : l.Replied line text) :
    (l.call line).1 = .ofExcept (decodeReply text) := by
  obtain ⟨r, hr, _⟩ := Request.exists_ofLine? l.nextId hline
  have hsent : r.withToken? l.token ∈ l.sentBy (.call line) := by
    rw [sentBy_call, sentBy_callAs, hr]
    simp
  rw [call, callAs_of_ofLine? hr, answerTo, h _ hsent, Attempt.bind_done]

theorem fits_nested (levels : Nat) :
    Json.Fits levels (Nat.repeat (fun v => Json.array [v]) levels (.bool false)) := by
  induction levels with
  | zero => exact .bool false
  | succ levels ih =>
      refine .array fun v hv => ?_
      rwa [List.mem_singleton.1 hv]

/-- A call of a line that is not blank gets the value or the error that the reply was built from,
and of a reply with an error it gets that error, whether or not there is a result beside it. -/
theorem call_replied (l : Link) (line : String)
    (hline : ∃ c ∈ line.toList, Text.isBlank c = false) :
    (∀ (id : Option UInt64) (v : Json), Json.Fits 126 v →
      l.Replied line (Response.success id v).wire → (l.call line).1 = .done v) ∧
    (∀ (id : Option UInt64) (code : Int64) (message : String),
      l.Replied line (Response.failure id code message).wire →
        ∃ e : CallError, (l.call line).1 = .failed e ∧ e = .remote ⟨code, message⟩ ∧
          e.message = message) ∧
    ∀ (text : String) (r : Response) (e : RemoteError), Response.read text = .ok r →
      r.error = some e → l.Replied line text → (l.call line).1 = .failed (.remote e) := by
  refine ⟨?_, ?_, ?_⟩
  · intro id v hv hreply
    rw [fst_call hline hreply, decodeReply_success id hv]
    rfl
  · intro id code message hreply
    refine ⟨.remote ⟨code, message⟩, ?_, rfl, rfl⟩
    rw [fst_call hline hreply, decodeReply_failure]
    rfl
  · intro text r e hread herror hreply
    rw [fst_call hline hreply, decodeReply_of_error hread herror]
    rfl

/-- Lists nested just as deep as a result may be, `null`, and a result beside an error. -/
theorem call_replied_deepest :
    let line := "\u00a0echo"
    let deep := Nat.repeat (fun v => Json.array [v]) 126 (.bool false)
    let link : String → Link := fun text => .new fun _ _ => .done text
    let both : Response := { id := none, result := some deep, error := some ⟨-1, ""⟩ }
    (∃ c ∈ line.toList, Text.isBlank c = false) ∧ Json.Fits 126 deep ∧
      ((link (Response.success (some 18446744073709551615) deep).wire).call line).1 = .done deep ∧
      ((link (Response.success none .null).wire).call line).1 = .done .null ∧
      (∃ e : CallError,
        ((link (Response.failure none (-32700) "no\n").wire).call line).1 = .failed e ∧
          e = .remote ⟨-32700, "no\n"⟩ ∧ e.message = "no\n") ∧
      ((link both.wire).call line).1 = .failed (.remote ⟨-1, ""⟩) := by
  intro line deep link both
  have hline : ∃ c ∈ line.toList, Text.isBlank c = false := ⟨'e', by decide, by decide +kernel⟩
  have hdeep : Json.Fits 126 deep := fits_nested 126
  have hreplied : ∀ text, (link text).Replied line text := fun text _ _ => rfl
  have hboth := both.read_wire (by rintro v ⟨⟩; exact hdeep)
  refine ⟨hline, hdeep, ?_, ?_, ?_, ?_⟩
  · exact (call_replied (link _) line hline).1 _ deep hdeep (hreplied _)
  · exact (call_replied (link _) line hline).1 _ .null .null (hreplied _)
  · exact (call_replied (link _) line hline).2.1 _ _ _ (hreplied _)
  · exact (call_replied (link _) line hline).2.2 both.wire _ _ hboth rfl (hreplied _)

end Link

end RemoteConsole
