import RemoteConsole.Endpoint.Access
import RemoteConsole.Proofs.Line.Plain

/-!
# Open methods and the credential

The methods that anyone may call are plain words (`isPlain_of_isOpen`), so a request for
one of them is read at the endpoint as a line that starts with that method. Any other
request is let through if and only if it carries the credential (`authorize_eq_ok_iff`).
-/

namespace RemoteConsole

theorem isOpen_iff {method : String} : isOpen method = true ↔ method ∈ openMethods := by
  simp [isOpen]

/-- An open method is read as it is written. -/
theorem isPlain_of_isOpen {method : String} (h : isOpen method = true) :
    isPlain method = true := by
  have hm := isOpen_iff.1 h
  simp only [openMethods, List.mem_cons, List.not_mem_nil, or_false] at hm
  rcases hm with rfl | rfl | rfl <;> decide +kernel

theorem isOpen_loginMethod : isOpen loginMethod = true := by decide

theorem isOpen_describeMethod : isOpen describeMethod = true := by decide

namespace EndpointConfig

theorem authorize_of_isOpen (c : EndpointConfig) {r : Request} (h : isOpen r.method = true) :
    c.authorize r = .ok () := by
  simp [authorize, h]

theorem authorize_withToken (c : EndpointConfig) (r : Request) :
    c.authorize (r.withToken c.token) = .ok () := by
  simp [authorize, Request.withToken]

/-- A request for a protected method is let through if and only if it carries the
credential. -/
theorem authorize_eq_ok_iff (c : EndpointConfig) {r : Request}
    (h : isOpen r.method = false) :
    c.authorize r = .ok () ↔ r.params.token? = some c.token := by
  simp only [authorize, h]
  cases ht : r.params.token? with
  | none => simp
  | some t => by_cases htc : t = c.token <;> simp [htc]

end EndpointConfig

end RemoteConsole
