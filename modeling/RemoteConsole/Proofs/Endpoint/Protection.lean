import RemoteConsole.Endpoint.Answer
import RemoteConsole.Proofs.Command.Invocation
import RemoteConsole.Proofs.Endpoint.Access

/-!
# No protected command runs without the credential

Access is decided by the method of a request, but what runs is decided by the first
token of the line that is made of the method and the words. `tracedAnswer` answers a
request with handlers that put themselves on record, so that both can be seen. The
three open methods are plain words, hence the first token of such a request is its
method, whatever its words hold. The main statement is
`invocations_of_tracedAnswer`.
-/

namespace RemoteConsole

namespace EndpointConfig

/-- The handlers that run for a request, oldest first, and the answer to it. -/
def tracedAnswer (c : EndpointConfig) (r : Request) : List Invocation × Response :=
  match c.authorize r with
  | .error e => ([], .failure r.id (Int64.ofNat Status.noToken.code) e.message)
  | .ok () =>
    let start : Scene Responder := { console := {} }
    let (status, scene) := (Executor.localOnly c.commands.traced).execute (start.traced []) r.line
    (scene.console.invocations, scene.console.console.response r.id status)

theorem tracedAnswer_of_authorize_eq_ok (c : EndpointConfig) {r : Request}
    (h : c.authorize r = .ok ()) :
    c.tracedAnswer r = ((c.commands.route r.line).invocations, c.answer r) := by
  simp only [tracedAnswer, answer, h, Executor.localOnly, run, executor]
  rw [Executor.execute_traced]
  simp [Scene.traced]

/-- A request that is turned away runs no handler. -/
theorem tracedAnswer_of_authorize_ne_ok (c : EndpointConfig) {r : Request}
    (h : c.authorize r ≠ .ok ()) :
    c.tracedAnswer r = ([], .failure r.id 4 "Invalid token") := by
  cases ha : c.authorize r with
  | ok u => exact absurd ha h
  | error e =>
      rw [tracedAnswer, ha]
      rfl

/-- The record changes nothing about the answer. -/
theorem snd_tracedAnswer (c : EndpointConfig) (r : Request) :
    (c.tracedAnswer r).2 = c.answer r := by
  cases h : c.authorize r with
  | ok u => rw [c.tracedAnswer_of_authorize_eq_ok h]
  | error e => simp [tracedAnswer, answer, h]

theorem name_of_mem_tracedAnswer (c : EndpointConfig) {r : Request} {i : Invocation}
    (hr : isOpen r.method = true) (hi : i ∈ (c.tracedAnswer r).1) : i.name = r.method := by
  rw [c.tracedAnswer_of_authorize_eq_ok (c.authorize_of_isOpen hr)] at hi
  have hhead := (Table.head?_tokens_of_mem_invocations hi).1
  rw [Request.tokens_line_of_isPlain (isPlain_of_isOpen hr), List.head?_cons,
    Option.some.injEq] at hhead
  exact hhead.symm

theorem authorize_of_mem_tracedAnswer (c : EndpointConfig) {r : Request} {i : Invocation}
    (hi : i ∈ (c.tracedAnswer r).1) : c.authorize r = .ok () := by
  cases h : c.authorize r with
  | ok u => rfl
  | error e =>
      rw [c.tracedAnswer_of_authorize_ne_ok (by simp [h])] at hi
      simp at hi

/-- A handler of a protected command runs only for a request that carries the
credential; a request for a protected method without it runs no handler and is
refused under its own number; and a request for an open method runs no handler but
the one of that method. -/
theorem invocations_of_tracedAnswer (c : EndpointConfig) (r : Request) :
    (c.tracedAnswer r).2 = c.answer r ∧
      (∀ i ∈ (c.tracedAnswer r).1,
        i.name ∉ openMethods → r.params.token? = some c.token) ∧
      (r.method ∉ openMethods → r.params.token? ≠ some c.token →
        (c.tracedAnswer r).1 = [] ∧ c.answer r = .failure r.id 4 "Invalid token") ∧
      (r.method ∈ openMethods → ∀ i ∈ (c.tracedAnswer r).1, i.name = r.method) := by
  refine ⟨c.snd_tracedAnswer r, ?_, ?_, ?_⟩
  · intro i hi hin
    cases hm : isOpen r.method with
    | true =>
        rw [c.name_of_mem_tracedAnswer hm hi] at hin
        exact absurd (isOpen_iff.1 hm) hin
    | false =>
        exact (c.authorize_eq_ok_iff hm).1 (c.authorize_of_mem_tracedAnswer hi)
  · intro hm ht
    have hclosed : isOpen r.method = false := by
      rw [← Bool.not_eq_true, isOpen_iff]
      exact hm
    have hno : c.authorize r ≠ .ok () := fun h => ht ((c.authorize_eq_ok_iff hclosed).1 h)
    rw [← c.snd_tracedAnswer, c.tracedAnswer_of_authorize_ne_ok hno]
    exact ⟨rfl, rfl⟩
  · intro hm i hi
    exact c.name_of_mem_tracedAnswer (isOpen_iff.2 hm) hi

/-- Words with quotes that name other commands. -/
example : (default.tracedAnswer
    { id := 3, method := "help", params := .bare ["' echo", "exit'"] }).1
      = [⟨"help", [" echo exit"], .empty⟩] := by cbv

end EndpointConfig

end RemoteConsole
