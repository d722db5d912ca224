import RemoteConsole.Endpoint.Answer
import RemoteConsole.Proofs.Command.Routing
import RemoteConsole.Proofs.Json.Kept

/-!
# What a line comes to at an endpoint

Every command of an endpoint gives exactly one value as its reply and shows nothing
(`exists_ofReply_of_get?`). The main statement is `run_cases`: a line leaves the
responder empty, or with one value that a peer can read back, or with one text that is
not empty.
-/

namespace RemoteConsole

namespace EndpointConfig

/-- The one command that is advertised. -/
def echoCommand : AnswerCommand :=
  .ofReply echoReply (some "us:") (some "echo [-u] [-s separator] words...")

/-- The commands of an endpoint by name. -/
theorem get?_commands (c : EndpointConfig) (name : String) :
    c.commands.get? name =
      if name = describeMethod then
        some (.ofReply (fun _ _ => c.describeReply (advertised c.basicCommands)) none none)
      else if name = helpMethod then
        some (.ofReply (fun args _ => helpReply (advertised c.basicCommands)
          c.basicCommands.usages args) none none)
      else if name = "echo" then some echoCommand
      else if name = exitMethod then some (.ofReply (fun _ _ => .string "exit") none none)
      else if name = loginMethod then
        some (.ofReply (fun args _ => c.loginReply args) none none)
      else none := by
  simp only [commands, Table.get?_register]
  simp only [basicCommands, Table.get?_register]
  rfl

theorem advertised_basicCommands (c : EndpointConfig) :
    advertised c.basicCommands = ["echo"] := by
  rfl

theorem fits_loginReply (c : EndpointConfig) (args : List String) :
    Json.Fits 126 (c.loginReply args) := by
  unfold loginReply
  split
  · split
    · exact Json.Fits.string _
    · exact Json.Fits.bool _
  · exact Json.Fits.bool _

theorem describeReply_eq (c : EndpointConfig) (names : List String) :
    c.describeReply names
      = .object [("address", .string c.address), ("id", .string c.id), ("name", .string c.name),
          ("procs", .ofStrings names), ("sdversion", .string "1.0")] := by
  simp only [describeReply, Json.ofFields, Entries.ofList, List.foldl_cons, List.foldl_nil,
    Entries.put, String.reduceEq, String.reduceLT, reduceIte]

theorem fits_describeReply (c : EndpointConfig) (names : List String) :
    Json.Fits 126 (c.describeReply names) := by
  rw [describeReply_eq]
  refine Json.Fits.object ?_ fun f hf => ?_
  · simp only [Entries.ofList, List.foldl_cons, List.foldl_nil, Entries.put, String.reduceEq,
      String.reduceLT, reduceIte]
  simp only [List.mem_cons, List.not_mem_nil, or_false] at hf
  rcases hf with rfl | rfl | rfl | rfl | rfl
  · exact Json.Fits.string _
  · exact Json.Fits.string _
  · exact Json.Fits.string _
  · exact Json.fits_ofStrings 124 names
  · exact Json.Fits.string _

/-- Every command of an endpoint answers with a value that a peer can read back. -/
theorem exists_ofReply_of_get? (c : EndpointConfig) {name : String} {cmd : AnswerCommand}
    (h : c.commands.get? name = some cmd) :
    ∃ f options usage, cmd = .ofReply f options usage ∧
      ∀ args switches, Json.Fits 126 (f args switches) := by
  rw [get?_commands] at h
  split at h
  · cases h
    exact ⟨_, _, _, rfl, fun _ _ => c.fits_describeReply _⟩
  · split at h
    · cases h
      refine ⟨_, _, _, rfl, fun args _ => ?_⟩
      cases args <;> exact Json.Fits.string _
    · split at h
      · cases h
        exact ⟨_, _, _, rfl, fun _ _ => Json.Fits.string _⟩
      · split at h
        · cases h
          exact ⟨_, _, _, rfl, fun _ _ => Json.Fits.string _⟩
        · split at h
          · cases h
            exact ⟨_, _, _, rfl, fun args _ => c.fits_loginReply args⟩
          · cases h

theorem run_of_route_eq_run (c : EndpointConfig) {line name : String} {switches : Switches}
    {args : List String} {f : List String → Switches → Json} {options usage : Option String}
    (h : c.commands.route line = .run name (.ofReply f options usage) switches args) :
    c.run line = (.ok, { reply? := some (f args switches) }) := by
  simp only [run, executor, Executor.localOnly, Executor.execute, Executor.dispatch, h]
  rfl

/-- A line leaves the responder empty, or with one value, or with one text. -/
theorem run_cases (c : EndpointConfig) (line : String) :
    c.run line = (.ok, {}) ∨
      (∃ v, Json.Fits 126 v ∧ c.run line = (.ok, { reply? := some v })) ∨
      ∃ status text, text ≠ "" ∧
        (status = .ok ∨ status = .notFound ∨ status = .badArguments) ∧
        c.run line = (status, { lines := [text] }) := by
  cases hroute : c.commands.route line with
  | blank =>
      refine .inl ?_
      simp only [run, executor, Executor.localOnly, Executor.execute, Executor.dispatch, hroute]
  | run name cmd switches args =>
      obtain ⟨_, hget⟩ := Table.head?_and_get?_of_route_eq_run hroute
      obtain ⟨f, options, usage, rfl, hfits⟩ := c.exists_ofReply_of_get? hget
      exact .inr (.inl ⟨f args switches, hfits args switches, c.run_of_route_eq_run hroute⟩)
  | stop text status =>
      obtain ⟨htext, hstatus⟩ := Table.isStop_of_route_eq_stop hroute
      refine .inr (.inr ⟨status, text, htext, hstatus.imp_right .inr, ?_⟩)
      simp only [run, executor, Executor.localOnly, Executor.execute, Executor.dispatch, hroute]
      rfl
  | unknown name =>
      refine .inr (.inr ⟨.notFound, name ++ ": no such command", by simp, by simp, ?_⟩)
      simp only [run, executor, Executor.localOnly, Executor.execute, Executor.dispatch, hroute]
      rfl

/-- What a line comes to that starts with `echo`. -/
theorem run_echo (c : EndpointConfig) {line : String} {args : List String}
    (h : tokens line = "echo" :: args) :
    c.run line =
      match echoCommand.read args with
      | .run switches rest => (.ok, { reply? := some (echoReply rest switches) })
      | .stop text status => (status, { lines := [text] }) := by
  have hget : c.commands.get? "echo" = some echoCommand := by
    rw [get?_commands]
    rfl
  simp only [run, executor, Executor.localOnly, Executor.execute, Executor.dispatch, Table.route,
    h, hget]
  cases echoCommand.read args <;> rfl

theorem fst_run_ne_noToken (c : EndpointConfig) (line : String) :
    (c.run line).1 ≠ .noToken := by
  rcases c.run_cases line with h | ⟨v, _, h⟩ | ⟨status, text, _, hstatus, h⟩
  · simp [h]
  · simp [h]
  · rcases hstatus with rfl | rfl | rfl <;> simp [h]

end EndpointConfig

end RemoteConsole
