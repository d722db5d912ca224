import RemoteConsole.Proofs.Command.Verdict
import RemoteConsole.Proofs.Endpoint.Exchange

/-!
# What an endpoint replies

A body that holds no request is refused with the code of such a body, and a request that may
not be carried out with the code of a missing credential. For any other the tokens of its
line decide: there may be none, the first may be unknown, `echo` may meet a bad option, and
in every other case there is a result (`answer_cases`). The main statement is
`reply_determined`.
-/

namespace RemoteConsole

namespace Response

/-- A reply as it is sent: with a result or with an error, and never with both. -/
def IsEnvelope (r : Response) : Prop :=
  ∃ id, (∃ v, r.toJson = .object [("id", id), ("jsonrpc", .string "2.0"), ("result", v)]) ∨
    ∃ e : RemoteError,
      r.toJson = .object [("id", id), ("jsonrpc", .string "2.0"), ("error", e.toJson)]

theorem isEnvelope_success (id : Option UInt64) (v : Json) : (success id v).IsEnvelope :=
  ⟨_, .inl ⟨v, rfl⟩⟩

theorem isEnvelope_failure (id : Option UInt64) (code : Int64) (text : String) :
    (failure id code text).IsEnvelope :=
  ⟨_, .inr ⟨⟨code, text⟩, rfl⟩⟩

@[simp] theorem success_ne_failure (id id' : Option UInt64) (v : Json) (code : Int64)
    (text : String) : success id v ≠ failure id' code text := by
  simp [success, failure]

@[simp] theorem failure_inj {id id' : Option UInt64} {code code' : Int64} {text text' : String} :
    failure id code text = failure id' code' text' ↔ id = id' ∧ code = code' ∧ text = text' := by
  simp [failure]

end Response

/-- A text is what is said about a call that failed and showed it. -/
theorem Responder.response_line {text : String} (htext : text ≠ "") (id : UInt64)
    {status : Status} (hstatus : status.isOk = false) :
    ({ lines := [text] } : Responder).response id status
      = .failure id (Int64.ofNat status.code) text := by
  simp [response, hstatus, failureText, Responder.text, htext]

namespace EndpointConfig

/-- The names that an endpoint has commands for. -/
def commandNames : List String := ["login", "exit", "echo", "help", "system.describe"]

theorem get?_commands_eq_none_iff (c : EndpointConfig) {name : String} :
    c.commands.get? name = none ↔ name ∉ commandNames := by
  rw [get?_commands]
  simp only [commandNames, describeMethod, helpMethod, exitMethod, loginMethod]
  grind

variable {c : EndpointConfig} {r : Request}

theorem answer_of_authorize_eq_ok (h : c.authorize r = .ok ()) :
    c.answer r = (c.run r.line).2.response r.id (c.run r.line).1 := by
  simp only [answer, h]

theorem answer_of_authorize_ne_ok (h : c.authorize r ≠ .ok ()) :
    c.answer r = .failure r.id 4 "Invalid token" := by
  cases ha : c.authorize r with
  | ok u => exact absurd ha h
  | error e =>
      simp only [answer, ha]
      rfl

theorem reply_of_request_eq_ok (c : EndpointConfig) {b : Body} (h : b.request = .ok r) :
    c.reply b = c.answer r := by
  rw [reply, h]

theorem run_of_tokens_eq_nil (c : EndpointConfig) {line : String} (h : tokens line = []) :
    c.run line = (.ok, {}) := by
  have hroute : c.commands.route line = .blank := by simp only [Table.route, h]
  simp only [run, executor, Executor.localOnly, Executor.execute, Executor.dispatch, hroute]

theorem run_of_get?_eq_none (c : EndpointConfig) {line name : String} {args : List String}
    (h : tokens line = name :: args) (hget : c.commands.get? name = none) :
    c.run line = (.notFound, { lines := [name ++ ": no such command"] }) := by
  have hroute := Table.route_of_get?_eq_none h hget
  simp only [run, executor, Executor.localOnly, Executor.execute, Executor.dispatch, hroute]
  rfl

theorem exists_ofReply_of_ne_echo (c : EndpointConfig) {name : String} {cmd : AnswerCommand}
    (hget : c.commands.get? name = some cmd) (hne : name ≠ "echo") :
    ∃ f, cmd = .ofReply f none none := by
  rw [get?_commands, if_neg hne] at hget
  split at hget
  · cases hget
    exact ⟨_, rfl⟩
  split at hget
  · cases hget
    exact ⟨_, rfl⟩
  split at hget
  · cases hget
    exact ⟨_, rfl⟩
  split at hget
  · cases hget
    exact ⟨_, rfl⟩
  · cases hget

theorem fst_run_of_ne_echo (c : EndpointConfig) {line name : String} {args : List String}
    (h : tokens line = name :: args) (hname : name ∈ commandNames) (hne : name ≠ "echo") :
    (c.run line).1 = .ok := by
  cases hget : c.commands.get? name with
  | none => exact absurd hname (c.get?_commands_eq_none_iff.1 hget)
  | some cmd =>
      obtain ⟨f, rfl⟩ := c.exists_ofReply_of_ne_echo hget hne
      rw [c.run_of_route_eq_run (Table.route_of_optionSpec_eq_none h hget rfl)]

/-- The options that `echo` reads of its arguments. -/
def echoOptions (args : List String) : List GivenOption :=
  (readOptions ":us:h".toList args).given

theorem read_echoCommand_iff {args : List String} {text : String} :
    echoCommand.read args = .stop text .badArguments ↔ FaultFirst (echoOptions args) text :=
  Command.read_eq_stop_badArguments_iff rfl rfl

theorem run_echo_of_faultFirst (c : EndpointConfig) {line text : String} {args : List String}
    (h : tokens line = "echo" :: args) (hfault : FaultFirst (echoOptions args) text) :
    c.run line = (.badArguments, { lines := [text] }) := by
  rw [c.run_echo h, read_echoCommand_iff.2 hfault]

theorem fst_run_echo (c : EndpointConfig) {line : String} {args : List String}
    (h : tokens line = "echo" :: args) (hfault : ∀ text, ¬ FaultFirst (echoOptions args) text) :
    (c.run line).1 = .ok := by
  rw [c.run_echo h]
  cases hread : echoCommand.read args with
  | run switches rest => rfl
  | stop text status =>
      rcases (Command.isStop_of_read hread).2 with hok | hbad
      · exact hok
      · rw [hbad] at hread
        exact absurd (read_echoCommand_iff.1 hread) (hfault text)

theorem answer_of_run_eq_ok (h : c.authorize r = .ok ()) (hrun : (c.run r.line).1 = .ok) :
    c.answer r = .success r.id (c.run r.line).2.result := by
  rw [answer_of_authorize_eq_ok h, hrun]
  rfl

theorem answer_of_tokens_eq_nil (h : c.authorize r = .ok ()) (htokens : tokens r.line = []) :
    c.answer r = .success r.id .null := by
  rw [answer_of_authorize_eq_ok h, c.run_of_tokens_eq_nil htokens]
  rfl

theorem answer_of_not_mem (h : c.authorize r = .ok ()) {name : String} {args : List String}
    (htokens : tokens r.line = name :: args) (hname : name ∉ commandNames) :
    c.answer r = .failure r.id 1 (name ++ ": no such command") := by
  have hget := c.get?_commands_eq_none_iff.2 hname
  rw [answer_of_authorize_eq_ok h, c.run_of_get?_eq_none htokens hget]
  exact Responder.response_line (by simp) r.id rfl

theorem answer_of_faultFirst (h : c.authorize r = .ok ()) {args : List String} {text : String}
    (htokens : tokens r.line = "echo" :: args) (hfault : FaultFirst (echoOptions args) text) :
    c.answer r = .failure r.id 3 text := by
  have htext := (Command.isStop_of_read (read_echoCommand_iff.2 hfault)).1
  rw [answer_of_authorize_eq_ok h, c.run_echo_of_faultFirst htokens hfault]
  exact Responder.response_line htext r.id rfl

theorem answer_cases (h : c.authorize r = .ok ()) :
    (tokens r.line = [] ∧ c.answer r = .success r.id .null) ∨
      (∃ name args, tokens r.line = name :: args ∧ name ∉ commandNames ∧
        c.answer r = .failure r.id 1 (name ++ ": no such command")) ∨
      (∃ args text, tokens r.line = "echo" :: args ∧ FaultFirst (echoOptions args) text ∧
        c.answer r = .failure r.id 3 text) ∨
      ∃ name args v, tokens r.line = name :: args ∧ name ∈ commandNames ∧
        (name = "echo" → ∀ text, ¬ FaultFirst (echoOptions args) text) ∧
        c.answer r = .success r.id v := by
  cases htokens : tokens r.line with
  | nil => exact .inl ⟨rfl, answer_of_tokens_eq_nil h htokens⟩
  | cons name args =>
      right
      by_cases hname : name ∈ commandNames
      · right
        by_cases hecho : name = "echo"
        · subst hecho
          by_cases hfault : ∃ text, FaultFirst (echoOptions args) text
          · left
            obtain ⟨text, hfault⟩ := hfault
            exact ⟨args, text, rfl, hfault, answer_of_faultFirst h htokens hfault⟩
          · right
            have hno := not_exists.1 hfault
            exact ⟨"echo", args, _, rfl, hname, fun _ => hno,
              answer_of_run_eq_ok h (c.fst_run_echo htokens hno)⟩
        · right
          exact ⟨name, args, _, rfl, hname, fun heq => absurd heq hecho,
            answer_of_run_eq_ok h (c.fst_run_of_ne_echo htokens hname hecho)⟩
      · left
        exact ⟨name, args, rfl, hname, answer_of_not_mem h htokens hname⟩

/-- A request that may be carried out fails for one of two reasons, each with its code. -/
theorem answer_eq_failure_cases (h : c.authorize r = .ok ()) {code : Int64} {text : String}
    (hanswer : c.answer r = .failure r.id code text) :
    (code = 1 ∧ ∃ name args, tokens r.line = name :: args ∧ name ∉ commandNames ∧
        text = name ++ ": no such command") ∨
      (code = 3 ∧ ∃ args, tokens r.line = "echo" :: args ∧
        FaultFirst (echoOptions args) text) := by
  rcases answer_cases h with ⟨_, hok⟩ | ⟨name, args, htokens, hname, hno⟩ |
    ⟨args, text', htokens, hfault, hbad⟩ | ⟨name, args, v, _, _, _, hok⟩
  · simp [hok] at hanswer
  · rw [hno, Response.failure_inj] at hanswer
    obtain ⟨_, hcode, htext⟩ := hanswer
    exact .inl ⟨hcode.symm, name, args, htokens, hname, htext.symm⟩
  · rw [hbad, Response.failure_inj] at hanswer
    obtain ⟨_, hcode, htext⟩ := hanswer
    exact .inr ⟨hcode.symm, args, htokens, htext ▸ hfault⟩
  · simp [hok] at hanswer

theorem exists_answer_eq_noToken_iff (c : EndpointConfig) (r : Request) :
    (∃ text, c.answer r = .failure r.id 4 text) ↔ c.authorize r ≠ .ok () := by
  constructor
  · rintro ⟨text, hanswer⟩ h
    rcases answer_eq_failure_cases h hanswer with ⟨hcode, _⟩ | ⟨hcode, _⟩
    · exact absurd hcode (by decide)
    · exact absurd hcode (by decide)
  · intro h
    exact ⟨_, answer_of_authorize_ne_ok h⟩

theorem answer_eq_notFound_iff (h : c.authorize r = .ok ()) {text : String} :
    c.answer r = .failure r.id 1 text ↔
      ∃ name args, tokens r.line = name :: args ∧ name ∉ commandNames ∧
        text = name ++ ": no such command" := by
  constructor
  · intro hanswer
    rcases answer_eq_failure_cases h hanswer with ⟨_, hno⟩ | ⟨hcode, _⟩
    · exact hno
    · exact absurd hcode (by decide)
  · rintro ⟨name, args, htokens, hname, rfl⟩
    exact answer_of_not_mem h htokens hname

theorem answer_eq_badArguments_iff (h : c.authorize r = .ok ()) {text : String} :
    c.answer r = .failure r.id 3 text ↔
      ∃ args, tokens r.line = "echo" :: args ∧ FaultFirst (echoOptions args) text := by
  constructor
  · intro hanswer
    rcases answer_eq_failure_cases h hanswer with ⟨hcode, _⟩ | ⟨_, hbad⟩
    · exact absurd hcode (by decide)
    · exact hbad
  · rintro ⟨args, htokens, hfault⟩
    exact answer_of_faultFirst h htokens hfault

/-- An answer carries a result, or an error with one of three codes. -/
theorem answer_eq_success_or_failure (c : EndpointConfig) (r : Request) :
    (∃ v, c.answer r = .success r.id v) ∨
      ∃ code text, (code = 1 ∨ code = 3 ∨ code = 4) ∧ c.answer r = .failure r.id code text := by
  by_cases h : c.authorize r = .ok ()
  · rcases answer_cases h with ⟨_, hok⟩ | ⟨name, args, _, _, hno⟩ | ⟨args, text, _, _, hbad⟩ |
      ⟨name, args, v, _, _, _, hok⟩
    · exact .inl ⟨_, hok⟩
    · exact .inr ⟨1, _, .inl rfl, hno⟩
    · exact .inr ⟨3, text, .inr (.inl rfl), hbad⟩
    · exact .inl ⟨v, hok⟩
  · exact .inr ⟨4, _, .inr (.inr rfl), answer_of_authorize_ne_ok h⟩

theorem isEnvelope_reply (c : EndpointConfig) (b : Body) : (c.reply b).IsEnvelope := by
  rw [reply]
  split
  · rename_i r _
    rcases c.answer_eq_success_or_failure r with ⟨v, h⟩ | ⟨code, text, _, h⟩
    · rw [h]
      exact Response.isEnvelope_success _ v
    · rw [h]
      exact Response.isEnvelope_failure _ code text
  · exact Response.isEnvelope_failure _ _ _

/-- A body that holds no request is refused as such. Any other is answered under its own
number: it is refused if it may not be carried out, and otherwise its tokens decide whether
the command is unknown, a bad option is met, or there is a result. -/
theorem reply_determined (c : EndpointConfig) (b : Body) :
    (c.reply b).IsEnvelope ∧
    (∀ text, b = .json text → b.request = (Request.read text).mapError .unreadable) ∧
    (∀ e, b.request = .error e → c.reply b = .failure none (-32700) e.message) ∧
    ∀ r, b.request = .ok r →
      ((∃ text, c.reply b = .failure r.id 4 text) ↔ c.authorize r ≠ .ok ()) ∧
      (c.authorize r = .ok () →
        (tokens r.line = [] → c.reply b = .success r.id .null) ∧
        (∀ text, c.reply b = .failure r.id 1 text ↔
          ∃ name args, tokens r.line = name :: args ∧ name ∉ commandNames ∧
            text = name ++ ": no such command") ∧
        ∀ text, c.reply b = .failure r.id 3 text ↔
          ∃ args, tokens r.line = "echo" :: args ∧ FaultFirst (echoOptions args) text) ∧
      ((∃ v, c.reply b = .success r.id v) ∨
        ∃ code text, (code = 1 ∨ code = 3 ∨ code = 4) ∧ c.reply b = .failure r.id code text) := by
  refine ⟨c.isEnvelope_reply b, ?_, ?_, ?_⟩
  · rintro text rfl
    exact if_pos MediaType.isJson_applicationJson
  · intro e hb
    rw [reply, hb]
    rfl
  · intro r hb
    rw [c.reply_of_request_eq_ok hb]
    refine ⟨c.exists_answer_eq_noToken_iff r, ?_, c.answer_eq_success_or_failure r⟩
    intro h
    exact ⟨answer_of_tokens_eq_nil h, fun text => answer_eq_notFound_iff h,
      fun text => answer_eq_badArguments_iff h⟩

end EndpointConfig

end RemoteConsole
