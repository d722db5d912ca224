import RemoteConsole.Proofs.Command.Dispatch
import RemoteConsole.Proofs.Rpc.Discovery
import RemoteConsole.Scripted.Peer

/-!
# Failures inside an executor

Whatever fails or crashes while an executor serves its caller is turned into a status, after
one text is shown: a handler, a handler for every line, a forwarded call, a login. Neither a
call nor a login that goes wrong touches the session. `Executor.Contained` says so for one
operation and the main statement, `Executor.contained_serve`, for each operation of a
run. There is one way out: a login is not guarded, so a peer that crashes in it takes the
caller down (`Executor.login_crashed`).
-/

namespace RemoteConsole

/-- What a caller can ask of an executor. -/
inductive Demand where
  | execute (line : String)
  | login (user password : String)
  | logout
  deriving Repr, DecidableEq

/-- One operation of a run: the scene it found, what was answered and the scene it left. -/
structure Served (κ : Type) where
  demand : Demand
  before : Scene κ
  answer : Except Crash Status
  after : Scene κ

/-- A handler fails or crashes, for a reason that has this wording. -/
inductive HandlerOutcome.GoesWrong : HandlerOutcome → String → Prop
  | failed (e : CommandError) : GoesWrong (failed e) e.message
  | crashed (c : Crash) : GoesWrong (crashed c) c.message

/-- One text is shown, and the session of the link is left as it is. -/
def Scene.Shows {κ : Type} [Console κ] (s : Scene κ) (l : Link) (text : String) (s' : Scene κ) :
    Prop :=
  ∃ l', s' = ({ s with link := some l' } : Scene κ).echo text ∧
    l'.token = l.token ∧ l'.state = l.state

namespace Link

/-- A login crashes exactly if the peer does. -/
theorem fst_login_eq_crashed_iff {l : Link} {user password : String} {c : Crash} :
    (l.login user password).1 = .crashed c ↔
      l.peer l.sent (loginRequest l.nextId user password) = .crashed c := by
  have hlogin : (l.login user password).1 = .crashed c ↔
      l.answerTo (loginRequest l.nextId user password) = .crashed c := by
    rw [← fst_exchange_login]
    simp only [login, drawId, loginRequest]
    cases (exchange _ _).1 with
    | done v => cases hissued : credential? v <;> simp [hissued]
    | failed e => simp
    | crashed c => simp
  rw [hlogin, answerTo]
  cases l.peer l.sent (loginRequest l.nextId user password) with
  | done text =>
      rw [Attempt.bind_done]
      cases decodeReply text <;> simp [Attempt.ofExcept]
  | failed e => simp
  | crashed c => simp

theorem token_call (l : Link) (line : String) : (l.call line).2.token = l.token := by
  rw [call, snd_callAs]

theorem state_eq_of_token_eq {l l' : Link} (h : l'.token = l.token) : l'.state = l.state := by
  rw [state, h, state]

/-- A peer that is not described when it is waited for offers nothing. -/
theorem procedures_awaitDiscovery_of_ne_done {l : Link} (hdiscovering : l.isDiscovering = true)
    (h : ∀ names, l.describe.1 ≠ .done names) : l.awaitDiscovery.procedures = [] := by
  have hunknown : l.procedures? = none := by
    simpa [isDiscovering, isDiscovered] using (Bool.and_eq_true_iff.1 hdiscovering).2
  have hdescribe : l.describe.2.procedures? = none := by
    rcases l.describe_cases with ⟨names, _, hdone⟩ | ⟨_, _, hfailed⟩
    · exact absurd (congrArg Prod.fst hdone) (h names)
    · rw [hfailed]
      exact hunknown
  rw [awaitDiscovery, if_pos hdiscovering]
  simp [finishDiscovery, procedures, hdescribe]

end Link

namespace Executor

variable {κ : Type} [Console κ]

/-- What a demand comes to. -/
def perform (x : Executor κ) (s : Scene κ) : Demand → Except Crash Status × Scene κ
  | .execute line => (.ok (x.execute s line).1, (x.execute s line).2)
  | .login user password => x.login s user password
  | .logout => (.ok (x.logout s).1, (x.logout s).2)

/-- Meet demands, one after the other. A caller that survives a crash can go on. -/
def serve (x : Executor κ) (s : Scene κ) : List Demand → List (Served κ)
  | [] => []
  | d :: ds => ⟨d, s, (x.perform s d).1, (x.perform s d).2⟩ :: x.serve (x.perform s d).2 ds

/-- What failures and crashes in an operation come to. -/
structure Contained (x : Executor κ) (p : Served κ) : Prop where
  escapes_iff : ∀ c, p.answer = .error c ↔
    ∃ user password l, p.demand = .login user password ∧ x.link? p.before = some l ∧
      l.peer l.sent (loginRequest l.nextId user password) = .crashed c
  command : ∀ t line name c switches args outcome text s, p.demand = .execute line →
    x.registry = .table t → t.route line = .run name c switches args →
    c.handler args switches p.before = (outcome, s) → outcome.GoesWrong text →
      p.answer = .ok .commandError ∧ p.after = s.echo (name ++ ": " ++ text)
  lineHandler : ∀ handler line outcome text s, p.demand = .execute line →
    x.registry = .override handler → handler line p.before = (outcome, s) →
    outcome.GoesWrong text → p.answer = .ok .commandError ∧ p.after = s.echo text
  discovery : ∀ t line name l, p.demand = .execute line → x.registry = .table t →
    t.route line = .unknown name → x.link? p.before = some l → l.isDiscovering = true →
    (∀ names, l.describe.1 ≠ .done names) →
      p.answer = .ok .notFound ∧ p.before.Shows l (name ++ ": no such command") p.after
  call : ∀ t line name l text, p.demand = .execute line → x.registry = .table t →
    t.route line = .unknown name → x.link? p.before = some l →
    name ∈ l.awaitDiscovery.procedures →
    (l.awaitDiscovery.call line).1.verdict name = (.commandError, text) →
      p.answer = .ok .commandError ∧ p.before.Shows l text p.after
  login : ∀ user password l e, p.demand = .login user password →
    x.link? p.before = some l → (l.login user password).1 = .failed e →
      p.answer = .ok .commandError ∧ p.before.Shows l e.message p.after
  crash : ∀ user password l c, p.demand = .login user password →
    x.link? p.before = some l → (l.login user password).1 = .crashed c →
      ∃ l', p.after = { p.before with link := some l' } ∧
        l'.token = l.token ∧ l'.state = l.state

theorem settle_of_goesWrong {outcome : HandlerOutcome} {text : String}
    (h : outcome.GoesWrong text) (label : String) (s : Scene κ) :
    settle label (outcome, s) = (.commandError, s.echo (label ++ text)) := by
  cases h <;> rfl

theorem settle_empty_of_goesWrong {outcome : HandlerOutcome} {text : String}
    (h : outcome.GoesWrong text) (s : Scene κ) :
    settle "" (outcome, s) = (.commandError, s.echo text) := by
  rw [settle_of_goesWrong h, String.empty_append]

theorem login_eq {x : Executor κ} {s : Scene κ} {l : Link} (h : x.link? s = some l)
    (user password : String) :
    x.login s user password =
      match (l.login user password).1 with
      | .done .authenticated => (.ok .ok, { s with link := some (l.login user password).2 })
      | .done .rejected =>
        (.ok .noToken, { s with link := some (l.login user password).2 }.echo "Login failed")
      | .failed e =>
        (.ok .commandError, { s with link := some (l.login user password).2 }.echo e.message)
      | .crashed c => (.error c, { s with link := some (l.login user password).2 }) := by
  cases hanswer : (l.login user password).1 with
  | done outcome => cases outcome <;> simp only [login, h, hanswer]
  | failed e => simp only [login, h, hanswer]
  | crashed c => simp only [login, h, hanswer]

theorem fst_login_eq_error_iff {x : Executor κ} {s : Scene κ} {user password : String}
    {c : Crash} :
    (x.login s user password).1 = .error c ↔
      ∃ l, x.link? s = some l ∧
        l.peer l.sent (loginRequest l.nextId user password) = .crashed c := by
  cases hlink : x.link? s with
  | none => simp [login, hlink]
  | some l =>
      rw [login_eq hlink]
      simp only [Option.some.injEq, exists_eq_left', ← Link.fst_login_eq_crashed_iff]
      cases (l.login user password).1 with
      | done outcome => cases outcome <;> simp
      | failed e => simp
      | crashed c => simp

theorem fst_perform_eq_error_iff {x : Executor κ} {s : Scene κ} {d : Demand} {c : Crash} :
    (x.perform s d).1 = .error c ↔
      ∃ user password l, d = .login user password ∧ x.link? s = some l ∧
        l.peer l.sent (loginRequest l.nextId user password) = .crashed c := by
  cases d with
  | execute line => simp [perform]
  | login user password =>
      rw [perform, fst_login_eq_error_iff]
      simp
  | logout => simp [perform]

theorem shows_of_login {x : Executor κ} {s : Scene κ} {l : Link} {user password : String}
    {e : CallError} (hlink : x.link? s = some l) (h : (l.login user password).1 = .failed e) :
    x.login s user password = (.ok .commandError, (x.login s user password).2) ∧
      s.Shows l e.message (x.login s user password).2 := by
  have htoken : (l.login user password).2.token = l.token :=
    Link.token_login_of_ne (by simp [h])
  rw [login_eq hlink, h]
  exact ⟨rfl, _, rfl, htoken, Link.state_eq_of_token_eq htoken⟩

/-- What an operation comes to, whatever fails or crashes in it. -/
theorem contained_perform (x : Executor κ) (s : Scene κ) (d : Demand) :
    x.Contained ⟨d, s, (x.perform s d).1, (x.perform s d).2⟩ where
  escapes_iff := fun _ => fst_perform_eq_error_iff
  command := by
    rintro t line name c switches args outcome text s' rfl htable hroute hhandler hwrong
    have hexecute : x.execute s line = (.commandError, s'.echo (name ++ ": " ++ text)) := by
      simp only [execute, dispatch, htable, hroute]
      rw [show c.handler args switches s = _ from hhandler, settle_of_goesWrong hwrong]
    simp only [perform, hexecute, and_self]
  lineHandler := by
    rintro handler line outcome text s' rfl hregistry hhandler hwrong
    have hexecute : x.execute s line = (.commandError, s'.echo text) := by
      simp only [execute, hregistry]
      rw [show handler line s = _ from hhandler, settle_empty_of_goesWrong hwrong]
    simp only [perform, hexecute, and_self]
  discovery := by
    rintro t line name l rfl htable hroute hlink hdiscovering hdescribe
    have hremote : l.awaitDiscovery.isRemote name = false := by
      rw [Link.isRemote, Link.procedures_awaitDiscovery_of_ne_done hdiscovering hdescribe]
      rfl
    have hexecute : x.execute s line = forward name line l s := by
      rw [execute_of_route_eq_unknown s htable hroute, show x.link? s = some l from hlink]
    rw [forward_of_not_isRemote hremote] at hexecute
    simp only [perform, hexecute, true_and]
    exact ⟨_, rfl, l.token_awaitDiscovery, Link.state_eq_of_token_eq l.token_awaitDiscovery⟩
  call := by
    rintro t line name l text rfl htable hroute hlink hoffered hverdict
    have hexecute : x.execute s line = forward name line l s := by
      rw [execute_of_route_eq_unknown s htable hroute, show x.link? s = some l from hlink]
    rw [forward_of_isRemote_awaitDiscovery (List.contains_iff_mem.2 hoffered), hverdict] at hexecute
    have htoken : (l.awaitDiscovery.call line).2.token = l.token := by
      rw [Link.token_call, l.token_awaitDiscovery]
    simp only [perform, hexecute, true_and]
    exact ⟨_, rfl, htoken, Link.state_eq_of_token_eq htoken⟩
  login := by
    rintro user password l e rfl hlink hfailed
    obtain ⟨hstatus, hshows⟩ := shows_of_login hlink hfailed
    exact ⟨congrArg Prod.fst hstatus, hshows⟩
  crash := by
    rintro user password l c rfl hlink hcrashed
    have htoken : (l.login user password).2.token = l.token :=
      Link.token_login_of_ne (by simp [hcrashed])
    simp only [perform, login_eq hlink, hcrashed]
    exact ⟨_, rfl, htoken, Link.state_eq_of_token_eq htoken⟩

/-- Every demand of a run is met, and whatever fails or crashes meanwhile is contained, except
for a crash of the peer in a login. -/
theorem contained_serve (x : Executor κ) (s : Scene κ) (ds : List Demand) :
    (x.serve s ds).map Served.demand = ds ∧ ∀ p ∈ x.serve s ds, x.Contained p := by
  induction ds generalizing s with
  | nil => simp [serve]
  | cons d ds ih =>
      obtain ⟨hdemands, hcontained⟩ := ih (x.perform s d).2
      refine ⟨by rw [serve, List.map_cons, hdemands], ?_⟩
      intro p hp
      rw [serve, List.mem_cons] at hp
      rcases hp with rfl | hp
      · exact x.contained_perform s d
      · exact hcontained p hp

/-- A link to a peer that crashes when it gets a login. -/
def crashingLink : Link :=
  .new (Scripted.peer [{ method := some loginMethod, answer := .crash ⟨some "boom"⟩ }])

/-- A crash of the peer in a login is not turned into a status, and nothing is shown. -/
theorem login_crashed :
    let x : Executor Transcript := { registry := .table .empty }
    let p : Demand := .login "admin" "pw"
    (x.perform { console := {}, link := some crashingLink } p).1 = .error ⟨some "boom"⟩ ∧
      (x.perform { console := {}, link := some crashingLink } p).2.console.lines = [] := by
  decide +kernel

end Executor

end RemoteConsole
