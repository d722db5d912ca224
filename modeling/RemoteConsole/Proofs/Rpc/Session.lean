import Mathlib.Data.List.Induction
import Mathlib.Logic.Function.Iterate
import RemoteConsole.Command.Executor
import RemoteConsole.Proofs.Rpc.Credential

/-!
# Sessions over a run of operations

`InForce` says which credential is in force behind a run, in terms of the run alone: the
last that was issued, unless the link was logged out since. A link that holds just that
credential behaves as a session (`Link.IsSession`). What one operation does to the credential
(`Link.token_after_iff`) gives what a run does (`Link.token_run_iff`). An executor tells its
console of a session that its logout ends (`Executor.foldl_use`). The main statement is
`Link.isSession_run`.
-/

namespace RemoteConsole

namespace Link

/-- The link behind operations, one after the other. -/
def run (l : Link) (ops : List Operation) : Link := ops.foldl after l

@[simp] theorem run_nil (l : Link) : l.run [] = l := rfl

theorem run_cons (l : Link) (o : Operation) (ops : List Operation) :
    l.run (o :: ops) = (l.after o).run ops := rfl

theorem run_append_singleton (l : Link) (ops : List Operation) (o : Operation) :
    l.run (ops ++ [o]) = (l.run ops).after o := by
  rw [run, List.foldl_append]
  rfl

/-- The credential in force behind a run: some operation issued it, and since then nothing
was issued and the link was not logged out. -/
def InForce (l : Link) (past : List Operation) (token : String) : Prop :=
  ∃ before o since, past = before ++ o :: since ∧ (l.run before).Issues o token ∧
    ∀ between p rest, since = between ++ p :: rest →
      p ≠ .logout ∧ ∀ t, ¬ (l.run (before ++ o :: between)).Issues p t

theorem not_inForce_nil (l : Link) (token : String) : ¬ l.InForce [] token := by
  rintro ⟨before, o, since, heq, _⟩
  simp at heq

variable {l : Link} {past : List Operation} {o : Operation} {token : String}

theorem inForce_of_issues (h : (l.run past).Issues o token) : l.InForce (past ++ [o]) token := by
  refine ⟨past, o, [], rfl, h, ?_⟩
  intro between p rest heq
  simp at heq

theorem inForce_append_singleton (h : l.InForce past token) (hlogout : o ≠ .logout)
    (hissues : ∀ t, ¬ (l.run past).Issues o t) : l.InForce (past ++ [o]) token := by
  obtain ⟨before, q, since, rfl, hq, hsince⟩ := h
  refine ⟨before, q, since ++ [o], by simp, hq, ?_⟩
  intro between p rest heq
  rcases rest.eq_nil_or_concat with rfl | ⟨rest, x, rfl⟩
  · obtain ⟨rfl, ho⟩ := List.append_inj' heq rfl
    cases ho
    exact ⟨hlogout, hissues⟩
  · have hlast : since ++ [o] = (between ++ p :: rest) ++ [x] := by simpa using heq
    exact hsince between p rest (List.append_inj' hlast rfl).1

theorem inForce_append_singleton_iff :
    l.InForce (past ++ [o]) token ↔
      (l.run past).Issues o token ∨
        l.InForce past token ∧ o ≠ .logout ∧ ∀ t, ¬ (l.run past).Issues o t := by
  constructor
  · rintro ⟨before, q, since, heq, hq, hsince⟩
    rcases since.eq_nil_or_concat with rfl | ⟨since, x, rfl⟩
    · obtain ⟨rfl, ho⟩ := List.append_inj' heq rfl
      cases ho
      exact .inl hq
    · have hlast : past ++ [o] = (before ++ q :: since) ++ [x] := by simpa using heq
      obtain ⟨rfl, ho⟩ := List.append_inj' hlast rfl
      cases ho
      refine .inr ⟨⟨before, q, since, rfl, hq, ?_⟩, hsince since o [] (by simp)⟩
      intro between p rest hsplit
      exact hsince between p (rest ++ [o]) (by simp [hsplit])
  · rintro (hissues | ⟨hpast, hlogout, hissues⟩)
    · exact inForce_of_issues hissues
    · exact inForce_append_singleton hpast hlogout hissues

theorem token_run_iff {start : Link} (hstart : start.token = none) (past : List Operation)
    (token : String) : (start.run past).token = some token ↔ start.InForce past token := by
  -- From the end: what the last operation issues depends on the link behind all others.
  induction past using List.reverseRecOn generalizing token with
  | nil => simp [hstart, not_inForce_nil]
  | append_singleton past o ih =>
      rw [run_append_singleton, token_after_iff, inForce_append_singleton_iff, ih]

/-- An operation finds a session and leaves none. -/
def EndsSession (l : Link) (o : Operation) : Prop :=
  l.state = .authenticated ∧ (l.after o).state = .unauthenticated

instance (l : Link) (o : Operation) : Decidable (l.EndsSession o) :=
  inferInstanceAs (Decidable (_ ∧ _))

theorem state_eq_unauthenticated_iff : l.state = .unauthenticated ↔ l.token = none := by
  unfold state
  cases l.token <;> simp

theorem logout_eq_true_iff : l.logout.1 = true ↔ l.state = .authenticated := by
  rw [state_eq_authenticated_iff, ← Option.isSome_iff_exists]
  rfl

theorem endsSession_iff : l.EndsSession o ↔ o = .logout ∧ l.logout.1 = true := by
  rw [EndsSession, logout_eq_true_iff]
  constructor
  · rintro ⟨hopen, hclosed⟩
    refine ⟨?_, hopen⟩
    by_contra hlogout
    obtain ⟨token, htoken⟩ := state_eq_authenticated_iff.1 hopen
    -- Any other operation would leave the credential, or put a new one in its place.
    have hnone : ∀ t, (l.after o).token ≠ some t := by
      simp [state_eq_unauthenticated_iff.1 hclosed]
    have hissues : ∀ t, ¬ l.Issues o t := fun t h =>
      hnone t ((l.token_after_iff o t).2 (.inl h))
    exact hnone token ((l.token_after_iff o token).2 (.inr ⟨htoken, hlogout, hissues⟩))
  · rintro ⟨rfl, hopen⟩
    exact ⟨hopen, rfl⟩

theorem token_login_of_ne {user password : String}
    (h : (l.login user password).1 ≠ .done .authenticated) :
    (l.login user password).2.token = l.token := by
  have hno : ∀ token, ¬ l.Issues (.login user password) token :=
    not_exists.1 (mt (l.fst_login_eq_authenticated_iff user password).2 h)
  refine Option.ext fun token => ?_
  rw [← after_login, token_after_iff]
  simp [hno]

/-- What a link does while just these credentials are in force. -/
structure IsSession (l : Link) (inForce : String → Prop) : Prop where
  authenticated_iff : l.state = .authenticated ↔ ∃ token, inForce token
  sent : ∀ o, (l.after o).sent = l.sent ++ l.sentBy o
  call : ∀ o, (∃ line, o = .call line) ∨ o = .describe ∨ o = .finishDiscovery →
    ∀ r ∈ l.sentBy o, (r.params.token?.isSome = true ↔ l.state = .authenticated) ∧
      ∀ token, r.params.token? = some token ↔ inForce token
  callAs : ∀ line credential, ∀ r ∈ l.sentBy (.callAs line credential),
    r.params.token? = credential
  sent_call : ∀ line, l.sentBy (.call line) = l.sentBy (.callAs line l.token)
  sent_describe : l.sentBy .describe = l.sentBy (.call describeMethod)
  sent_callAs : ∀ line credential, l.sentBy (.callAs line credential) =
    ((Request.ofLine? l.nextId line).map (Request.withToken? · credential)).toList
  login : ∀ user password,
    l.sentBy (.login user password) = [loginRequest l.nextId user password]
  accepted_iff : ∀ user password, (l.login user password).1 = .done .authenticated ↔
    ∃ token, l.Issues (.login user password) token
  accepted : ∀ user password token, l.Issues (.login user password) token →
    (l.login user password).2.token = some token
  refused : ∀ user password, (l.login user password).1 ≠ .done .authenticated →
    (l.login user password).2.token = l.token ∧ (l.login user password).2.state = l.state
  logout_iff : l.logout.1 = true ↔ l.state = .authenticated
  logout : l.logout.2.token = none ∧ l.logout.2.state = .unauthenticated
  ended_iff : ∀ o, l.EndsSession o ↔ o = .logout ∧ l.logout.1 = true

theorem isSession_of_token_iff {inForce : String → Prop}
    (h : ∀ token, l.token = some token ↔ inForce token) : l.IsSession inForce where
  authenticated_iff := by
    simp only [state_eq_authenticated_iff, h]
  sent := l.sent_after
  call := by
    intro o ho r hr
    have htoken : r.params.token? = l.token := by
      rcases ho with ⟨line, rfl⟩ | rfl | rfl
      · rw [sentBy_call] at hr
        exact token?_of_mem_sentBy_callAs hr
      · rw [sentBy_describe] at hr
        exact token?_of_mem_sentBy_callAs hr
      · rw [sentBy_finishDiscovery, sentBy_describe] at hr
        exact token?_of_mem_sentBy_callAs hr
    rw [htoken]
    exact ⟨by rw [state_eq_authenticated_iff, Option.isSome_iff_exists], h⟩
  callAs := fun line credential r hr => token?_of_mem_sentBy_callAs hr
  sent_call := l.sentBy_call
  sent_describe := l.sentBy_describe
  sent_callAs := l.sentBy_callAs
  login := l.sentBy_login
  accepted_iff := l.fst_login_eq_authenticated_iff
  accepted := by
    intro user password token hissues
    rw [← after_login, token_after_iff]
    exact .inl hissues
  refused := by
    intro user password hrefused
    have htoken := token_login_of_ne hrefused
    exact ⟨htoken, by rw [state, htoken, state]⟩
  logout_iff := logout_eq_true_iff
  logout := ⟨rfl, rfl⟩
  ended_iff := fun _ => endsSession_iff

end Link

/-- A use of the link of a scene: an operation on the link itself, or a logout by an
executor. -/
inductive Use where
  | direct (o : Operation)
  | logout
  deriving DecidableEq

def Use.operation : Use → Operation
  | direct o => o
  | logout => .logout

/-- The uses of a run, each with the link that it finds. -/
def Link.occasions (l : Link) : List Use → List (Link × Use)
  | [] => []
  | u :: uses => (l, u) :: (l.after u.operation).occasions uses

/-- Which uses end a session by way of an executor. -/
def Link.noticed (l : Link) (u : Use) : Bool := u = .logout ∧ l.EndsSession u.operation

namespace Executor

variable {κ : Type} [Console κ]

/-- The scene behind a use of its link. -/
def use (x : Executor κ) (s : Scene κ) : Use → Scene κ
  | .direct o => { s with link := s.link.map (·.after o) }
  | .logout => (x.logout s).2

/-- A use acts on the link as its operation does, and on the console only by a notice. -/
theorem use_eq (t : Table κ) (console : κ) (l : Link) (u : Use) :
    use { registry := .table t } { console, link := some l } u =
      { console := if l.noticed u then Console.sessionEnded console else console
        link := some (l.after u.operation) } := by
  cases u with
  | direct o => rfl
  | logout =>
      have hnoticed : l.noticed .logout = l.logout.1 := by
        simp [Link.noticed, Use.operation, Link.endsSession_iff]
      have htold : use { registry := .table t } { console, link := some l } .logout =
          if l.logout.1 then
            { console := Console.sessionEnded console, link := some l.logout.2 }
          else { console, link := some l.logout.2 } := rfl
      rw [hnoticed, htold]
      cases l.logout.1 <;> rfl

theorem foldl_use (t : Table κ) (console : κ) (l : Link) (uses : List Use) :
    uses.foldl (use { registry := .table t }) { console, link := some l } =
      { console := Console.sessionEnded^[(l.occasions uses).countP fun p => p.1.noticed p.2] console
        link := some (l.run (uses.map Use.operation)) } := by
  induction uses generalizing console l with
  | nil => rfl
  | cons u uses ih =>
      rw [List.foldl_cons, use_eq, ih, List.map_cons, Link.run_cons, Link.occasions,
        List.countP_cons]
      cases l.noticed u with
      | false => simp
      | true => simp [Function.iterate_succ_apply]

end Executor

/-- Behind every run of operations on a link without a credential, and with every peer, the
link is a session under the credential in force. The console is told of the sessions that
logouts of an executor end, and of nothing else. -/
theorem Link.isSession_run (peer : Peer) (discovering : Bool) :
    let start : Link := { peer, discovering }
    (∀ past, (start.run past).IsSession (start.InForce past)) ∧
      ∀ (κ : Type) [Console κ] (t : Table κ) (console : κ) (uses : List Use),
        uses.foldl (Executor.use { registry := .table t }) { console, link := some start } =
          { console :=
              Console.sessionEnded^[(start.occasions uses).countP fun p => p.1.noticed p.2] console
            link := some (start.run (uses.map Use.operation)) } := by
  intro start
  constructor
  · intro past
    exact isSession_of_token_iff (token_run_iff rfl past)
  · intro κ _ t console uses
    exact Executor.foldl_use t console start uses

end RemoteConsole
