import RemoteConsole.Proofs.Rpc.Operation

/-!
# The credential of a link

Which credential goes out with an envelope depends on the operation: that of the session
with a call or a description, the given one with `callAs`, none with a login. Only a login
that issues a credential and a logout change the one that is held (`token_after_iff`).
-/

namespace RemoteConsole

namespace Link

/-- The envelopes that an operation sends. -/
def sentBy (l : Link) (o : Operation) : List Request := (l.after o).sent.drop l.sent.length

/-- The peer answers a login with a value. -/
def Answers (l : Link) (user password : String) (v : Json) : Prop :=
  ∃ text, l.peer l.sent (loginRequest l.nextId user password) = .done text ∧
    decodeReply text = .ok v

/-- An operation is a login with a truthy answer, which issues a credential: a string is
the credential itself, and of anything else it is the text. -/
def Issues (l : Link) (o : Operation) (token : String) : Prop :=
  ∃ user password v, o = .login user password ∧ l.Answers user password v ∧
    v.isTruthy = true ∧ (v = .string token ∨ (∀ s, v ≠ .string s) ∧ token = v.text)

variable {l : Link} {user password token : String} {v : Json}

theorem credential?_eq_some_iff :
    credential? v = some token ↔
      v.isTruthy = true ∧ (v = .string token ∨ (∀ s, v ≠ .string s) ∧ token = v.text) := by
  unfold credential?
  split
  · rename_i htruthy
    cases v <;> simp [htruthy, Json.shown, eq_comm]
  · rename_i hfalsy
    simp [hfalsy]

theorem fst_exchange_eq_done_iff :
    (l.drawId.2.exchange (loginRequest l.nextId user password)).1 = .done v ↔
      l.Answers user password v := by
  rw [fst_exchange_login, answerTo, Answers]
  cases l.peer l.sent (loginRequest l.nextId user password) with
  | done text =>
      rw [Attempt.bind_done]
      cases hread : decodeReply text <;> simp [Attempt.ofExcept, hread]
  | failed e => simp
  | crashed c => simp

theorem issues_login_iff :
    l.Issues (.login user password) token ↔
      ∃ v, (l.drawId.2.exchange (loginRequest l.nextId user password)).1 = .done v ∧
        credential? v = some token := by
  simp only [fst_exchange_eq_done_iff, credential?_eq_some_iff, Issues]
  constructor
  · rintro ⟨user', password', v, heq, hanswers, hissued⟩
    cases heq
    exact ⟨v, hanswers, hissued⟩
  · rintro ⟨v, hanswers, hissued⟩
    exact ⟨user, password, v, rfl, hanswers, hissued⟩

theorem not_issues_of_ne_login {o : Operation} (h : ∀ user password, o ≠ .login user password)
    (token : String) : ¬ l.Issues o token := by
  rintro ⟨user, password, v, heq, _⟩
  exact h user password heq

theorem tokenAfter_eq_some_iff {old : Option String} {a : Attempt Json} :
    tokenAfter old a = some token ↔
      (∃ v, a = .done v ∧ credential? v = some token) ∨
        old = some token ∧ ∀ t v, a = .done v → credential? v ≠ some t := by
  cases a with
  | done v =>
      cases hissued : credential? v with
      | none => simp [tokenAfter, hissued]
      | some t => simp [tokenAfter, hissued]
  | failed e => simp [tokenAfter]
  | crashed c => simp [tokenAfter]

/-- Only a login and a logout change the credential. -/
theorem token_after_of_ne {o : Operation} (hlogin : ∀ user password, o ≠ .login user password)
    (hlogout : o ≠ .logout) : (l.after o).token = l.token := by
  cases o with
  | call line => rw [after, call, snd_callAs]
  | callAs line credential => rw [after, snd_callAs]
  | build line credential => rw [after, buildRequest_eq]
  | describe => rw [after, snd_describe, call, snd_callAs]
  | finishDiscovery => rw [after, finishDiscovery, snd_describe, call, snd_callAs]
  | login user password => exact absurd rfl (hlogin user password)
  | logout => exact absurd rfl hlogout

/-- A link holds a credential behind an operation if the operation issued it, or if it was
held before and the operation neither issued another nor ended the session. -/
theorem token_after_iff (l : Link) (o : Operation) (token : String) :
    (l.after o).token = some token ↔
      l.Issues o token ∨ l.token = some token ∧ o ≠ .logout ∧ ∀ t, ¬ l.Issues o t := by
  by_cases hlogout : o = .logout
  · subst hlogout
    simp [after, logout, not_issues_of_ne_login]
  by_cases hlogin : ∃ user password, o = .login user password
  · obtain ⟨user, password, rfl⟩ := hlogin
    rw [after_login, snd_login]
    simp only [tokenAfter_eq_some_iff, issues_login_iff]
    simp
  · have hne : ∀ user password, o ≠ .login user password := by simpa using hlogin
    rw [token_after_of_ne hne hlogout]
    simp [not_issues_of_ne_login hne, hlogout]

theorem state_eq_authenticated_iff : l.state = .authenticated ↔ ∃ token, l.token = some token := by
  unfold state
  cases l.token <;> simp

/-- A login succeeds exactly if it issues a credential. -/
theorem fst_login_eq_authenticated_iff (l : Link) (user password : String) :
    (l.login user password).1 = .done .authenticated ↔
      ∃ token, l.Issues (.login user password) token := by
  simp only [issues_login_iff]
  simp only [login, drawId, loginRequest]
  cases (exchange _ _).1 with
  | done v => cases hissued : credential? v <;> simp [hissued]
  | failed e => simp
  | crashed c => simp

theorem sentBy_callAs (l : Link) (line : String) (credential : Option String) :
    l.sentBy (.callAs line credential)
      = ((Request.ofLine? l.nextId line).map (Request.withToken? · credential)).toList := by
  rw [sentBy, after, snd_callAs, List.drop_left]

theorem sentBy_call (l : Link) (line : String) :
    l.sentBy (.call line) = l.sentBy (.callAs line l.token) := rfl

theorem sentBy_describe (l : Link) :
    l.sentBy .describe = l.sentBy (.call describeMethod) := by
  rw [sentBy, after, snd_describe]
  rfl

theorem sentBy_finishDiscovery (l : Link) : l.sentBy .finishDiscovery = l.sentBy .describe := rfl

theorem sentBy_login (l : Link) (user password : String) :
    l.sentBy (.login user password) = [loginRequest l.nextId user password] := by
  rw [sentBy, after_login, snd_login]
  exact List.drop_left

/-- No operation takes back what was sent. -/
theorem sent_after (l : Link) (o : Operation) : (l.after o).sent = l.sent ++ l.sentBy o := by
  have hcall : ∀ line, (l.call line).2.sent = l.sent ++ l.sentBy (.call line) := by
    intro line
    rw [sentBy_call, sentBy_callAs, call, snd_callAs]
  cases o with
  | call line => exact hcall line
  | callAs line credential => rw [sentBy_callAs, after, snd_callAs]
  | build line credential => simp [sentBy, after, buildRequest_eq]
  | describe =>
      rw [sentBy_describe, after, snd_describe]
      exact hcall describeMethod
  | finishDiscovery =>
      rw [sentBy_finishDiscovery, sentBy_describe, after, finishDiscovery, snd_describe]
      exact hcall describeMethod
  | login user password =>
      rw [sentBy_login, after_login, snd_login]
      rfl
  | logout => simp [sentBy, after, logout]

theorem token?_of_mem_sentBy_callAs {line : String} {credential : Option String} {r : Request}
    (h : r ∈ l.sentBy (.callAs line credential)) : r.params.token? = credential := by
  rw [sentBy_callAs] at h
  cases hline : Request.ofLine? l.nextId line with
  | none => simp [hline] at h
  | some bare =>
      rw [hline, Option.map_some, Option.mem_toList, Option.some.injEq] at h
      rw [← h]
      exact Request.token?_withToken? (Request.ofLine?_eq_some_iff.1 hline).2.1 credential

end Link

end RemoteConsole
