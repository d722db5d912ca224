import Mathlib.Data.List.Permutation
import RemoteConsole.Proofs.Endpoint.Access
import RemoteConsole.Proofs.Endpoint.Exchange
import RemoteConsole.Proofs.Line.Pair

/-!
# Who is let in

A login sends a name and a password as two words, and the endpoint puts them on one line
and reads the line's tokens as the name and the password. `Link.login_eq` says what comes
of it. The main statement is `Link.login_decides`: the name and the password that are
checked are those that were given if and only if both are plain words, and for any other
pair some endpoint refuses its user, unless it happens to read another password with the
same digest.
-/

namespace RemoteConsole

theorem tokens_line_loginRequest (id : UInt64) (user password : String) :
    tokens (loginRequest id user password).line
      = loginMethod :: tokens (user ++ " " ++ password) := by
  have hplain : isPlain (loginRequest id user password).method = true :=
    isPlain_of_isOpen isOpen_loginMethod
  rw [Request.tokens_line_of_isPlain hplain]
  rfl

namespace EndpointConfig

/-- Whether the arguments of a login are good: the first two are those of the user. -/
def accepts (c : EndpointConfig) : List String → Bool
  | user :: password :: _ => c.verifyLogin user password
  | _ => false

theorem accepts_eq_true_iff {c : EndpointConfig} {args : List String} :
    c.accepts args = true ↔
      ∃ user password more, args = user :: password :: more ∧
        c.verifyLogin user password = true := by
  constructor
  · intro h
    unfold accepts at h
    split at h
    · rename_i user password more
      exact ⟨user, password, more, rfl, h⟩
    · cases h
  · rintro ⟨user, password, more, rfl, h⟩
    exact h

/-- An endpoint whose user has this name and this password. -/
def ofUser (user password : String) : EndpointConfig :=
  { EndpointConfig.default with user, passwordHash := Sha256.hexDigest password, token := "t" }

theorem verifyLogin_ofUser_iff {user password name attempt : String} :
    (ofUser user password).verifyLogin name attempt = true ↔
      name = user ∧ Sha256.hexDigest attempt = Sha256.hexDigest password := by
  simp [ofUser, verifyLogin]

theorem loginReply_eq (c : EndpointConfig) (args : List String) :
    c.loginReply args = if c.accepts args then .string c.token else .bool false := by
  unfold loginReply accepts
  split
  · rfl
  · simp

theorem run_loginRequest (c : EndpointConfig) (id : UInt64) (user password : String) :
    c.run (loginRequest id user password).line
      = (.ok, { reply? := some (c.loginReply (tokens (user ++ " " ++ password))) }) := by
  have hget : c.commands.get? loginMethod
      = some (.ofReply (fun args _ => c.loginReply args) none none) := by
    rw [get?_commands]
    rfl
  exact c.run_of_route_eq_run
    (Table.route_of_optionSpec_eq_none (tokens_line_loginRequest id user password) hget rfl)

end EndpointConfig

namespace Link

/-- What a login at an endpoint comes to. It opens a session if the endpoint accepts the
tokens it reads and has a credential to give. -/
theorem login_eq {c : EndpointConfig} {l : Link} (hpeer : l.peer = c.peer)
    (user password : String) :
    l.login user password =
      let opens := c.accepts (tokens (user ++ " " ++ password)) && !c.token.isEmpty
      (.done (if opens then .authenticated else .rejected),
        { l with
          nextId := l.nextId + 1
          sent := l.sent ++ [loginRequest l.nextId user password]
          token := if opens then some c.token else l.token }) := by
  have hopen : c.authorize (loginRequest l.nextId user password) = .ok () :=
    c.authorize_of_isOpen isOpen_loginMethod
  have hanswer := answerTo_of_authorize_eq_ok (l := l.drawId.2) hpeer hopen
  rw [c.run_loginRequest, c.loginReply_eq] at hanswer
  simp only [login, exchange_eq, drawId, loginRequest] at hanswer ⊢
  rw [hanswer]
  cases c.accepts (tokens (user ++ " " ++ password)) with
  | false => rfl
  | true =>
      cases ht : c.token.isEmpty with
      | false => simp [Status.isOk, Responder.result, credential?, Json.isTruthy, ht, Json.shown]
      | true => simp [Status.isOk, Responder.result, credential?, Json.isTruthy, ht]

theorem state_login {c : EndpointConfig} {l : Link} {user password : String}
    (hpeer : l.peer = c.peer) (htoken : c.token ≠ "")
    (h : c.accepts (tokens (user ++ " " ++ password)) = true) :
    (l.login user password).2.state = .authenticated := by
  rw [login_eq hpeer]
  simp [state, h, htoken]

theorem fst_login {c : EndpointConfig} {l : Link} (htoken : c.token ≠ "")
    (hpeer : l.peer = c.peer) (user password : String) :
    (l.login user password).1 =
      .done (if c.accepts (tokens (user ++ " " ++ password)) then .authenticated
        else .rejected) := by
  rw [login_eq hpeer]
  simp [htoken]

/-- If an endpoint decides for the line of its user's name and password as for the two
themselves, both are plain, or it reads another password with the same digest. -/
theorem isPlain_of_accepts_ofUser {user password : String}
    (h : (EndpointConfig.ofUser user password).accepts (tokens (user ++ " " ++ password)) = true) :
    (isPlain user = true ∧ isPlain password = true) ∨
      ∃ other more, other ≠ password ∧
        tokens (user ++ " " ++ password) = user :: other :: more ∧
        Sha256.hexDigest other = Sha256.hexDigest password := by
  obtain ⟨first, second, more, htokens, hverify⟩ := EndpointConfig.accepts_eq_true_iff.1 h
  obtain ⟨rfl, hdigest⟩ := EndpointConfig.verifyLogin_ofUser_iff.1 hverify
  by_cases hp : second = password
  · subst hp
    exact .inl (tokens_pair_iff.1 ⟨more, htokens⟩)
  · exact .inr ⟨second, more, hp, htokens, hdigest⟩

/-- A login is decided by the first two tokens of the line that the name and the password
make. For every endpoint these decide as the name and the password do if and only if
both are plain, or the second token is another password with the same digest. -/
theorem login_decides (user password : String) :
    (∀ (c : EndpointConfig) (l : Link), c.token ≠ "" → l.peer = c.peer →
      (l.login user password).1 =
        .done (if c.accepts (tokens (user ++ " " ++ password)) then .authenticated
          else .rejected)) ∧
    ((∀ (c : EndpointConfig) (l : Link), c.token ≠ "" → l.peer = c.peer →
      (l.login user password).1 =
        .done (if c.verifyLogin user password then .authenticated else .rejected)) ↔
      (isPlain user = true ∧ isPlain password = true) ∨
        ∃ other more, other ≠ password ∧
          tokens (user ++ " " ++ password) = user :: other :: more ∧
          Sha256.hexDigest other = Sha256.hexDigest password) := by
  constructor
  · intro c l htoken hpeer
    exact fst_login htoken hpeer user password
  constructor
  · intro h
    -- the endpoint whose user has just this name and this password
    let c := EndpointConfig.ofUser user password
    have htoken : c.token ≠ "" := by simp [c, EndpointConfig.ofUser]
    have hverify : c.verifyLogin user password = true :=
      EndpointConfig.verifyLogin_ofUser_iff.2 ⟨rfl, rfl⟩
    have hin := h c (.new c.peer) htoken rfl
    rw [fst_login htoken rfl, hverify, if_pos rfl, Attempt.done.injEq] at hin
    apply isPlain_of_accepts_ofUser
    by_contra hno
    rw [if_neg hno] at hin
    cases hin
  · intro h c l htoken hpeer
    rw [fst_login htoken hpeer]
    rcases h with h | ⟨other, more, _, htokens, hdigest⟩
    · obtain ⟨more, htokens⟩ := tokens_pair_iff.2 h
      rw [htokens, EndpointConfig.accepts]
    · rw [htokens, EndpointConfig.accepts, EndpointConfig.verifyLogin, hdigest,
        EndpointConfig.verifyLogin]

/-- The endpoint of a user whose password holds a blank. -/
def blankPassword : EndpointConfig := .ofUser "admin" "a b"

/-- A password that holds a blank is refused, and another one, the same in quotes, is
accepted in its place. -/
theorem login_blankPassword :
    blankPassword.verifyLogin "admin" "a b" = true ∧
      ((Link.new blankPassword.peer).login "admin" "a b").1 = .done .rejected ∧
      blankPassword.verifyLogin "admin" "'a b'" = false ∧
      ((Link.new blankPassword.peer).login "admin" "'a b'").1 = .done .authenticated := by
  have htoken : blankPassword.token ≠ "" := by decide
  have hcut : tokens ("admin" ++ " " ++ "a b") = ["admin", "a", "b"] := by cbv
  have hquoted : tokens ("admin" ++ " " ++ "'a b'") = ["admin", "a b"] := by cbv
  refine ⟨by decide +kernel, ?_, by decide +kernel, ?_⟩
  · have hrefused : blankPassword.accepts ["admin", "a", "b"] = false := by decide +kernel
    rw [fst_login htoken rfl, hcut, hrefused]
    rfl
  · have hin : blankPassword.accepts ["admin", "a b"] = true := by decide +kernel
    rw [fst_login htoken rfl, hquoted, hin]
    rfl

end Link

end RemoteConsole
