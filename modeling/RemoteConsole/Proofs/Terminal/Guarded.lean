import RemoteConsole.Proofs.Rpc.Session
import RemoteConsole.Proofs.Terminal.Turns
import RemoteConsole.Scripted.Peer

/-!
# Sessions behind a login

A session that requires a login takes lines only while the peer holds a session open. Between two
turns it is guarded (`Session.Guarded`): if it takes lines, then under a credential, and nothing
is left over in the terminal, neither an action nor the note that a session ended. While the
queue of actions is applied the session is open (`Session.IsOpen`), until a logout takes it back to
the user name (`Session.LoggedOut`). What every turn of every run does is put together in
`Session.BehindLogin`; the main statement is `Session.behindLogin_turns`.
-/

namespace RemoteConsole

namespace Executor

variable {x : Executor Terminal} {s s' : Scene Terminal}

/-- The state of the session depends on the credential alone. -/
theorem sessionState_congr (h : s'.link.map Link.token = s.link.map Link.token) :
    x.sessionState s' = x.sessionState s := by
  have hstate : s'.link.map Link.state = s.link.map Link.state := by
    cases hs : s.link with
    | none =>
        rw [hs] at h
        rw [Option.map_eq_none_iff.1 h]
    | some l =>
        rw [hs] at h
        obtain ⟨l', hs', htoken⟩ := Option.map_eq_some_iff.1 h
        rw [hs']
        exact congrArg some (Link.state_eq_of_token_eq htoken)
  simp only [sessionState, link?]
  split
  · split
    · exact hstate
    · rfl
  · rfl

theorem quiet_login (x : Executor Terminal) (s : Scene Terminal) (user password : String) :
    (x.login s user password).2.console.quiet = s.console.quiet := by
  cases hlink : x.link? s with
  | none =>
      simp only [login, hlink]
      exact s.quiet_echo _
  | some l =>
      rw [login_eq hlink]
      cases (l.login user password).1 with
      | done outcome =>
          cases outcome with
          | authenticated => rfl
          | rejected => exact Scene.quiet_echo _ _
      | failed e => exact Scene.quiet_echo _ _
      | crashed c => rfl

theorem quiet_of_login {answer : Except Crash Status} {user password : String}
    (h : x.login s user password = (answer, s')) : s'.console.quiet = s.console.quiet := by
  have hquiet := x.quiet_login s user password
  rwa [h] at hquiet

theorem link?_with_link {l : Link} (h : x.link? s = some l) (l' : Link) :
    x.link? { s with link := some l' } = some l' := by
  unfold link? at h ⊢
  split at h
  · split at h
    · rename_i hforwards
      rw [if_pos hforwards]
    · cases h
  · cases h

theorem sessionState_of_login {user password : String}
    (h : x.login s user password = (.ok .ok, s')) : x.sessionState s' = some .authenticated := by
  cases hlink : x.link? s with
  | none => simp [login, hlink] at h
  | some l =>
      rw [login_eq hlink] at h
      cases houtcome : (l.login user password).1 with
      | done outcome =>
          rw [houtcome] at h
          cases outcome with
          | authenticated =>
              cases h
              obtain ⟨token, htoken⟩ := (l.fst_login_eq_authenticated_iff user password).1 houtcome
              have hissued := (l.token_after_iff (.login user password) token).2 (.inl htoken)
              rw [sessionState, link?_with_link hlink]
              exact congrArg some (Link.state_eq_authenticated_iff.2 ⟨token, hissued⟩)
          | rejected => simp at h
      | failed e => simp [houtcome] at h
      | crashed c => simp [houtcome] at h

/-- To log out of an open session ends it, and the terminal is told. -/
theorem logout_of_authenticated (h : x.sessionState s = some .authenticated) :
    (x.logout s).2.console = { s.console with sessionEnded := true } ∧
      x.sessionState (x.logout s).2 = some .unauthenticated := by
  cases hlink : x.link? s with
  | none => simp [sessionState, hlink] at h
  | some l =>
      have hopen : l.state = .authenticated := by simpa [sessionState, hlink] using h
      have hended : l.logout.1 = true := Link.logout_eq_true_iff.2 hopen
      have hlogout : x.logout s =
          (.ok,
            { console := { s.console with sessionEnded := true }, link := some l.logout.2 }) := by
        simp only [logout, hlink, hended, if_true]
        rfl
      rw [hlogout]
      refine ⟨rfl, ?_⟩
      have hlink' : x.link? { s with link := some l.logout.2 } = some l.logout.2 :=
        link?_with_link hlink _
      exact congrArg (Option.map Link.state) hlink'

end Executor

theorem History.mem_entries_record {h : History} {line entry : String}
    (hentry : entry ∈ (h.record line).entries) : entry ∈ h.entries ∨ entry = trimBlank line := by
  unfold record at hentry
  split at hentry
  · have hkept := List.mem_of_mem_drop hentry
    exact (List.mem_append.1 hkept).imp_right List.mem_singleton.1
  · exact .inl hentry

namespace Session

/-- The executors of all terminals, the innermost one first. -/
def levels (s : Session) : List (Executor Terminal) :=
  s.inner.map (fun t => .localOnly t.commands) ++ [s.executor]

theorem head?_levels (s : Session) : s.levels.head? = some s.innermost := by
  unfold levels innermost
  cases s.inner <;> rfl

theorem getLast?_levels (s : Session) : s.levels.getLast? = some s.executor :=
  List.getLast?_concat

theorem orderly_innermost {s : Session} (h : s.executor.Orderly) : s.innermost.Orderly := by
  unfold innermost
  split
  · exact InnerTerminal.orderly_localOnly _
  · exact h

/-- The scene behind a line, before what it asked for is done. -/
def sceneAfter (s : Session) (line : String) : Scene Terminal :=
  let (status, scene) := s.innermost.execute s.scene line
  let history := scene.console.history
  { scene with
    console :=
      { history := if status.isOk then history.record line else history
        sessionEnded := scene.console.sessionEnded } }

theorem exists_runLine_eq (s : Session) (line : String) :
    ∃ output, s.runLine line =
      act (s.innermost.execute s.scene line).2.console.actions
        { s with scene := s.sceneAfter line, output } := by
  simp only [runLine, sceneAfter, report]
  split <;> exact ⟨_, rfl⟩

/-- To leave the outermost terminal does nothing. -/
theorem act_leave {s : Session} (h : s.inner = []) (rest : List Action) :
    act (.leave :: rest) s = act rest s := by
  have htail : s.inner.tail = s.inner := by rw [h, List.tail_nil]
  rw [act, htail]

/-- An action other than a logout only enters or leaves terminals and shows something. -/
theorem exists_act_cons_eq {a : Action} (h : a ≠ .logout) (s : Session) :
    ∃ inner output, ∀ rest, act (a :: rest) s = act rest { s with inner, output } := by
  cases a with
  | enter t => exact ⟨_, _, fun _ => rfl⟩
  | leave => exact ⟨_, _, fun _ => rfl⟩
  | clear => exact ⟨_, _, fun _ => rfl⟩
  | logout => exact absurd rfl h

/-- The parts of a session that stay as they were at its start, and nothing left over in the
terminal. -/
structure Settled (start s : Session) : Prop where
  options : s.options = start.options
  executor : s.executor = start.executor
  actions : s.scene.console.actions = []
  sessionEnded : s.scene.console.sessionEnded = false

/-- A session that takes lines takes them under a credential. -/
structure Guarded (start s : Session) : Prop extends Settled start s where
  authenticated : s.phase = .command → start.executor.sessionState s.scene = some .authenticated

/-- A session that takes lines. -/
structure IsOpen (start s : Session) : Prop extends Settled start s where
  phase : s.phase = .command
  authenticated : start.executor.sessionState s.scene = some .authenticated

/-- A session `s'` that was `s` until it was logged out of; `rest` is still to be done. -/
structure LoggedOut (start s : Session) (rest : List Action) (s' : Session) : Prop
    extends Settled start s' where
  phase : s'.phase = .username (some rest)
  inner : s'.inner = []
  unauthenticated : start.executor.sessionState s'.scene = some .unauthenticated
  history : s'.scene.console.history = s.scene.console.history

variable {start s : Session} {t : Turn} {line : String} {q : List Action}

theorem IsOpen.guarded (h : IsOpen start s) : Guarded start s :=
  ⟨h.toSettled, fun _ => h.authenticated⟩

theorem LoggedOut.guarded {rest : List Action} {s' : Session} (h : LoggedOut start s rest s') :
    Guarded start s' :=
  ⟨h.toSettled, fun hphase => by rw [h.phase] at hphase; cases hphase⟩

theorem console_askLogin (s : Session) (pending : Option (List Action)) :
    (s.askLogin pending).scene.console = s.scene.console.quiet :=
  s.scene.quiet_echo "Please log in"

section Required

variable (hrequired : start.options.login = true)
include hrequired

/-- A logout takes an open session back to the user name. -/
theorem loggedOut_act (h : IsOpen start s) (rest : List Action) :
    LoggedOut start s rest (act (.logout :: rest) s) := by
  have hlogout := Executor.logout_of_authenticated h.authenticated
  rw [← h.executor] at hlogout
  obtain ⟨hconsole, hstate⟩ := hlogout
  have hended : s.leaveAll.scene.console.sessionEnded = true :=
    congrArg Terminal.sessionEnded hconsole
  have hlater : (s.leaveAll.noteEnd.emit [.clear]).options.login = true :=
    (congrArg Options.login h.options).trans hrequired
  simp only [act, hended, hlater, if_true]
  have hasked := (s.leaveAll.noteEnd.emit [.clear]).console_askLogin (some rest)
  refine
    { options := h.options, executor := h.executor, phase := rfl, inner := rfl,
      actions := ?_, sessionEnded := ?_, unauthenticated := ?_, history := ?_ }
  · rw [hasked]
    exact (congrArg Terminal.actions hconsole).trans h.actions
  · rw [hasked]
    rfl
  · rw [← h.executor, ← hstate]
    exact Executor.sessionState_congr rfl
  · rw [hasked]
    have hhistory := congrArg Terminal.history hconsole
    exact hhistory

/-- A queue of actions leaves an open session open, with its scene as it was, or logs out of it
at its first logout. -/
theorem act_cases (h : IsOpen start s) (q : List Action) :
    (.logout ∉ q ∧ IsOpen start (act q s) ∧ (act q s).scene = s.scene) ∨
      ∃ before rest, q = before ++ .logout :: rest ∧ .logout ∉ before ∧
        LoggedOut start s rest (act q s) := by
  -- Up to the first logout the session changes from action to action, but it stays open.
  induction q generalizing s with
  | nil => exact .inl ⟨List.not_mem_nil, h, rfl⟩
  | cons a q ih =>
      by_cases ha : a = .logout
      · subst ha
        exact .inr ⟨[], q, rfl, List.not_mem_nil, loggedOut_act hrequired h q⟩
      · obtain ⟨inner, output, hact⟩ := exists_act_cons_eq ha s
        have hopen : IsOpen start { s with inner, output } :=
          { options := h.options, executor := h.executor, actions := h.actions,
            sessionEnded := h.sessionEnded, phase := h.phase, authenticated := h.authenticated }
        rw [hact]
        obtain ⟨hnot, hstays⟩ | ⟨before, rest, hsplit, hnot, hout⟩ := ih hopen
        · exact .inl ⟨by simp [hnot, Ne.symm ha], hstays⟩
        · refine .inr ⟨a :: before, rest, by rw [hsplit, List.cons_append], ?_, ?_⟩
          · simp [hnot, Ne.symm ha]
          · exact { hout with history := hout.history }

theorem guarded_act (h : IsOpen start s) (q : List Action) : Guarded start (act q s) := by
  obtain ⟨-, hopen, -⟩ | ⟨_, _, -, -, hout⟩ := act_cases hrequired h q
  · exact hopen.guarded
  · exact hout.guarded

theorem history_act (h : IsOpen start s) (q : List Action) :
    (act q s).scene.console.history = s.scene.console.history := by
  obtain ⟨-, -, hscene⟩ | ⟨_, _, -, -, hout⟩ := act_cases hrequired h q
  · rw [hscene]
  · exact hout.history

end Required

/-- The session behind an accepted password, before what was left to do is done. -/
theorem isOpen_adopt (h : Guarded start s) {user password : String} {scene : Scene Terminal}
    (hlogin : s.executor.login s.scene user password = (.ok .ok, scene)) :
    IsOpen start { (s.adopt scene).greet with phase := .command } := by
  have hconsole : (s.adopt scene).scene.console = s.scene.console.quiet :=
    Executor.quiet_of_login hlogin
  refine
    { options := h.options, executor := h.executor, phase := rfl, actions := ?_,
      sessionEnded := ?_, authenticated := ?_ }
  · exact (congrArg Terminal.actions hconsole).trans h.actions
  · exact (congrArg Terminal.sessionEnded hconsole).trans h.sessionEnded
  · rw [← h.executor, ← Executor.sessionState_of_login hlogin]
    exact Executor.sessionState_congr rfl

section Orderly

variable (hx : start.executor.Orderly)
include hx

/-- The session behind a line, before what it asked for is done. -/
theorem isOpen_sceneAfter (h : Guarded start s) (hphase : s.phase = .command) (line : String)
    (output : List Output) : IsOpen start { s with scene := s.sceneAfter line, output } := by
  have hkeeps : s.scene.Keeps (s.innermost.execute s.scene line).2 :=
    orderly_innermost (h.executor ▸ hx) s.scene line
  exact
    { options := h.options, executor := h.executor, actions := rfl,
      sessionEnded := hkeeps.sessionEnded.trans h.sessionEnded, phase := hphase
      authenticated := (Executor.sessionState_congr hkeeps.token).trans (h.authenticated hphase) }

/-- A turn that applies a queue of actions applies it to an open session. -/
theorem exists_turn_eq_act (h : Guarded start s) (happlies : s.Applies t q) :
    ∃ s', s.turn t = act q s' ∧ s'.inner = s.inner ∧ IsOpen start s' := by
  cases happlies with
  | asked hhands =>
      obtain ⟨output, hrun⟩ := s.exists_runLine_eq _
      rw [turn_of_hands hhands]
      exact ⟨_, hrun, rfl, isOpen_sceneAfter hx h (phase_of_hands hhands) _ output⟩
  | left hphase hlogin =>
      refine ⟨{ (s.adopt _).greet with phase := .command }, ?_, rfl, isOpen_adopt h hlogin⟩
      simp only [turn, feedPassword, hphase, hlogin]
      rfl

variable (hrequired : start.options.login = true)
include hrequired

/-- Every turn leaves a guarded session guarded. -/
theorem Guarded.turn (h : Guarded start s) (t : Turn) : Guarded start (s.turn t) := by
  -- The two turns that apply a queue are one case: both apply it to an open session.
  have happly {q : List Action} (happlies : s.Applies t q) : Guarded start (s.turn t) := by
    obtain ⟨s', hturn, -, hopen⟩ := exists_turn_eq_act hx h happlies
    exact hturn ▸ guarded_act hrequired hopen q
  generalize hafter : s.turn t = s' at happly ⊢
  cases hafter ▸ s.step_turn t with
  | handed hhands => exact happly (.asked hhands)
  | opened hphase hlogin => exact happly (.left hphase hlogin)
  | refused _ hlogin hnext =>
      have hquiet := Executor.quiet_of_login hlogin
      refine ⟨⟨h.options, h.executor, ?_, ?_⟩, fun hphase => absurd hphase hnext⟩
      · exact (congrArg Terminal.actions hquiet).trans h.actions
      · exact (congrArg Terminal.sessionEnded hquiet).trans h.sessionEnded
  | idle _ hnext =>
      refine ⟨⟨h.options, h.executor, h.actions, h.sessionEnded⟩, ?_⟩
      intro hphase
      exact h.authenticated (hnext hphase)

theorem Guarded.turns (h : Guarded start s) (past : List Turn) :
    Guarded start (s.turns past) := by
  induction past generalizing s with
  | nil => exact h
  | cons t past ih => exact ih (h.turn hx hrequired t)

/-- A line that goes well is taken into the history; nothing else is. -/
theorem mem_history_turn (h : Guarded start s) {entry : String}
    (hentry : entry ∈ (s.turn t).scene.console.history.entries) :
    entry ∈ s.scene.console.history.entries ∨
      s.hands? t = some entry ∧ (s.innermost.execute s.scene entry).1 = .ok := by
  generalize hafter : s.turn t = s' at hentry
  cases hafter ▸ s.step_turn t with
  | @handed _ line hhands =>
      obtain ⟨output, hrun⟩ := s.exists_runLine_eq line
      have hopen := isOpen_sceneAfter hx h (phase_of_hands hhands) line output
      rw [hrun, history_act hrequired hopen] at hentry
      have hhistory :
          (s.innermost.execute s.scene line).2.console.history = s.scene.console.history :=
        (orderly_innermost (h.executor ▸ hx) s.scene line).history
      simp only [sceneAfter, hhistory] at hentry
      split at hentry
      · rename_i hok
        refine (History.mem_entries_record hentry).imp_right fun hline => ?_
        rw [trimBlank_of_hands hhands] at hline
        subst hline
        exact ⟨hhands, by simpa [Status.isOk] using hok⟩
      · exact .inl hentry
  | opened hphase hlogin =>
      have hquiet := Executor.quiet_of_login hlogin
      rw [resume, history_act hrequired (isOpen_adopt h hlogin)] at hentry
      exact .inl (congrArg Terminal.history hquiet ▸ hentry)
  | refused _ hlogin =>
      have hquiet := Executor.quiet_of_login hlogin
      exact .inl (congrArg Terminal.history hquiet ▸ hentry)
  | idle => exact .inl hentry

/-- Every line in the history went well in an earlier turn. -/
theorem exists_turn_of_mem_history (h : Guarded start start)
    (hempty : start.scene.console.history.entries = []) {past : List Turn} {entry : String}
    (hentry : entry ∈ (start.turns past).scene.console.history.entries) :
    ∃ before t after, past = before ++ t :: after ∧ (start.turns before).hands? t = some entry ∧
      ((start.turns before).innermost.execute (start.turns before).scene entry).1 = .ok := by
  induction past using List.reverseRecOn with
  | nil =>
      rw [turns_nil, hempty] at hentry
      cases hentry
  | append_singleton past t ih =>
      rw [turns_append] at hentry
      obtain hold | hnew := mem_history_turn hx hrequired (h.turns hx hrequired past) hentry
      · obtain ⟨before, u, after, hpast, hhands⟩ := ih hold
        exact ⟨before, u, after ++ [t], by rw [hpast, List.append_assoc, List.cons_append], hhands⟩
      · exact ⟨past, t, [], rfl, hnew⟩

/-- No line of an inner terminal uses the link. -/
theorem link_turn_of_inner (h : Guarded start s) (hinner : s.inner ≠ [])
    (hhands : s.hands? t = some line) : (s.turn t).scene.link = s.scene.link := by
  obtain ⟨inner, rest, hinner⟩ := List.exists_cons_of_ne_nil hinner
  have hlocal : s.scene.IsLocal (s.innermost.execute s.scene line).2 := by
    rw [innermost, hinner]
    exact inner.isLocal_execute s.scene line
  have hnot : .logout ∉ (s.innermost.execute s.scene line).2.console.actions := by
    intro hmem
    obtain hmem | hmem := hlocal.actions _ hmem
    · rw [h.actions] at hmem
      cases hmem
    · cases hmem
  obtain ⟨output, hrun⟩ := s.exists_runLine_eq line
  have hopen := isOpen_sceneAfter hx h (phase_of_hands hhands) line output
  rw [turn_of_hands hhands, hrun]
  obtain ⟨-, -, hscene⟩ | ⟨before, rest, hsplit, -, -⟩ := act_cases hrequired hopen _
  · rw [hscene]
    exact hlocal.link
  · exact absurd (hsplit ▸ by simp) hnot

/-- A turn that applies a queue without a logout leaves the session open. -/
theorem isOpen_turn (h : Guarded start s) (happlies : s.Applies t q) (hq : .logout ∉ q) :
    IsOpen start (s.turn t) := by
  obtain ⟨s', hturn, -, hopen⟩ := exists_turn_eq_act hx h happlies
  obtain ⟨-, hstays, -⟩ | ⟨before, rest, hsplit, -, -⟩ := act_cases hrequired hopen q
  · rwa [hturn]
  · exact absurd (hsplit ▸ by simp) hq

/-- A turn that applies a logout ends the session, leaves all inner terminals and asks for a user
name; what is behind the logout in the queue is still to be done. -/
theorem loggedOut_turn (h : Guarded start s) (happlies : s.Applies t q) (hq : .logout ∈ q) :
    start.executor.sessionState (s.turn t).scene = some .unauthenticated ∧
      (s.turn t).inner = [] ∧
      ∃ before rest, q = before ++ .logout :: rest ∧ .logout ∉ before ∧
        (s.turn t).phase = .username (some rest) := by
  obtain ⟨s', hturn, -, hopen⟩ := exists_turn_eq_act hx h happlies
  obtain ⟨hnot, -⟩ | ⟨before, rest, hsplit, hbefore, hout⟩ := act_cases hrequired hopen q
  · exact absurd hq hnot
  · rw [hturn]
    exact ⟨hout.unauthenticated, hout.inner, before, rest, hsplit, hbefore, hout.phase⟩

/-- Behind a logout no line is taken before the peer has accepted a password. -/
theorem exists_logsIn_of_applies (h : Guarded start s) (happlies : s.Applies t q)
    (hq : .logout ∈ q) {more : List Turn} {next : Turn}
    (hhands : ((s.turn t).turns more).hands? next = some line) :
    ∃ a login b, more = a ++ login :: b ∧ ((s.turn t).turns a).LogsIn login := by
  obtain ⟨-, -, _, rest, -, -, hphase⟩ := loggedOut_turn hx hrequired h happlies hq
  refine exists_logsIn ?_ (phase_of_hands hhands)
  rw [hphase]
  exact Phase.noConfusion

end Orderly

/-- What the turns of a session behind a login do. The session was `start`, and is `s` after the
turns `past`. -/
structure BehindLogin (start : Session) (past : List Turn) (s : Session) : Prop where
  handed : ∀ t line, s.hands? t = some line → s.turn t = s.runLine line
  idle : ∀ i, s.hands? (.input i) = none → (s.turn (.input i)).scene = s.scene
  authenticated : ∀ t line, s.hands? t = some line →
    start.executor.sessionState s.scene = some .authenticated
  applied : ∀ t q, s.Applies t q →
    ∃ s', s.turn t = act q s' ∧ s'.inner = s.inner ∧ IsOpen start s'
  stays : ∀ t q, s.Applies t q → .logout ∉ q → IsOpen start (s.turn t)
  logout : ∀ t q, s.Applies t q → .logout ∈ q →
    start.executor.sessionState (s.turn t).scene = some .unauthenticated ∧
      (s.turn t).inner = [] ∧
      ∃ before rest, q = before ++ .logout :: rest ∧ .logout ∉ before ∧
        (s.turn t).phase = .username (some rest)
  reopened : ∀ t q more next line, s.Applies t q → .logout ∈ q →
    ((s.turn t).turns more).hands? next = some line →
      ∃ a login b, more = a ++ login :: b ∧ ((s.turn t).turns a).LogsIn login
  innermost : s.levels.head? = some s.innermost
  outermost : s.levels.getLast? = some start.executor
  leave : ∀ s' rest, s'.inner = [] → act (.leave :: rest) s' = act rest s'
  inner : ∀ t line, s.inner ≠ [] → s.hands? t = some line → (s.turn t).scene.link = s.scene.link
  history : ∀ entry ∈ s.scene.console.history.entries, ∃ before t after,
    past = before ++ t :: after ∧ (start.turns before).hands? t = some entry ∧
      ((start.turns before).innermost.execute (start.turns before).scene entry).1 = .ok

theorem start_of_login {options : Options} (hrequired : options.login = true)
    (x : Executor Terminal) (scene : Scene Terminal) :
    Session.start options x scene = askLogin { options, executor := x, scene } none := by
  simp only [Session.start, hrequired, if_true]

theorem guarded_askLogin (options : Options) (x : Executor Terminal) (limit : Nat)
    (link : Option Link) {start : Session}
    (h : start =
      askLogin { options, executor := x, scene := { console := .new limit, link } } none) :
    Guarded start start ∧ start.scene.console.history.entries = [] := by
  subst h
  refine ⟨⟨⟨rfl, rfl, ?_, ?_⟩, fun hphase => by cases hphase⟩, ?_⟩ <;> rw [console_askLogin] <;> rfl

/-- Behind a login, every turn of every run does what it should: no line is executed outside a
session. -/
theorem behindLogin_turns {x : Executor Terminal} (hx : x.Orderly) (options : Options)
    (hrequired : options.login = true) (limit : Nat) (link : Option Link) :
    let start := Session.start options x { console := .new limit, link }
    (∀ past, BehindLogin start past (start.turns past)) ∧
      ∀ passwords inputs,
        start.run passwords inputs = start.turns (start.script passwords inputs) := by
  intro start
  have hstart := start_of_login hrequired x { console := .new limit, link }
  have hx' : start.executor.Orderly := (congrArg Session.executor hstart).symm ▸ hx
  have hrequired' : start.options.login = true :=
    (congrArg (Options.login ∘ Session.options) hstart).trans hrequired
  obtain ⟨hguarded, hempty⟩ := guarded_askLogin options x limit link hstart
  refine ⟨fun past => ?_, start.run_eq_turns⟩
  have h : Guarded start (start.turns past) := hguarded.turns hx' hrequired' past
  exact
    { handed := fun t line => turn_of_hands
      idle := fun i => scene_turn_input
      authenticated := fun t line hhands => h.authenticated (phase_of_hands hhands)
      applied := fun t q => exists_turn_eq_act hx' h
      stays := fun t q => isOpen_turn hx' hrequired' h
      logout := fun t q => loggedOut_turn hx' hrequired' h
      reopened := fun t q more next line happlies hq hhands =>
        exists_logsIn_of_applies hx' hrequired' h happlies hq hhands
      innermost := head?_levels _
      outermost := by rw [getLast?_levels, h.executor]
      leave := fun s' rest hinner => act_leave hinner rest
      inner := fun t line => link_turn_of_inner hx' hrequired' h
      history := fun entry => exists_turn_of_mem_history hx' hrequired' hguarded hempty }

/-- A link to a peer that accepts every password. -/
def acceptingLink : Link :=
  .new (Scripted.peer [{ method := some loginMethod, answer := .result (.string "t") }])

/-- A session with the commands of a terminal: it takes `exit` under a credential, and goes back
to the user name. -/
theorem behindLogin_exit :
    let x : Executor Terminal := { registry := .table Terminal.commands }
    let options : Options := { prompt := ">", login := true }
    let start := Session.start options x { console := .new 3, link := some acceptingLink }
    let s := start.turns [.input (.line "user"), .password (some "word")]
    x.Orderly ∧ options.login = true ∧ s.hands? (.input (.line "exit")) = some "exit" ∧
      start.executor.sessionState s.scene = some .authenticated ∧
      start.executor.sessionState (s.turn (.input (.line "exit"))).scene =
        some .unauthenticated := by
  intro x options start s
  have hx : x.Orderly := Executor.orderly_of_table Terminal.orderly_commands true
  have hguarded := (behindLogin_turns hx options rfl 3 (some acceptingLink)).1
    [.input (.line "user"), .password (some "word")]
  have hhands : s.hands? (.input (.line "exit")) = some "exit" := by decide +kernel
  have hasked : .logout ∈ (s.innermost.execute s.scene "exit").2.console.actions := by
    decide +kernel
  exact ⟨hx, rfl, hhands, hguarded.authenticated _ _ hhands,
    (hguarded.logout _ _ (.asked hhands) hasked).1⟩

end Session

end RemoteConsole
