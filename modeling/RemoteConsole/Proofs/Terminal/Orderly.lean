import RemoteConsole.Proofs.Command.Containment
import RemoteConsole.Terminal.Session

/-!
# What lines leave alone

A line that is run at a terminal may print, ask for things, and use the peer. It is orderly if
it keeps the credential, the history and the note that a session ended: these are the
business of the session around it. A table whose handlers are orderly makes an orderly executor
(`Executor.orderly_of_table`), and the commands of the outermost terminal are such
(`Terminal.orderly_commands`). An inner terminal does not use the link at all and asks for
nothing but to be left (`InnerTerminal.isLocal_execute`).
-/

namespace RemoteConsole

/-- What a handler may do holds of a line if it holds of nothing done, is kept by showing a
text, and, if lines are forwarded, of a use of the link that keeps the credential. -/
theorem Executor.execute_of_handlers {κ : Type} [Console κ] {t : Table κ} {forwards : Bool}
    {s : Scene κ} {P : Scene κ → Prop} (hnothing : P s) (hecho : ∀ s' text, P s' → P (s'.echo text))
    (hhandler : ∀ name c args switches, t.get? name = some c → P (c.handler args switches s).2)
    (hlink : forwards = true → ∀ l l', s.link = some l → l'.token = l.token →
      P { s with link := some l' })
    (line : String) : P (execute { registry := .table t, forwards } s line).2 := by
  cases hroute : t.route line with
  | blank => simpa only [execute, dispatch, hroute] using hnothing
  | run name c switches args =>
      have hdone := hhandler name c args switches (t.head?_and_get?_of_route_eq_run hroute).2
      simp only [execute, dispatch, hroute]
      cases houtcome : c.handler args switches s with
      | mk outcome s' =>
          rw [houtcome] at hdone
          cases outcome with
          | done status => exact hdone
          | failed e => exact hecho _ _ hdone
          | crashed c => exact hecho _ _ hdone
  | stop text status => simpa only [execute, dispatch, hroute] using hecho _ _ hnothing
  | unknown name =>
      rw [execute_of_route_eq_unknown s rfl hroute]
      split
      · rename_i l hlink?
        obtain ⟨hforwards, hl⟩ : forwards = true ∧ s.link = some l := by simpa [link?] using hlink?
        cases hremote : l.awaitDiscovery.isRemote name with
        | true =>
            rw [forward_of_isRemote_awaitDiscovery hremote]
            refine hecho _ _ (hlink hforwards l _ hl ?_)
            rw [Link.token_call, l.token_awaitDiscovery]
        | false =>
            rw [forward_of_not_isRemote hremote]
            exact hecho _ _ (hlink hforwards l _ hl l.token_awaitDiscovery)
      · exact hecho _ _ hnothing

/-- The credential, the history and the note of an ended session are left alone. -/
structure Scene.Keeps (s s' : Scene Terminal) : Prop where
  token : s'.link.map Link.token = s.link.map Link.token
  history : s'.console.history = s.console.history
  sessionEnded : s'.console.sessionEnded = s.console.sessionEnded

/-- A terminal apart from what is shown at it. -/
def Terminal.quiet (t : Terminal) : Terminal := { t with shown := [] }

namespace Scene

variable {s s' : Scene Terminal}

theorem Keeps.refl (s : Scene Terminal) : s.Keeps s := ⟨rfl, rfl, rfl⟩

theorem quiet_echo (s : Scene Terminal) (text : String) :
    (s.echo text).console.quiet = s.console.quiet := by
  simp only [echo, Console.echo]
  split <;> rfl

theorem Keeps.echo (h : s.Keeps s') (text : String) : s.Keeps (s'.echo text) where
  token := h.token
  history := (congrArg Terminal.history (quiet_echo s' text)).trans h.history
  sessionEnded := (congrArg Terminal.sessionEnded (quiet_echo s' text)).trans h.sessionEnded

theorem Keeps.echoAll (h : s.Keeps s') (texts : List String) : s.Keeps (s'.echoAll texts) := by
  induction texts generalizing s' with
  | nil => exact h
  | cons text texts ih => exact ih (h.echo text)

theorem Keeps.ask (h : s.Keeps s') (a : Action) :
    s.Keeps { s' with console := s'.console.ask a } :=
  ⟨h.token, h.history, h.sessionEnded⟩

theorem keeps_link {l l' : Link} (hlink : s.link = some l) (htoken : l'.token = l.token) :
    s.Keeps { s with link := some l' } :=
  ⟨by rw [hlink, Option.map_some, Option.map_some, htoken], rfl, rfl⟩

end Scene

/-- Every line leaves the session to itself. -/
def Executor.Orderly (x : Executor Terminal) : Prop :=
  ∀ (s : Scene Terminal) line, s.Keeps (x.execute s line).2

/-- Every handler leaves the session to itself. -/
def Table.Orderly (t : Table Terminal) : Prop :=
  ∀ name c, t.get? name = some c →
    ∀ args switches (s : Scene Terminal), s.Keeps (c.handler args switches s).2

theorem Executor.orderly_of_table {t : Table Terminal} (h : t.Orderly) (forwards : Bool) :
    Orderly { registry := .table t, forwards } := by
  intro s line
  apply execute_of_handlers
  · exact .refl s
  · exact fun s' text hs' => hs'.echo text
  · exact fun name c args switches hc => h name c hc args switches s
  · exact fun _ l l' hl htoken => Scene.keeps_link hl htoken

namespace Table

theorem orderly_empty : Orderly .empty := by
  intro name c h
  cases h

theorem Orderly.register {t : Table Terminal} (ht : t.Orderly) (name : String)
    {c : Command Terminal}
    (hc : ∀ args switches (s : Scene Terminal), s.Keeps (c.handler args switches s).2) :
    (t.register name c).Orderly := by
  intro other c' h
  rw [get?_register] at h
  split at h
  · cases h
    exact hc
  · exact ht other c' h

end Table

namespace Terminal

theorem keeps_remoteHelp (name : String) {l : Link} {s : Scene Terminal}
    (hlink : s.link = some l) : s.Keeps (remoteHelp name l s).2 := by
  have hkeeps := Scene.keeps_link hlink (l.token_call (helpMethod ++ " " ++ name))
  simp only [remoteHelp]
  split
  · exact hkeeps.echo _
  · exact hkeeps
  · exact hkeeps

theorem keeps_help (args : List String) (s : Scene Terminal) : s.Keeps (help args s).2 := by
  unfold help
  split
  · exact (Scene.Keeps.refl s).echo _
  · split
    · exact (Scene.Keeps.refl s).echo _
    · exact (Scene.Keeps.refl s).echo _
    · split
      · exact keeps_remoteHelp _ (by assumption)
      · exact (Scene.Keeps.refl s).echo _

theorem orderly_commands : commands.Orderly := by
  have hasking : ∀ a usage args switches (s : Scene Terminal),
      s.Keeps ((asking a usage).handler args switches s).2 :=
    fun a _ _ _ s => (Scene.Keeps.refl s).ask a
  refine Table.Orderly.register ?_ _ fun args _ s => keeps_help args s
  refine Table.Orderly.register ?_ _ fun _ _ s => (Scene.Keeps.refl s).echoAll _
  refine Table.Orderly.register ?_ _ fun _ _ s => ((Scene.Keeps.refl s).echo _).ask _
  refine Table.Orderly.register ?_ _ (hasking _ _)
  exact Table.orderly_empty.register _ (hasking _ _)

end Terminal

/-- The link is left alone, and nothing is asked for but to leave. -/
structure Scene.IsLocal (s s' : Scene Terminal) : Prop where
  link : s'.link = s.link
  actions : ∀ a ∈ s'.console.actions, a ∈ s.console.actions ∨ a = .leave

theorem Scene.IsLocal.refl (s : Scene Terminal) : s.IsLocal s := ⟨rfl, fun _ h => .inl h⟩

theorem Scene.IsLocal.echo {s s' : Scene Terminal} (h : s.IsLocal s') (text : String) :
    s.IsLocal (s'.echo text) where
  link := h.link
  actions := by
    intro a ha
    have hactions := congrArg Terminal.actions (quiet_echo s' text)
    exact h.actions a (hactions ▸ ha)

namespace InnerTerminal

theorem isLocal_handler {t : InnerTerminal} {name : String} {c : Command Terminal}
    (h : t.commands.get? name = some c) (args : List String) (switches : Switches)
    (s : Scene Terminal) : s.IsLocal (c.handler args switches s).2 := by
  cases t with
  | ai =>
      simp only [commands, Table.get?_register] at h
      split at h
      · cases h
        refine ⟨rfl, ?_⟩
        intro a ha
        exact (List.mem_append.1 ha).imp_right List.mem_singleton.1
      · split at h
        · cases h
          exact (Scene.IsLocal.refl s).echo _
        · cases h

/-- No line of an inner terminal uses the link. -/
theorem isLocal_execute (t : InnerTerminal) (s : Scene Terminal) (line : String) :
    s.IsLocal ((Executor.localOnly t.commands).execute s line).2 := by
  apply Executor.execute_of_handlers
  · exact .refl s
  · exact fun s' text hs' => hs'.echo text
  · exact fun name c args switches hc => isLocal_handler hc args switches s
  · intro hforwards
    cases hforwards

/-- Every line of an inner terminal leaves the session to itself. -/
theorem orderly_localOnly (t : InnerTerminal) : (Executor.localOnly t.commands).Orderly := by
  cases t with
  | ai =>
      refine Executor.orderly_of_table ?_ false
      refine Table.Orderly.register ?_ _ fun _ _ s => (Scene.Keeps.refl s).ask _
      exact Table.orderly_empty.register _ fun _ _ s => (Scene.Keeps.refl s).echo _

end InnerTerminal

end RemoteConsole
