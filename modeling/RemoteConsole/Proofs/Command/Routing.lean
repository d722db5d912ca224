import RemoteConsole.Command.Route

/-!
# Routes of a line

What a line comes to is settled by its first token and, if the table has a command of
that name, by the option letters behind it. A line that ends there without running its
command shows a text that is not empty: `Table.isStop_of_route_eq_stop`.
-/

namespace RemoteConsole

namespace Reading

/-- How a line can end without its command: with a text that is not empty, and well if
that is the usage. -/
def IsStop (text : String) (status : Status) : Prop :=
  text ≠ "" ∧ (status = .ok ∨ status = .badArguments)

theorem isStop_of_ofLetter {usage : Option String} {letter : Char} {s : Scanner}
    {switches : Switches} {text : String} {status : Status}
    (h : ofLetter usage letter s switches = .error (text, status)) : IsStop text status := by
  unfold ofLetter at h
  split at h
  · cases h
    exact ⟨by simp, .inl rfl⟩
  · cases h
    exact ⟨by simp, .inr rfl⟩
  · cases h
    exact ⟨by simp, .inr rfl⟩
  · cases h

theorem isStop_of_ofSteps {usage : Option String} {args : List String}
    {steps : List Scanner.Step} {switches : Switches} {text : String} {status : Status}
    (h : ofSteps usage args steps switches = .stop text status) : IsStop text status := by
  induction steps generalizing switches with
  | nil => simp [ofSteps] at h
  | cons step rest ih =>
      rw [ofSteps] at h
      split at h
      · simp at h
      · split at h
        · exact ih h
        · rename_i hletter
          cases h
          exact isStop_of_ofLetter hletter

end Reading

variable {κ : Type}

theorem Command.isStop_of_read {c : Command κ} {args : List String} {text : String}
    {status : Status} (h : c.read args = .stop text status) : Reading.IsStop text status := by
  unfold Command.read at h
  split at h
  · simp at h
  · exact Reading.isStop_of_ofSteps h

namespace Table

variable {t : Table κ} {line name : String} {args : List String} {c : Command κ}

theorem route_of_get?_eq_none (htokens : tokens line = name :: args) (h : t.get? name = none) :
    t.route line = .unknown name := by
  simp [route, htokens, h]

theorem route_of_optionSpec_eq_none (htokens : tokens line = name :: args)
    (h : t.get? name = some c) (hspec : c.optionSpec = none) :
    t.route line = .run name c .empty args := by
  simp [route, htokens, h, Command.read, hspec]

/-- A handler that runs is that of the command registered under the first token. -/
theorem head?_and_get?_of_route_eq_run {switches : Switches}
    (h : t.route line = .run name c switches args) :
    (tokens line).head? = some name ∧ t.get? name = some c := by
  unfold route at h
  split at h
  · cases h
  · rename_i htokens
    split at h
    · cases h
    · rename_i hget
      split at h
      · cases h
        exact ⟨by rw [htokens, List.head?_cons], hget⟩
      · cases h

theorem isStop_of_route_eq_stop {text : String} {status : Status}
    (h : t.route line = .stop text status) : Reading.IsStop text status := by
  unfold route at h
  split at h
  · cases h
  · split at h
    · cases h
    · split at h
      · cases h
      · rename_i hread
        cases h
        exact Command.isStop_of_read hread

end Table

end RemoteConsole
