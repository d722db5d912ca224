import Mathlib.Data.List.DropRight
import RemoteConsole.Proofs.Terminal.Orderly

/-!
# Turns of a session

A session takes its turn with every input and with every password it asks for. Between two turns
it is a plain state, so what a run does is said about single turns: which line a turn hands to
the innermost executor (`Session.hands?`), whether the peer accepts a password in it
(`Session.LogsIn`), and which queue of actions it applies (`Session.Applies`). Every run is a
list of turns (`Session.run_eq_turns`), and a session that takes names or passwords takes a line
only after a turn in which the peer accepts a password (`Session.exists_logsIn`).
-/

namespace RemoteConsole

namespace Text

/-- What is left at the front of a text is not blank, also when blanks are removed at its end. -/
theorem dropWhile_trim (s : List Char) : (trim s).dropWhile isBlank = trim s := by
  have hhead := List.head?_dropWhile_not isBlank s
  obtain ⟨t, ht⟩ : trim s <+: s.dropWhile isBlank := List.rdropWhile_prefix isBlank _
  cases htrim : trim s with
  | nil => rfl
  | cons c r =>
      rw [← ht, htrim] at hhead
      exact List.dropWhile_cons_of_neg (by simpa using hhead)

theorem trim_trim (s : List Char) : trim (trim s) = trim s := by
  rw [trim, dropWhile_trim]
  exact List.rdropWhile_idempotent isBlank (s.dropWhile isBlank)

end Text

theorem trimBlank_trimBlank (line : String) : trimBlank (trimBlank line) = trimBlank line := by
  rw [trimBlank, trimBlank, String.toList_ofList, Text.trim_trim]

namespace Session

/-- What a session takes in at once. -/
inductive Turn where
  | input (i : Input)
  | password (text : Option String)
  deriving Repr, DecidableEq

def turn (s : Session) : Turn → Session
  | .input i => s.feed i
  | .password text => s.feedPassword text

/-- The session after some turns. -/
def turns (s : Session) (past : List Turn) : Session := past.foldl turn s

@[simp] theorem turns_nil (s : Session) : s.turns [] = s := rfl

@[simp] theorem turns_append (s : Session) (past more : List Turn) :
    s.turns (past ++ more) = (s.turns past).turns more := List.foldl_append

/-- The turns that taking in a line comes to. -/
def turnsOf (s : Session) (passwords : List String) (i : Input) : List Turn :=
  match (s.feed i).phase with
  | .password _ _ => [.input i, .password passwords.head?]
  | _ => [.input i]

/-- The turns of a run. -/
def script (s : Session) (passwords : List String) : List Input → List Turn
  | [] => s.turnsOf passwords .closed
  | i :: rest =>
    s.turnsOf passwords i ++ (s.feedBoth passwords i).1.script (s.feedBoth passwords i).2 rest

theorem fst_feedBoth (s : Session) (passwords : List String) (i : Input) :
    (s.feedBoth passwords i).1 = s.turns (s.turnsOf passwords i) := by
  unfold feedBoth turnsOf
  cases hphase : (s.feed i).phase <;> simp only [hphase] <;> rfl

theorem run_eq_turns (s : Session) (passwords : List String) (inputs : List Input) :
    s.run passwords inputs = s.turns (s.script passwords inputs) := by
  induction inputs generalizing s passwords with
  | nil => exact s.fst_feedBoth passwords .closed
  | cons i rest ih =>
      rw [script, turns_append, ← fst_feedBoth]
      exact ih _ _

/-- The line that a turn hands to the innermost executor, if it hands one. -/
def hands? (s : Session) : Turn → Option String
  | .input (.line text) =>
    if s.phase = .command ∧ trimBlank text ≠ "" then some (trimBlank text) else none
  | _ => none

/-- A turn in which the peer accepts a password. -/
def LogsIn (s : Session) (t : Turn) : Prop :=
  ∃ pending user password scene, s.phase = .password pending user ∧
    t = .password (some password) ∧ s.executor.login s.scene user password = (.ok .ok, scene)

/-- The queue of actions that a turn applies: what the line asked for, or what was left to do
before the session had to be opened again. -/
inductive Applies (s : Session) : Turn → List Action → Prop
  | asked {t : Turn} {line : String} (h : s.hands? t = some line) :
    Applies s t (s.innermost.execute s.scene line).2.console.actions
  | left {pending : Option (List Action)} {user password : String} {scene : Scene Terminal}
    (hphase : s.phase = .password pending user)
    (hlogin : s.executor.login s.scene user password = (.ok .ok, scene)) :
    Applies s (.password (some password)) (pending.getD [])

/-- What one turn can do. -/
inductive Step (s : Session) : Turn → Session → Prop
  | handed {t : Turn} {line : String} (hhands : s.hands? t = some line) : Step s t (s.runLine line)
  | opened {pending : Option (List Action)} {user password : String} {scene : Scene Terminal}
    (hphase : s.phase = .password pending user)
    (hlogin : s.executor.login s.scene user password = (.ok .ok, scene)) :
    Step s (.password (some password)) ((s.adopt scene).resume pending)
  | refused {pending : Option (List Action)} {user password : String}
    {answer : Except Crash Status} {scene : Scene Terminal} {phase : Phase} {output : List Output}
    (hphase : s.phase = .password pending user)
    (hlogin : s.executor.login s.scene user password = (answer, scene))
    (hnext : phase ≠ .command) :
    Step s (.password (some password)) { s.adopt scene with phase, output }
  | idle {t : Turn} {phase : Phase} {output : List Output} (hhands : s.hands? t = none)
    (hnext : phase = .command → s.phase = .command) : Step s t { s with phase, output }

section Turns

variable {s : Session} {t : Turn} {line : String}

theorem hands?_eq_some_iff :
    s.hands? t = some line ↔ ∃ text, t = .input (.line text) ∧ s.phase = .command ∧
      trimBlank text ≠ "" ∧ trimBlank text = line := by
  unfold hands?
  split
  · simp [and_assoc]
  · rename_i hno
    simp only [reduceCtorEq, false_iff, not_exists, not_and]
    exact fun text h => absurd h (hno text)

theorem phase_of_hands (h : s.hands? t = some line) : s.phase = .command := by
  obtain ⟨_, -, hphase, -⟩ := hands?_eq_some_iff.1 h
  exact hphase

theorem trimBlank_of_hands (h : s.hands? t = some line) : trimBlank line = line := by
  obtain ⟨text, -, -, -, rfl⟩ := hands?_eq_some_iff.1 h
  exact trimBlank_trimBlank text

theorem turn_of_hands (h : s.hands? t = some line) : s.turn t = s.runLine line := by
  obtain ⟨text, rfl, hphase, hne, rfl⟩ := hands?_eq_some_iff.1 h
  simp only [turn, feed, hphase, if_neg hne]

theorem step_input (s : Session) (i : Input) : s.Step (.input i) (s.feed i) := by
  cases hhands : s.hands? (.input i) with
  | some line =>
      rw [show s.feed i = s.runLine line from turn_of_hands hhands]
      exact .handed hhands
  | none =>
      have hidle (phase : Phase) (output : List Output) (h : phase ≠ .command) :
          s.Step (.input i) { s with phase, output } := .idle hhands (absurd · h)
      have hsame : s.Step (.input i) s := .idle hhands id
      cases hphase : s.phase with
      | username pending =>
          cases i with
          | line text =>
              simp only [feed, hphase]
              split
              · exact hsame
              · exact hidle _ _ (by simp)
          | _ => cases pending <;> simp only [feed, hphase] <;> exact hidle _ _ (by simp)
      | password pending user => simpa only [feed, hphase] using hsame
      | command =>
          cases i with
          | line text =>
              have hblank : trimBlank text = "" := by simpa [hands?, hphase] using hhands
              simpa only [feed, hphase, if_pos hblank] using hsame
          | interrupted =>
              simp only [feed, hphase]
              exact .idle hhands id
          | _ =>
              simp only [feed, hphase]
              exact hidle _ _ (by simp)
      | ended e => simpa only [feed, hphase] using hsame

theorem step_password (s : Session) (text : Option String) :
    s.Step (.password text) (s.feedPassword text) := by
  cases hphase : s.phase with
  | password pending user =>
      cases text with
      | none =>
          simp only [feedPassword, hphase]
          exact .idle rfl fun h => by cases h
      | some password =>
          cases hlogin : s.executor.login s.scene user password with
          | mk answer scene =>
              simp only [feedPassword, hphase, hlogin]
              cases answer with
              | error c => exact .refused hphase hlogin (by simp)
              | ok status =>
                  cases status with
                  | ok => exact .opened hphase hlogin
                  | _ => exact .refused hphase hlogin (by simp)
  | _ =>
      simp only [feedPassword, hphase]
      exact .idle rfl id

theorem step_turn (s : Session) : ∀ t, s.Step t (s.turn t)
  | .input i => s.step_input i
  | .password text => s.step_password text

/-- An input that is not handed on does nothing to the scene. -/
theorem scene_turn_input {i : Input} (h : s.hands? (.input i) = none) :
    (s.turn (.input i)).scene = s.scene := by
  generalize hafter : s.turn (.input i) = s'
  cases hafter ▸ s.step_turn (.input i) with
  | handed hhands => rw [h] at hhands; cases hhands
  | idle => rfl

/-- Only an accepted password takes a session from names and passwords to lines. -/
theorem logsIn_of_phase (hbefore : s.phase ≠ .command) (hafter : (s.turn t).phase = .command) :
    s.LogsIn t := by
  generalize hturn : s.turn t = s' at hafter
  cases hturn ▸ s.step_turn t with
  | handed hhands => exact absurd (phase_of_hands hhands) hbefore
  | opened hphase hlogin => exact ⟨_, _, _, _, hphase, rfl, hlogin⟩
  | refused _ _ hphase => exact absurd hafter hphase
  | idle _ hphase => exact absurd (hphase hafter) hbefore

/-- A session that takes no lines takes one again only after an accepted password. -/
theorem exists_logsIn {more : List Turn} (hbefore : s.phase ≠ .command)
    (hafter : (s.turns more).phase = .command) :
    ∃ a login b, more = a ++ login :: b ∧ (s.turns a).LogsIn login := by
  induction more generalizing s with
  | nil => exact absurd hafter hbefore
  | cons t rest ih =>
      by_cases hphase : (s.turn t).phase = .command
      · exact ⟨[], t, rest, rfl, logsIn_of_phase hbefore hphase⟩
      · obtain ⟨a, login, b, hrest, hlogin⟩ := ih hphase hafter
        exact ⟨t :: a, login, b, by rw [hrest, List.cons_append], hlogin⟩

end Turns

end Session

end RemoteConsole
