import RemoteConsole.Command.Route
import RemoteConsole.Proofs.Command.OptionLetters

/-!
# What the options of a command come to

A command that takes options reads those at the head of its arguments up to the first
decisive one: a fault, or a request for help. If none is decisive it runs with all of them as
its switches (`Command.read_eq`). It ends with bad arguments exactly if the first decisive
option is a fault (`Command.read_eq_stop_badArguments_iff`).
-/

namespace RemoteConsole

/-- What a decisive option ends a line with. -/
def GivenOption.verdict? (usage : Option String) (o : GivenOption) : Option (String × Status) :=
  match usage, o.sign with
  | some usage, 'h' => some ("Usage: " ++ usage, .ok)
  | _, ':' => some (o.letter.toString ++ ": option needs a value", .badArguments)
  | _, '?' => some (o.letter.toString ++ ": no such option", .badArguments)
  | _, _ => none

/-- The switches that options make, one after the other. -/
def Switches.ofGiven (given : List GivenOption) (s : Switches) : Switches :=
  given.foldl (fun s o => s.insert o.sign o.value) s

namespace Reading

variable {usage : Option String} {args : List String} {p : Scanner.Step} {o : GivenOption}

theorem letter_of_option? (h : p.option? = some o) :
    p.letter = some o.sign ∧ p.scanner.argument = o.value ∧
      p.scanner.lastLetter = some o.letter := by
  unfold Scanner.Step.option? at h
  split at h
  · rename_i hletter hlast
    cases h
    exact ⟨hletter, rfl, hlast⟩
  · cases h

theorem ofLetter_eq (h : p.option? = some o) (s : Switches) :
    ofLetter usage o.sign p.scanner s =
      match o.verdict? usage with
      | some verdict => .error verdict
      | none => .ok (s.insert o.sign o.value) := by
  obtain ⟨_, hvalue, hlast⟩ := letter_of_option? h
  simp only [ofLetter, GivenOption.verdict?, hlast, Option.getD_some, hvalue]
  split <;> simp_all

/-- The steps of a scan are gone through up to the first decisive option. -/
theorem ofSteps_eq {last : Scanner.Step} {steps : List Scanner.Step} {given : List GivenOption}
    (hlast : last.letter = none) (s : Switches)
    (hgiven : steps.map Scanner.Step.option? = given.map some) :
    ofSteps usage args (steps ++ [last]) s =
      match given.findSome? (·.verdict? usage) with
      | some (text, status) => stop text status
      | none => run (.ofGiven given s) (last.scanner.remaining args) := by
  induction steps generalizing given s with
  | nil =>
      cases given with
      | nil =>
          rw [List.nil_append, ofSteps, hlast]
          rfl
      | cons o given => simp at hgiven
  | cons p steps ih =>
      cases given with
      | nil => simp at hgiven
      | cons o given =>
          rw [List.map_cons, List.map_cons, List.cons.injEq] at hgiven
          obtain ⟨hletter, _⟩ := letter_of_option? hgiven.1
          rw [List.cons_append, ofSteps, hletter]
          simp only
          rw [ofLetter_eq hgiven.1, List.findSome?_cons]
          cases hverdict : o.verdict? usage with
          | some verdict => rfl
          | none => exact ih (s.insert o.sign o.value) hgiven.2

end Reading

/-- A command with options ends with the first verdict among them, or runs with all of them
as its switches. -/
theorem Command.read_eq {κ : Type} {c : Command κ} {spec : String}
    (hspec : c.optionSpec = some spec) (args : List String) :
    c.read args =
      match (readOptions spec.toList args).given.findSome? (·.verdict? c.usage) with
      | some (text, status) => .stop text status
      | none =>
        .run (.ofGiven (readOptions spec.toList args).given .empty)
          (readOptions spec.toList args).rest := by
  obtain ⟨steps, last, hall, hlast, hgiven, hrest⟩ := Scanner.readAll_new true args spec
  simp only [read, hspec, hall, Reading.ofSteps_eq hlast _ hgiven, hrest]

/-- The first option that is decisive for a command with a usage text is a fault, which is
worded as `text`. -/
def FaultFirst (given : List GivenOption) (text : String) : Prop :=
  ∃ before o after, given = before ++ o :: after ∧
    (∀ p ∈ before, p.sign ≠ 'h' ∧ p.sign ≠ '?' ∧ p.sign ≠ ':') ∧
    (o.sign = '?' ∧ text = o.letter.toString ++ ": no such option" ∨
      o.sign = ':' ∧ text = o.letter.toString ++ ": option needs a value")

namespace GivenOption

variable {usage : String} {o : GivenOption}

theorem verdict?_eq_none_iff :
    o.verdict? (some usage) = none ↔ o.sign ≠ 'h' ∧ o.sign ≠ '?' ∧ o.sign ≠ ':' := by
  unfold verdict?
  split <;> simp_all

theorem verdict?_eq_some_badArguments_iff {text : String} :
    o.verdict? (some usage) = some (text, .badArguments) ↔
      o.sign = '?' ∧ text = o.letter.toString ++ ": no such option" ∨
        o.sign = ':' ∧ text = o.letter.toString ++ ": option needs a value" := by
  unfold verdict?
  split <;> simp_all [eq_comm]

theorem findSome?_verdict?_eq_some_badArguments_iff (usage : String) {given : List GivenOption}
    {text : String} :
    given.findSome? (·.verdict? (some usage)) = some (text, .badArguments) ↔
      FaultFirst given text := by
  simp only [List.findSome?_eq_some_iff, verdict?_eq_some_badArguments_iff,
    verdict?_eq_none_iff, FaultFirst]
  constructor
  · rintro ⟨before, o, after, hgiven, hfault, hbefore⟩
    exact ⟨before, o, after, hgiven, hbefore, hfault⟩
  · rintro ⟨before, o, after, hgiven, hbefore, hfault⟩
    exact ⟨before, o, after, hgiven, hfault, hbefore⟩

end GivenOption

/-- A command with a usage text ends with bad arguments exactly if its first decisive option
is a fault. -/
theorem Command.read_eq_stop_badArguments_iff {κ : Type} {c : Command κ} {spec usage : String}
    (hspec : c.optionSpec = some spec) (husage : c.usage = some usage) {args : List String}
    {text : String} :
    c.read args = .stop text .badArguments ↔
      FaultFirst (readOptions spec.toList args).given text := by
  rw [c.read_eq hspec, husage, ← GivenOption.findSome?_verdict?_eq_some_badArguments_iff usage]
  cases (readOptions spec.toList args).given.findSome? (·.verdict? (some usage)) with
  | none => simp
  | some verdict => simp [Prod.ext_iff]

end RemoteConsole
