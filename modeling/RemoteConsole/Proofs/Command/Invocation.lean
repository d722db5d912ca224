import RemoteConsole.Command.Executor
import RemoteConsole.Proofs.Command.Routing

/-!
# Which handlers run

A traced console keeps, beside what is shown on it, a record of the handlers that
have run. `Table.traced` makes every handler of a table add itself to the record,
under the name it is registered with, before it does what it does anyway. The main
statement is `execute_traced`: a line run with a traced table has the status and the
effects it has without the record, and the record grows by at most one entry, the one
that the line's route names.
-/

namespace RemoteConsole

/-- One run of a handler: the name it is registered under and what it was given. -/
structure Invocation where
  name : String
  args : List String
  switches : Switches
  deriving Repr, DecidableEq

/-- A console and the handlers that have run, oldest first. -/
structure Traced (κ : Type) where
  console : κ
  invocations : List Invocation := []

instance {κ : Type} [Console κ] : Console (Traced κ) where
  echo text t := { t with console := Console.echo text t.console }
  sessionEnded t := { t with console := Console.sessionEnded t.console }

namespace Scene

variable {κ : Type}

/-- The scene with a record of the handlers that have run. -/
def traced (s : Scene κ) (past : List Invocation) : Scene (Traced κ) :=
  { console := ⟨s.console, past⟩, link := s.link }

/-- The scene without its record. -/
def untraced (s : Scene (Traced κ)) : Scene κ :=
  { console := s.console.console, link := s.link }

@[simp] theorem untraced_traced (s : Scene κ) (past : List Invocation) :
    (s.traced past).untraced = s := rfl

@[simp] theorem invocations_traced (s : Scene κ) (past : List Invocation) :
    (s.traced past).console.invocations = past := rfl

@[simp] theorem link_traced (s : Scene κ) (past : List Invocation) :
    (s.traced past).link = s.link := rfl

theorem traced_withLink (s : Scene κ) (past : List Invocation) (l : Option Link) :
    { s.traced past with link := l } = ({ s with link := l } : Scene κ).traced past := rfl

theorem echo_traced [Console κ] (s : Scene κ) (past : List Invocation) (text : String) :
    (s.traced past).echo text = (s.echo text).traced past := rfl

end Scene

/-- A command whose handler puts itself on record under a name. -/
def Command.traced {κ : Type} (name : String) (c : Command κ) : Command (Traced κ) where
  handler args switches s :=
    let (outcome, after) := c.handler args switches s.untraced
    (outcome, after.traced (s.console.invocations ++ [⟨name, args, switches⟩]))
  options := c.options
  usage := c.usage

theorem Command.read_traced {κ : Type} (name : String) (c : Command κ) (args : List String) :
    (c.traced name).read args = c.read args := rfl

/-- A table whose handlers put themselves on record under their names. -/
def Table.traced {κ : Type} (t : Table κ) : Table (Traced κ) :=
  ⟨t.commands.map fun (name, c) => (name, c.traced name)⟩

theorem Table.get?_traced {κ : Type} (t : Table κ) (name : String) :
    t.traced.get? name = (t.get? name).map (Command.traced name) := by
  obtain ⟨commands⟩ := t
  simp only [Table.get?, Table.traced]
  induction commands with
  | nil => rfl
  | cons p r ih =>
      obtain ⟨k, c⟩ := p
      simp only [List.map_cons, Entries.get?]
      split
      · rename_i h
        rw [h, Option.map_some]
      · exact ih

namespace Route

variable {κ : Type}

/-- The runs of handlers that a route comes to: one or none. -/
def invocations : Route κ → List Invocation
  | run name _ switches args => [⟨name, args, switches⟩]
  | _ => []

/-- The same route under a table whose handlers put themselves on record. -/
def traced : Route κ → Route (Traced κ)
  | blank => blank
  | run name c switches args => run name (c.traced name) switches args
  | stop text status => stop text status
  | unknown name => unknown name

end Route

theorem Table.route_traced {κ : Type} (t : Table κ) (line : String) :
    t.traced.route line = (t.route line).traced := by
  simp only [Table.route]
  cases tokens line with
  | nil => rfl
  | cons name args =>
      simp only [Table.get?_traced]
      cases t.get? name with
      | none => rfl
      | some c =>
          simp only [Option.map_some, Command.read_traced]
          cases c.read args <;> rfl

/-- A handler that runs is the one registered under the first token of the line. -/
theorem Table.head?_tokens_of_mem_invocations {κ : Type} {t : Table κ} {line : String}
    {i : Invocation} (h : i ∈ (t.route line).invocations) :
    (tokens line).head? = some i.name ∧ t.contains i.name = true := by
  cases hroute : t.route line with
  | run name c switches args =>
      rw [hroute, Route.invocations, List.mem_singleton] at h
      obtain ⟨hhead, hget⟩ := t.head?_and_get?_of_route_eq_run hroute
      subst h
      exact ⟨hhead, by simp [Table.contains, hget]⟩
  | blank => simp [hroute, Route.invocations] at h
  | stop text status => simp [hroute, Route.invocations] at h
  | unknown name => simp [hroute, Route.invocations] at h

namespace Executor

variable {κ : Type} [Console κ]

theorem settle_traced (label : String) (outcome : HandlerOutcome) (s : Scene κ)
    (past : List Invocation) :
    settle label (outcome, s.traced past)
      = ((settle label (outcome, s)).1, (settle label (outcome, s)).2.traced past) := by
  cases outcome <;> rfl

theorem forward_traced (name line : String) (l : Link) (s : Scene κ)
    (past : List Invocation) :
    forward name line l (s.traced past)
      = ((forward name line l s).1, (forward name line l s).2.traced past) := by
  simp only [forward]
  split
  · simp only [Scene.traced_withLink]
    cases (l.awaitDiscovery.call line).1 <;> rfl
  · rfl

theorem dispatch_traced (t : Table κ) (forwards : Bool) (s : Scene κ)
    (past : List Invocation) (line : String) :
    dispatch t.traced forwards (s.traced past) line
      = ((dispatch t forwards s line).1,
          (dispatch t forwards s line).2.traced (past ++ (t.route line).invocations)) := by
  simp only [dispatch, Table.route_traced]
  cases t.route line with
  | blank => simp [Route.traced, Route.invocations]
  | run name c switches args =>
      simp only [Route.traced, Route.invocations, Command.traced, Scene.untraced_traced,
        Scene.invocations_traced]
      rw [settle_traced]
  | stop text status => simp [Route.traced, Route.invocations, Scene.echo_traced]
  | unknown name =>
      simp only [Route.traced, Route.invocations, List.append_nil, Scene.link_traced]
      cases h : (if forwards = true then s.link else none) with
      | none => rfl
      | some l => exact forward_traced name line l s past

/-- A line run with a traced table ends as it does without the record, and the
record grows by what the line's route comes to. -/
theorem execute_traced (t : Table κ) (forwards : Bool) (s : Scene κ)
    (past : List Invocation) (line : String) :
    execute { registry := .table t.traced, forwards } (s.traced past) line
      = ((execute { registry := .table t, forwards } s line).1,
          (execute { registry := .table t, forwards } s line).2.traced
            (past ++ (t.route line).invocations)) :=
  dispatch_traced t forwards s past line

end Executor

end RemoteConsole
