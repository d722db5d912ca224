import RemoteConsole.Proofs.Command.Decisive
import RemoteConsole.Proofs.Command.Forwarded
import RemoteConsole.Proofs.Line.Joined
import RemoteConsole.Terminal.Commands

/-!
# What `help` tells and what can be run

`help` goes by the usage texts that were noted down when the table was made, and by the commands
that the peer is known to offer; a line goes by the table and by the link. Both come to the same
names. A line that is just a name is not found exactly if neither the table nor the peer has it
(`Executor.fst_execute_eq_notFound_iff`), whatever table it is, as long as its handlers leave
the status alone. The main statement is `Terminal.mem_helpNames_iff_execute`, which also says when
`help` asks the peer.
-/

namespace RemoteConsole

section Tables

variable {κ : Type}

/-- What holds of the commands of a table and of one more holds of the table with that one. -/
theorem Table.forall_register {t : Table κ} {P : Command κ → Prop}
    (ht : ∀ name c, t.get? name = some c → P c) (name : String) {c : Command κ} (hc : P c) :
    ∀ other d, (t.register name c).get? other = some d → P d := by
  intro other d hget
  rw [get?_register] at hget
  split at hget
  · cases hget
    exact hc
  · exact ht other d hget

theorem Table.mem_keys_usages_iff (t : Table κ) {name : String} :
    name ∈ t.usages.keys ↔ (t.get? name).isSome = true := by
  have hkeys : t.usages.keys = t.commands.keys := by
    simp [usages, Entries.keys, Function.comp_def]
  rw [hkeys, get?, Entries.get?_isSome_iff]

namespace Command

variable {c : Command κ}

theorem read_nil (c : Command κ) : c.read [] = .run .empty [] := by
  cases hspec : c.optionSpec with
  | none => simp only [read, hspec]
  | some spec =>
      rw [c.read_eq hspec, readOptions_nil]
      rfl

/-- Arguments that do not start with an option are taken as they are. -/
theorem read_of_operand {arg : String} (harg : ∀ rest, arg.toList ≠ '-' :: rest)
    (args : List String) : c.read (arg :: args) = .run .empty (arg :: args) := by
  cases hspec : c.optionSpec with
  | none => simp only [read, hspec]
  | some spec =>
      rw [c.read_eq hspec, readOptions_cons_of_operand harg]
      rfl

/-- A command whose handler never says with which status a line ends. -/
def LeavesStatus (c : Command κ) : Prop :=
  ∀ args switches s status, (c.handler args switches s).1 = .done status → status = none

theorem fst_settle_ne_notFound [Console κ] (label : String) {p : HandlerOutcome × Scene κ}
    (h : ∀ status, p.1 = .done status → status = none) :
    (Executor.settle label p).1 ≠ .notFound := by
  obtain ⟨outcome, s⟩ := p
  cases outcome with
  | done status => simp [Executor.settle, h status rfl]
  | failed e => simp [Executor.settle]
  | crashed crash => simp [Executor.settle]

theorem fst_run_ne_notFound [Console κ] (h : c.LeavesStatus) (name : String) (args : List String)
    (s : Scene κ) : (c.run name args s).1 ≠ .notFound := by
  rw [run]
  cases hread : c.read args with
  | stop text status => rcases (isStop_of_read hread).2 with rfl | rfl <;> simp
  | run switches rest => exact fst_settle_ne_notFound _ (h rest switches s)

end Command

namespace Executor

variable [Console κ] {s : Scene κ}

theorem fst_forward_eq_notFound_iff {name line : String} {l : Link} :
    (forward name line l s).1 = .notFound ↔ name ∉ l.awaitDiscovery.procedures := by
  cases hremote : l.awaitDiscovery.isRemote name with
  | false =>
      rw [forward_of_not_isRemote hremote]
      simpa [Link.isRemote] using hremote
  | true =>
      rw [forward_of_isRemote_awaitDiscovery hremote]
      have hoffered : name ∈ l.awaitDiscovery.procedures := List.contains_iff_mem.1 hremote
      cases (l.awaitDiscovery.call line).1 <;> simp [Attempt.verdict, hoffered]

/-- Once no description is owed any more, a line is not found exactly if its first token is the
name of no command of the table and of none that the peer is known to offer. -/
theorem fst_execute_eq_notFound_iff {x : Executor κ} {t : Table κ} {line name : String}
    {args : List String} (htable : x.registry = .table t)
    (ht : ∀ name c, t.get? name = some c → c.LeavesStatus)
    (hdiscovered : ∀ l ∈ x.link? s, l.isDiscovering = false) (htokens : tokens line = name :: args) :
    (x.execute s line).1 = .notFound ↔ t.get? name = none ∧ name ∉ x.remoteProcedures s := by
  cases hget : t.get? name with
  | some c =>
      obtain ⟨registry, forwards⟩ := x
      cases htable
      simp [execute_eq_run htokens hget, c.fst_run_ne_notFound (ht name c hget)]
  | none =>
      rw [execute_of_route_eq_unknown s htable (Table.route_of_get?_eq_none htokens hget),
        remoteProcedures]
      cases hlink : x.link? s with
      | none => simp [miss]
      | some l =>
          have hawait : l.awaitDiscovery = l := by
            simp [Link.awaitDiscovery, hdiscovered l hlink]
          simp [fst_forward_eq_notFound_iff, hawait]

end Executor

end Tables

namespace Terminal

/-- Runs the lines of the outermost terminal. -/
def outermost : Executor Terminal := { registry := .table commands }

theorem leavesStatus_help (args : List String) (s : Scene Terminal) {status : Option Status}
    (h : (help args s).1 = .done status) : status = none := by
  have hremote : ∀ name l, (remoteHelp name l s).1 = .done status → status = none := by
    intro name l
    simp only [remoteHelp]
    split <;> simp +contextual
  unfold help at h
  split at h
  · cases h
    rfl
  · split at h
    · cases h
      rfl
    · cases h
      rfl
    · split at h
      · exact hremote _ _ h
      · cases h
        rfl

/-- No command of the outermost terminal says with which status a line ends. -/
theorem leavesStatus_of_get? :
    ∀ name c, commands.get? name = some c → c.LeavesStatus := by
  have hasking : ∀ a usage, (asking a usage).LeavesStatus := by
    rintro a usage args switches s status ⟨⟩
    rfl
  refine Table.forall_register ?_ _ fun args _ s _ => leavesStatus_help args s
  refine Table.forall_register ?_ _ (by rintro args switches s status ⟨⟩; rfl)
  refine Table.forall_register ?_ _ (by rintro args switches s status ⟨⟩; rfl)
  refine Table.forall_register ?_ _ (hasking _ _)
  exact Table.forall_register nofun _ (hasking _ _)

/-- The usage texts that were noted down are those of the commands in the table. -/
theorem mem_keys_usages_iff {name : String} :
    name ∈ usages.keys ↔ (commands.get? name).isSome = true := by
  rw [usages, Entries.mem_keys_put, Table.mem_keys_usages_iff, commands, Table.get?_register]
  split <;> simp_all

theorem get?_usages_eq_none_iff {name : String} :
    usages.get? name = none ↔ commands.get? name = none := by
  rw [← Option.not_isSome_iff_eq_none, ← Option.not_isSome_iff_eq_none, Entries.get?_isSome_iff,
    mem_keys_usages_iff]

theorem mem_helpNames_iff {remote : List String} {name : String} :
    name ∈ helpNames remote ↔ (commands.get? name).isSome = true ∨ name ∈ remote := by
  by_cases h : name ∈ usages.keys <;> simp [helpNames, h, ← mem_keys_usages_iff]

theorem get?_helpMethod : commands.get? helpMethod =
    some { handler := fun args _ s => help args s, usage := some helpUsage } := by
  rw [commands, Table.get?_register, if_pos rfl]

section Help

variable {s : Scene Terminal} {name : String}

theorem execute_help : outermost.execute s helpMethod =
    (.ok, s.echo ("Available commands:\n" ++ "\n".intercalate (helpNames (offered s)))) := by
  have htokens : tokens helpMethod = [helpMethod] := tokens_of_isPlain (by decide +kernel)
  rw [outermost, Executor.execute_eq_run htokens get?_helpMethod,
    Command.run_of_read_eq_run (Command.read_nil _)]
  rfl

/-- Help on a name runs the handler with that name. -/
theorem execute_help_on (hplain : isPlain name = true) (hdash : ∀ rest, name.toList ≠ '-' :: rest) :
    outermost.execute s (helpMethod ++ " " ++ name) =
      Executor.settle (helpMethod ++ ": ") (help [name] s) := by
  have htokens : tokens (helpMethod ++ " " ++ name) = [helpMethod, name] := by
    rw [tokens_append_space (by decide +kernel), tokens_of_isPlain hplain]
  rw [outermost, Executor.execute_eq_run htokens get?_helpMethod,
    Command.run_of_read_eq_run (Command.read_of_operand hdash [])]

theorem link_help_of_local (h : commands.get? name ≠ none ∨ name ∉ offered s) :
    (help [name] s).2.link = s.link := by
  rw [ne_eq, ← get?_usages_eq_none_iff] at h
  simp only [help]
  split
  · rfl
  · rfl
  · rename_i husages
    have hno : (offered s).contains name = false := by simpa [husages] using h
    rw [hno]
    rfl

/-- The peer is asked about a name that it alone has. -/
theorem link_help_of_offered (hplain : isPlain name = true) (hlocal : commands.get? name = none)
    (hoffered : name ∈ offered s) :
    ∃ l r, s.link = some l ∧ r.method = helpMethod ∧ r.params.words = [name] ∧ r.id = l.nextId ∧
      r.params.token? = l.token ∧
      (help [name] s).2.link =
        some { l with nextId := l.nextId + 1, sent := l.sent ++ [r] } := by
  have hline : blankWords (helpMethod ++ " " ++ name) = [helpMethod, name] :=
    blankWords_pair (by decide +kernel) hplain
  have hne : tokens (helpMethod ++ " " ++ name) ≠ [] := by
    rw [tokens_append_space (by decide +kernel)]
    exact List.cons_ne_nil _ _
  cases hlink : s.link with
  | none => simp [offered, hlink] at hoffered
  | some l =>
      obtain ⟨r, henvelope, hcall⟩ := l.exists_call_eq hne
      have hwords : r.method :: r.params.words = [helpMethod, name] := henvelope.words.trans hline
      obtain ⟨hmethod, hparams⟩ := List.cons.inj hwords
      refine ⟨l, r, rfl, hmethod, hparams, henvelope.id, henvelope.token, ?_⟩
      have hcontains : (offered s).contains name = true := List.contains_iff_mem.2 hoffered
      simp only [help, get?_usages_eq_none_iff.2 hlocal, hcontains, hlink, remoteHelp, hcall]
      split <;> rfl

/-- `help` lists the names that can be run: once no description is owed any more, a name is
listed if and only if the line that is just this name does not end as not found. Help on a name
asks the peer, in one envelope, if the peer has the name and the terminal does not, and sends
nothing otherwise. -/
theorem mem_helpNames_iff_execute (hdiscovered : ∀ l ∈ s.link, l.isDiscovering = false)
    (hname : tokens name = [name]) (hdash : ∀ rest, name.toList ≠ '-' :: rest) :
    outermost.execute s helpMethod =
        (.ok, s.echo ("Available commands:\n" ++ "\n".intercalate (helpNames (offered s)))) ∧
      (name ∈ helpNames (offered s) ↔ (outermost.execute s name).1 ≠ .notFound) ∧
      (name ∈ offered s → commands.get? name = none →
        ∃ l r, s.link = some l ∧ r.method = helpMethod ∧ r.params.words = [name] ∧
          r.id = l.nextId ∧ r.params.token? = l.token ∧
          (outermost.execute s (helpMethod ++ " " ++ name)).2.link =
            some { l with nextId := l.nextId + 1, sent := l.sent ++ [r] }) ∧
      (commands.get? name ≠ none ∨ name ∉ offered s →
        (outermost.execute s (helpMethod ++ " " ++ name)).2.link = s.link) := by
  have hplain : isPlain name = true :=
    tokens_intercalate_iff.1 (by simpa using hname) name (List.mem_singleton_self name)
  rw [execute_help_on hplain hdash, Executor.link_settle]
  refine ⟨execute_help, ?_, ?_, link_help_of_local⟩
  · have hnotFound := Executor.fst_execute_eq_notFound_iff (x := outermost) rfl
      leavesStatus_of_get? hdiscovered hname
    rw [ne_eq, hnotFound, mem_helpNames_iff, Option.isSome_iff_ne_none, not_and_or, not_not]
    rfl
  · exact fun hoffered hlocal => link_help_of_offered hplain hlocal hoffered

/-- A link to a peer that offers one command that the terminal has too and one that it has
not. -/
def overlappingLink : Link :=
  (Link.connect (Scripted.peer
    [{ method := some describeMethod
       answer := .result (.object [("procs", .ofStrings ["ai", "echo"])]) },
      { answer := .crash {} }])).finishDiscovery

/-- A name that only the peer has, one that both have, and one that neither has. -/
theorem mem_helpNames_iff_execute_overlapping :
    let s : Scene Terminal := { console := .new 10, link := some overlappingLink }
    (∀ l ∈ s.link, l.isDiscovering = false) ∧
      (∀ name ∈ ["echo", "ai", "nope"],
        tokens name = [name] ∧ ∀ rest, name.toList ≠ '-' :: rest) ∧
      (outermost.execute s "echo").1 ≠ .notFound ∧ (outermost.execute s "ai").1 ≠ .notFound ∧
      (outermost.execute s "nope").1 = .notFound ∧
      (∃ r, r.method = "help" ∧ r.params.words = ["echo"] ∧
        (outermost.execute s "help echo").2.link =
          some { overlappingLink with
            nextId := overlappingLink.nextId + 1
            sent := overlappingLink.sent ++ [r] }) ∧
      (outermost.execute s "help ai").2.link = s.link ∧
      (outermost.execute s "help nope").2.link = s.link := by
  intro s
  have hdiscovered : ∀ l ∈ s.link, l.isDiscovering = false := by
    rintro l ⟨⟩
    rfl
  have hnames : ∀ name ∈ ["echo", "ai", "nope"],
      tokens name = [name] ∧ ∀ rest, name.toList ≠ '-' :: rest := by
    simp only [List.forall_mem_cons, List.not_mem_nil, false_imp_iff, implies_true, and_true]
    refine ⟨⟨by decide +kernel, ?_⟩, ⟨by decide +kernel, ?_⟩, ⟨by decide +kernel, ?_⟩⟩ <;>
      simp
  have hoffered : offered s = ["ai", "echo"] := by decide +kernel
  have hon (name : String) (hmem : name ∈ ["echo", "ai", "nope"]) :=
    mem_helpNames_iff_execute hdiscovered (hnames name hmem).1 (hnames name hmem).2
  obtain ⟨-, hecho, hasked, -⟩ := hon "echo" (by simp)
  obtain ⟨-, hai, -, hlocal⟩ := hon "ai" (by simp)
  obtain ⟨-, hnope, -, hunknown⟩ := hon "nope" (by simp)
  have hlists {name : String} : name ∈ helpNames (offered s) ↔ name ∈ helpNames ["ai", "echo"] := by
    rw [hoffered]
  obtain ⟨l, r, ⟨⟩, hmethod, hwords, hid, -, hlink⟩ := hasked (by simp [hoffered]) rfl
  refine ⟨hdiscovered, hnames, ?_, ?_, ?_, ⟨r, hmethod, hwords, hlink⟩, ?_, ?_⟩
  · exact hecho.1 (hlists.2 (by decide))
  · exact hai.1 (hlists.2 (by decide))
  · exact not_not.1 (mt hnope.2 (mt hlists.1 (by decide)))
  · exact hlocal (.inl (Option.isSome_iff_ne_none.1 rfl))
  · exact hunknown (.inr (by simp [hoffered]))

end Help

end Terminal

end RemoteConsole
