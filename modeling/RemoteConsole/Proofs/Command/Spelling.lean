import RemoteConsole.Proofs.Command.OptionLetters

/-!
# How options are spelled

The same options may be written in several ways: flags alone or several in one cluster, a letter
with a value alone or at the end of a cluster, and the value behind its letter or as the next
word. A `Cluster` is one of these ways for some options in a row, and `Spells` says that words
are clusters and behind them the operands. Reading undoes every spelling
(`readOptions_of_spells`), and words that are read as such options are a spelling of them
(`spells_of_readOptions`). The main statement is `Scanner.readAll_eq_iff_spells`.
-/

namespace RemoteConsole

/-- An option as it is meant. -/
structure Occurrence where
  letter : Char
  value : Option String := none
  deriving Repr, DecidableEq

namespace Occurrence

/-- A specification allows an option: its letter is listed, and there is a value exactly if a
colon stands behind the first occurrence of the letter. -/
structure IsAllowed (spec : List Char) (o : Occurrence) : Prop where
  ne_colon : o.letter ≠ ':'
  ne_dash : o.letter ≠ '-'
  mem : o.letter ∈ spec
  value_iff : o.value.isSome = true ↔ spec[spec.idxOf o.letter + 1]? = some ':'

instance (spec : List Char) (o : Occurrence) : Decidable (o.IsAllowed spec) :=
  decidable_of_iff (o.letter ≠ ':' ∧ o.letter ≠ '-' ∧ o.letter ∈ spec ∧
      (o.value.isSome = true ↔ spec[spec.idxOf o.letter + 1]? = some ':'))
    ⟨fun ⟨hcolon, hdash, hmem, hvalue⟩ => ⟨hcolon, hdash, hmem, hvalue⟩,
      fun ⟨hcolon, hdash, hmem, hvalue⟩ => ⟨hcolon, hdash, hmem, hvalue⟩⟩

/-- The option as it is given back when it is read. -/
def given (o : Occurrence) : GivenOption := ⟨o.letter, o.value, o.letter⟩

end Occurrence

/-- The last option of a cluster. -/
inductive LastOption where
  | flag (letter : Char)
  /-- A value right behind its letter. -/
  | attached (letter : Char) (value : String) (hne : value ≠ "")
  /-- A value as a word of its own. -/
  | detached (letter : Char) (value : String)

namespace LastOption

def occurrence : LastOption → Occurrence
  | flag c => ⟨c, none⟩
  | attached c v _ => ⟨c, some v⟩
  | detached c v => ⟨c, some v⟩

/-- What stands in the cluster. -/
def text : LastOption → List Char
  | flag c => [c]
  | attached c v _ => c :: v.toList
  | detached c _ => [c]

/-- What stands behind the cluster. -/
def next : LastOption → List String
  | detached _ v => [v]
  | _ => []

end LastOption

/-- Options written in one word, with the value of the last as the next word or not. -/
structure Cluster where
  flags : List Char
  last : LastOption

namespace Cluster

def occurrences (c : Cluster) : List Occurrence :=
  c.flags.map (⟨·, none⟩) ++ [c.last.occurrence]

/-- What stands behind the dash. -/
def text (c : Cluster) : List Char := c.flags ++ c.last.text

def words (c : Cluster) : List String := String.ofList ('-' :: c.text) :: c.last.next

end Cluster

/-- Operands behind options: after the end mark, or at once if the first cannot be taken for
options. -/
inductive Trails (spec : List Char) (operands : List String) : List String → Prop
  | marked : Trails spec operands ("--" :: operands)
  | bare (h : ∀ word ∈ operands.head?, word.toList.head? ≠ some '-') : Trails spec operands operands
  /-- A dash alone is no option of the specification. -/
  | dash (h : operands.head? = some "-") (hspec : '-' ∉ spec) : Trails spec operands operands

/-- Words spell options and operands: they are clusters with just these options, and the operands
behind them. -/
def Spells (spec : List Char) (options : List Occurrence) (operands words : List String) : Prop :=
  ∃ clusters : List Cluster, ∃ tail,
    clusters.flatMap Cluster.occurrences = options ∧ Trails spec operands tail ∧
      words = clusters.flatMap Cluster.words ++ tail

variable {spec : List Char}

theorem Occurrence.IsAllowed.takesValue? {o : Occurrence} (h : o.IsAllowed spec) :
    takesValue? spec o.letter = some o.value.isSome := by
  have hknown : ¬ (o.letter = ':' ∨ o.letter ∉ spec) := by
    simp [h.ne_colon, h.mem]
  rw [takesValue?_eq, if_neg hknown, Option.some.injEq, Bool.eq_iff_iff, beq_iff_eq, h.value_iff]

theorem readLetters_of_lastOption {e : LastOption} (h : e.occurrence.IsAllowed spec) (rest : List String) :
    readLetters spec e.text (e.next ++ rest) = (readOptions spec rest).cons e.occurrence.given := by
  have hmeans := h.takesValue?
  cases e with
  | flag c =>
      refine (readLetters_cons_of_flag hmeans rest).trans ?_
      rw [readLetters_nil]
      rfl
  | attached c v hne =>
      refine (readLetters_cons_of_value hmeans rest).trans ?_
      rw [if_pos (by simpa using hne), String.ofList_toList]
      rfl
  | detached c v => exact (readLetters_cons_of_value hmeans (v :: rest)).trans (if_neg (by simp))

theorem readLetters_of_cluster {c : Cluster} (h : ∀ o ∈ c.occurrences, o.IsAllowed spec)
    (rest : List String) :
    readLetters spec c.text (c.last.next ++ rest) =
      ⟨c.occurrences.map Occurrence.given ++ (readOptions spec rest).given,
        (readOptions spec rest).rest⟩ := by
  obtain ⟨flags, last⟩ := c
  induction flags with
  | nil => exact readLetters_of_lastOption (h _ (by simp [Cluster.occurrences])) rest
  | cons d flags ih =>
      have hflag : Occurrence.IsAllowed spec ⟨d, none⟩ := h _ (by simp [Cluster.occurrences])
      have hrest := ih fun o ho => h o (List.mem_cons_of_mem _ ho)
      refine (readLetters_cons_of_flag hflag.takesValue? _).trans ?_
      exact congrArg (GivenOptions.cons _) hrest

/-- A cluster does not start with a dash, so it is not taken for an end mark. -/
theorem exists_text_eq {c : Cluster} (h : ∀ o ∈ c.occurrences, o.IsAllowed spec) :
    ∃ d r, c.text = d :: r ∧ d ≠ '-' := by
  obtain ⟨flags, last⟩ := c
  cases flags with
  | nil =>
      have hdash := (h last.occurrence (by simp [Cluster.occurrences])).ne_dash
      cases last with
      | flag d => exact ⟨d, [], rfl, hdash⟩
      | attached d v hne => exact ⟨d, v.toList, rfl, hdash⟩
      | detached d v => exact ⟨d, [], rfl, hdash⟩
  | cons d flags => exact ⟨d, _, rfl, (h ⟨d, none⟩ (by simp [Cluster.occurrences])).ne_dash⟩

theorem readOptions_of_cluster {c : Cluster} (h : ∀ o ∈ c.occurrences, o.IsAllowed spec)
    (rest : List String) :
    readOptions spec (c.words ++ rest) =
      ⟨c.occurrences.map Occurrence.given ++ (readOptions spec rest).given,
        (readOptions spec rest).rest⟩ := by
  obtain ⟨d, r, htext, hdash⟩ := exists_text_eq h
  have hword : (String.ofList ('-' :: c.text)).toList = '-' :: d :: r := by
    rw [String.toList_ofList, htext]
  rw [Cluster.words, List.cons_append,
    readOptions_cons_of_cluster hword (fun heq => absurd heq hdash), ← htext]
  exact readLetters_of_cluster h rest

theorem readOptions_of_trails {operands tail : List String} (h : Trails spec operands tail) :
    readOptions spec tail = ⟨[], operands⟩ := by
  cases h with
  | marked => exact readOptions_cons_of_end rfl operands
  | bare h =>
      cases operands with
      | nil => exact readOptions_nil
      | cons word rest =>
          refine readOptions_cons_of_operand (fun cluster htext => ?_) rest
          exact h word rfl (by rw [htext]; rfl)
  | dash h hspec =>
      obtain ⟨rest, rfl⟩ := List.head?_eq_some_iff.1 h
      rw [readOptions_cons_of_lone rfl, if_neg hspec]

/-- Reading undoes every spelling. -/
theorem readOptions_of_spells {options : List Occurrence} {operands words : List String}
    (hallowed : ∀ o ∈ options, o.IsAllowed spec) (h : Spells spec options operands words) :
    readOptions spec words = ⟨options.map Occurrence.given, operands⟩ := by
  obtain ⟨clusters, tail, rfl, htail, rfl⟩ := h
  induction clusters with
  | nil => exact readOptions_of_trails htail
  | cons c clusters ih =>
      rw [List.flatMap_cons, List.forall_mem_append] at hallowed
      rw [List.flatMap_cons, List.append_assoc, readOptions_of_cluster hallowed.1,
        ih hallowed.2, List.flatMap_cons, List.map_append]

theorem exists_of_cons_eq {g : GivenOptions} {o : GivenOption} {options : List Occurrence}
    {operands : List String} (h : g.cons o = ⟨options.map Occurrence.given, operands⟩) :
    ∃ p options', options = p :: options' ∧ p.given = o ∧
      g = ⟨options'.map Occurrence.given, operands⟩ := by
  obtain ⟨given, rest⟩ := g
  rw [GivenOptions.cons, GivenOptions.mk.injEq, eq_comm, List.map_eq_cons_iff] at h
  obtain ⟨⟨p, options', rfl, hp, rfl⟩, rfl⟩ := h
  exact ⟨p, options', rfl, hp, rfl⟩

/-- Letters that are read as allowed options are a cluster of the first of them. -/
theorem exists_cluster_of_readLetters {letters : List Char} (hne : letters ≠ [])
    {rest operands : List String} {options : List Occurrence}
    (hallowed : ∀ o ∈ options, o.IsAllowed spec)
    (h : readLetters spec letters rest = ⟨options.map Occurrence.given, operands⟩) :
    ∃ (c : Cluster) (rest' : List String) (options' : List Occurrence),
      letters = c.text ∧ rest = c.last.next ++ rest' ∧ options = c.occurrences ++ options' ∧
        readOptions spec rest' = ⟨options'.map Occurrence.given, operands⟩ := by
  induction letters generalizing options with
  | nil => exact absurd rfl hne
  | cons c letters ih =>
      cases hmeans : takesValue? spec c with
      | none =>
          rw [readLetters_cons_of_unknown hmeans] at h
          obtain ⟨p, options', rfl, hp, _⟩ := exists_of_cons_eq h
          obtain rfl : p.letter = c := congrArg GivenOption.letter hp
          simp [(hallowed p (by simp)).takesValue?] at hmeans
      | some value =>
          cases value with
          | false =>
              rw [readLetters_cons_of_flag hmeans] at h
              obtain ⟨⟨d, v⟩, options', rfl, hp, hrest⟩ := exists_of_cons_eq h
              obtain ⟨rfl, rfl, _⟩ := GivenOption.mk.inj hp
              by_cases hletters : letters = []
              · rw [hletters, readLetters_nil] at hrest
                subst hletters
                exact ⟨⟨[], .flag d⟩, rest, options', rfl, rfl, rfl, hrest⟩
              · obtain ⟨c, rest', options'', rfl, rfl, rfl, hrest'⟩ :=
                  ih hletters (fun o ho => hallowed o (List.mem_cons_of_mem _ ho)) hrest
                exact ⟨⟨d :: c.flags, c.last⟩, rest', options'', rfl, rfl, rfl, hrest'⟩
          | true =>
              rw [readLetters_cons_of_value hmeans] at h
              by_cases hletters : letters = []
              · rw [if_neg (not_not_intro hletters)] at h
                subst hletters
                cases rest with
                | nil =>
                    -- Without a value the letter is given back as a fault.
                    have hcons : GivenOptions.cons
                        ⟨if spec.head? = some ':' then ':' else '?', none, c⟩ ⟨[], []⟩
                        = ⟨options.map Occurrence.given, operands⟩ := h
                    obtain ⟨p, options', rfl, hp, _⟩ := exists_of_cons_eq hcons
                    obtain rfl : p.letter = c := congrArg GivenOption.letter hp
                    have hnone : p.value = none := congrArg GivenOption.value hp
                    simp [(hallowed p (by simp)).takesValue?, hnone] at hmeans
                | cons v rest =>
                    obtain ⟨⟨d, w⟩, options', rfl, hp, hrest⟩ := exists_of_cons_eq h
                    obtain ⟨rfl, rfl, _⟩ := GivenOption.mk.inj hp
                    exact ⟨⟨[], .detached d v⟩, rest, options', rfl, rfl, rfl, hrest⟩
              · rw [if_pos hletters] at h
                obtain ⟨⟨d, w⟩, options', rfl, hp, hrest⟩ := exists_of_cons_eq h
                obtain ⟨rfl, rfl, _⟩ := GivenOption.mk.inj hp
                have hvalue : String.ofList letters ≠ "" := by simpa using hletters
                refine ⟨⟨[], .attached d _ hvalue⟩, rest, options', ?_, rfl, rfl, hrest⟩
                simp [Cluster.text, LastOption.text]

theorem spells_of_trails {operands words : List String} (h : Trails spec operands words) :
    Spells spec [] operands words := ⟨[], words, rfl, h, rfl⟩

theorem spells_cluster_append (c : Cluster) {options : List Occurrence}
    {operands words : List String} (h : Spells spec options operands words) :
    Spells spec (c.occurrences ++ options) operands (c.words ++ words) := by
  obtain ⟨clusters, tail, rfl, htail, rfl⟩ := h
  exact ⟨c :: clusters, tail, rfl, htail, by rw [List.flatMap_cons, List.append_assoc]⟩

theorem eq_of_stop_eq {options : List Occurrence} {operands rest : List String}
    (h : (⟨[], rest⟩ : GivenOptions) = ⟨options.map Occurrence.given, operands⟩) :
    options = [] ∧ operands = rest := by
  rw [GivenOptions.mk.injEq, eq_comm, List.map_eq_nil_iff] at h
  exact ⟨h.1, h.2.symm⟩

/-- Words that are read as allowed options and operands are a spelling of them. -/
theorem spells_of_readOptions {operands : List String} : ∀ (words : List String)
    {options : List Occurrence}, (∀ o ∈ options, o.IsAllowed spec) →
    readOptions spec words = ⟨options.map Occurrence.given, operands⟩ →
    Spells spec options operands words
  | [], options, _, h => by
      rw [readOptions_nil] at h
      obtain ⟨rfl, rfl⟩ := eq_of_stop_eq h
      exact spells_of_trails (.bare nofun)
  | token :: rest, options, hallowed, h => by
      by_cases hdash : token.toList.head? = some '-'
      · obtain ⟨letters, htoken⟩ := List.head?_eq_some_iff.1 hdash
        have hword : token = String.ofList ('-' :: letters) := by
          rw [← htoken, String.ofList_toList]
        cases letters with
        | nil =>
            rw [readOptions_cons_of_lone htoken] at h
            by_cases hspec : '-' ∈ spec
            · -- The dash would be an option, but none of the given ones has it as its letter.
              rw [if_pos hspec] at h
              obtain ⟨c, _, options', htext, _, rfl, _⟩ :=
                exists_cluster_of_readLetters (by simp) hallowed h
              obtain ⟨d, r, htext', hd⟩ :=
                exists_text_eq fun o ho => hallowed o (List.mem_append_left _ ho)
              rw [← htext, List.cons.injEq] at htext'
              exact absurd htext'.1.symm hd
            · rw [if_neg hspec] at h
              obtain ⟨rfl, rfl⟩ := eq_of_stop_eq h
              exact spells_of_trails (.dash (congrArg some hword) hspec)
        | cons d r =>
            by_cases hmark : d = '-' ∧ r = []
            · obtain ⟨rfl, rfl⟩ := hmark
              rw [readOptions_cons_of_end htoken] at h
              obtain ⟨rfl, rfl⟩ := eq_of_stop_eq h
              rw [hword]
              exact spells_of_trails .marked
            · rw [readOptions_cons_of_cluster htoken fun hd hr => hmark ⟨hd, hr⟩] at h
              obtain ⟨c, rest', options', htext, hwords, rfl, hrest⟩ :=
                exists_cluster_of_readLetters (by simp) hallowed h
              have hshorter : rest'.length < (token :: rest).length := by
                rw [hwords, List.length_cons, List.length_append]
                omega
              rw [hword, htext, hwords]
              refine spells_cluster_append c (spells_of_readOptions rest' (fun o ho => ?_) hrest)
              exact hallowed o (List.mem_append_right _ ho)
      · have hoperand : ∀ cluster, token.toList ≠ '-' :: cluster := by
          intro cluster htoken
          exact hdash (by rw [htoken]; rfl)
        rw [readOptions_cons_of_operand hoperand] at h
        obtain ⟨rfl, rfl⟩ := eq_of_stop_eq h
        refine spells_of_trails (.bare ?_)
        rintro word ⟨⟩
        exact hdash
termination_by words => words.length
decreasing_by exact hshorter

/-- An option on its own, with its value as the next word. -/
def Cluster.ofOccurrence (o : Occurrence) : Cluster :=
  match o.value with
  | none => ⟨[], .flag o.letter⟩
  | some v => ⟨[], .detached o.letter v⟩

theorem occurrences_ofOccurrence (o : Occurrence) : (Cluster.ofOccurrence o).occurrences = [o] := by
  obtain ⟨c, value⟩ := o
  cases value <;> rfl

theorem exists_spells (spec : List Char) (options : List Occurrence) (operands : List String) :
    ∃ words, Spells spec options operands words := by
  refine ⟨_, options.map Cluster.ofOccurrence, _, ?_, .marked, rfl⟩
  simp [List.flatMap_map, occurrences_ofOccurrence]

/-- A fresh scanner gives back just these options and leaves just these operands if and only if
the words are a spelling of them, and there is such a spelling. -/
theorem Scanner.readAll_eq_iff_spells (quiet : Bool) (spec : String) (options : List Occurrence)
    (operands : List String) (hallowed : ∀ o ∈ options, o.IsAllowed spec.toList) :
    (∃ words, Spells spec.toList options operands words) ∧
      ∀ words, Spells spec.toList options operands words ↔
        ∃ steps last, readAll { quiet } words spec.toList = steps ++ [last] ∧
          last.letter = none ∧ steps.map Step.option? = options.map (some ·.given) ∧
          last.scanner.remaining words = operands := by
  refine ⟨exists_spells spec.toList options operands, fun words => ?_⟩
  obtain ⟨steps, last, hall, hlast, hgiven, hrest⟩ := readAll_new quiet words spec
  constructor
  · intro hspells
    rw [readOptions_of_spells hallowed hspells] at hgiven hrest
    exact ⟨steps, last, hall, hlast, by rw [hgiven, List.map_map]; rfl, hrest⟩
  · rintro ⟨steps', last', hall', _, hgiven', hrest'⟩
    obtain ⟨rfl, heq⟩ := List.append_inj' (hall.symm.trans hall') rfl
    cases heq
    refine spells_of_readOptions words hallowed ?_
    have hsame : (readOptions spec.toList words).given = options.map Occurrence.given := by
      rw [hgiven'] at hgiven
      have hmap : (options.map Occurrence.given).map some
          = (readOptions spec.toList words).given.map some := by
        rw [List.map_map]
        exact hgiven
      exact ((List.map_inj_right fun _ _ => Option.some.inj).1 hmap).symm
    rw [← hsame, ← hrest', hrest]

/-- Values and operands that look like options or like the end mark, and a letter that takes a
value only by its first occurrence. -/
theorem Scanner.readAll_eq_iff_spells_dashes :
    let spec := ":ab:cb"
    let options : List Occurrence := [⟨'a', none⟩, ⟨'b', some "--"⟩, ⟨'c', none⟩, ⟨'b', some "-x"⟩]
    let operands := ["-a", "--"]
    let words := ["-ab", "--", "-cb-x", "--", "-a", "--"]
    (∀ o ∈ options, o.IsAllowed spec.toList) ∧ Spells spec.toList options operands words ∧
      ∃ steps last, readAll {} words spec.toList = steps ++ [last] ∧ last.letter = none ∧
        steps.map Step.option? = options.map (some ·.given) ∧
        last.scanner.remaining words = operands := by
  intro spec options operands words
  have hallowed : ∀ o ∈ options, o.IsAllowed spec.toList := by decide
  have hspells : Spells spec.toList options operands words :=
    ⟨[⟨['a'], .detached 'b' "--"⟩, ⟨['c'], .attached 'b' "-x" (by decide)⟩], _, rfl, .marked, rfl⟩
  exact ⟨hallowed, hspells,
    ((readAll_eq_iff_spells false spec options operands hallowed).2 words).1 hspells⟩

end RemoteConsole
