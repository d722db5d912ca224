import RemoteConsole.Command.Options

/-!
# The language of options

`readOptions` says by recursion over a list of arguments which options stand at its head, and
what is left behind them; `readLetters` says the same of the letters of a cluster. Neither knows
of a position. A scanner has one: an index, a copy of the cluster and a cursor in it. The
options of what it still has to read are `Scanner.optionsAhead`, and a step takes the first
of them off (`Scanner.reads_next`). The main statement is `Scanner.readAll_options`.
-/

namespace RemoteConsole

/-- One option as it is given back: the letter, or the sign of a fault in its place, the
value, and the letter that was looked at. -/
structure GivenOption where
  sign : Char
  value : Option String
  letter : Char
  deriving Repr, DecidableEq

/-- The options at the head of a list of arguments and the arguments behind them. -/
structure GivenOptions where
  given : List GivenOption
  rest : List String
  deriving Repr, DecidableEq

def GivenOptions.cons (o : GivenOption) (g : GivenOptions) : GivenOptions :=
  { g with given := o :: g.given }

mutual

def readOptions (spec : List Char) : List String → GivenOptions
  | [] => ⟨[], []⟩
  | token :: rest =>
    match token.toList with
    | ['-'] => if '-' ∈ spec then readLetters spec ['-'] rest else ⟨[], token :: rest⟩
    | ['-', '-'] => ⟨[], rest⟩
    | '-' :: cluster => readLetters spec cluster rest
    | _ => ⟨[], token :: rest⟩
termination_by args => (args.length, 0)

/-- The options of the letters of a cluster and of the arguments behind it. A value is the
rest of its cluster or else the next argument. -/
def readLetters (spec : List Char) : List Char → List String → GivenOptions
  | [], rest => readOptions spec rest
  | c :: cluster, rest =>
    if c = ':' ∨ c ∉ spec then (readLetters spec cluster rest).cons ⟨'?', none, c⟩
    else if spec[spec.idxOf c + 1]? ≠ some ':' then
      (readLetters spec cluster rest).cons ⟨c, none, c⟩
    else if cluster ≠ [] then (readOptions spec rest).cons ⟨c, some (String.ofList cluster), c⟩
    else
      match rest with
      | value :: rest => (readOptions spec rest).cons ⟨c, some value, c⟩
      | [] => ⟨[⟨if spec.head? = some ':' then ':' else '?', none, c⟩], []⟩
termination_by cluster args => (args.length, cluster.length + 1)

end

section Equations

variable {spec : List Char} {token : String} {c : Char} {cluster : List Char}

theorem readOptions_nil : readOptions spec [] = ⟨[], []⟩ := by
  rw [readOptions]

theorem readOptions_cons_of_lone (h : token.toList = ['-']) (rest : List String) :
    readOptions spec (token :: rest) =
      if '-' ∈ spec then readLetters spec ['-'] rest else ⟨[], token :: rest⟩ := by
  rw [readOptions.eq_def]
  simp only [h]

theorem readOptions_cons_of_end (h : token.toList = ['-', '-']) (rest : List String) :
    readOptions spec (token :: rest) = ⟨[], rest⟩ := by
  rw [readOptions.eq_def]
  simp only [h]

theorem readOptions_cons_of_cluster (h : token.toList = '-' :: c :: cluster)
    (hend : c = '-' → cluster = [] → False) (rest : List String) :
    readOptions spec (token :: rest) = readLetters spec (c :: cluster) rest := by
  rw [readOptions.eq_def]
  simp only [h]
  split
  · rename_i heq
    cases heq
  · rename_i heq
    cases heq
    exact (hend rfl rfl).elim
  · rename_i heq
    cases heq
    rfl
  · rename_i hno
    exact absurd rfl (hno (c :: cluster))

theorem readOptions_cons_of_operand (h : ∀ cluster, token.toList ≠ '-' :: cluster)
    (rest : List String) : readOptions spec (token :: rest) = ⟨[], token :: rest⟩ := by
  rw [readOptions.eq_def]
  simp only
  split
  · rename_i heq
    exact absurd heq (h _)
  · rename_i heq
    exact absurd heq (h _)
  · rename_i heq
    exact absurd heq (h _)
  · rfl

theorem readLetters_nil (rest : List String) :
    readLetters spec [] rest = readOptions spec rest := by
  rw [readLetters]

theorem dropWhile_bne_eq_drop_idxOf (spec : List Char) (c : Char) :
    spec.dropWhile (· != c) = spec.drop (spec.idxOf c) := by
  induction spec with
  | nil => rfl
  | cons d r ih =>
      by_cases h : d = c
      · simp [h]
      · have hbeq : (d == c) = false := by simpa using h
        rw [List.dropWhile_cons_of_pos (by simpa using h), List.idxOf_cons, hbeq, ih]
        rfl

/-- What a letter means is settled by its first occurrence. -/
theorem takesValue?_eq (spec : List Char) (c : Char) :
    takesValue? spec c =
      if c = ':' ∨ c ∉ spec then none else some (spec[spec.idxOf c + 1]? == some ':') := by
  rw [takesValue?, dropWhile_bne_eq_drop_idxOf]
  by_cases hcolon : c = ':'
  · simp [hcolon]
  by_cases hmem : c ∈ spec
  · have hlt := List.idxOf_lt_length_of_mem hmem
    rw [List.drop_eq_getElem_cons hlt]
    simp [hcolon, hmem]
  · have hlen : spec.length ≤ spec.idxOf c := Nat.le_of_eq (List.idxOf_eq_length hmem).symm
    rw [List.drop_eq_nil_of_le hlen]
    simp [hcolon, hmem]

theorem readLetters_cons_of_unknown (h : takesValue? spec c = none) (rest : List String) :
    readLetters spec (c :: cluster) rest
      = (readLetters spec cluster rest).cons ⟨'?', none, c⟩ := by
  rw [takesValue?_eq] at h
  split at h
  · rename_i hc
    rw [readLetters.eq_def]
    exact if_pos hc
  · cases h

theorem readLetters_cons_of_flag (h : takesValue? spec c = some false) (rest : List String) :
    readLetters spec (c :: cluster) rest
      = (readLetters spec cluster rest).cons ⟨c, none, c⟩ := by
  rw [takesValue?_eq] at h
  split at h
  · cases h
  · rename_i hc
    have hcolon : spec[spec.idxOf c + 1]? ≠ some ':' := by simpa using h
    rw [readLetters.eq_def]
    exact (if_neg hc).trans (if_pos hcolon)

theorem readLetters_cons_of_value (h : takesValue? spec c = some true) (rest : List String) :
    readLetters spec (c :: cluster) rest =
      if cluster ≠ [] then (readOptions spec rest).cons ⟨c, some (String.ofList cluster), c⟩
      else
        match rest with
        | value :: rest => (readOptions spec rest).cons ⟨c, some value, c⟩
        | [] => ⟨[⟨if spec.head? = some ':' then ':' else '?', none, c⟩], []⟩ := by
  rw [takesValue?_eq] at h
  split at h
  · cases h
  · rename_i hc
    have hcolon : ¬ spec[spec.idxOf c + 1]? ≠ some ':' := by simpa using h
    rw [readLetters.eq_def]
    exact (if_neg hc).trans (if_neg hcolon)

end Equations

@[simp] theorem GivenOptions.length_given_cons (o : GivenOption) (g : GivenOptions) :
    (g.cons o).given.length = g.given.length + 1 := rfl

mutual

/-- Each option uses up a character. -/
theorem length_given_readOptions_le (spec : List Char) : ∀ args : List String,
    (readOptions spec args).given.length ≤ (args.flatMap String.toList).length
  | [] => by simp [readOptions_nil]
  | token :: rest => by
      rw [readOptions.eq_def, List.flatMap_cons, List.length_append]
      simp only
      split
      · rename_i htoken
        rw [htoken]
        split
        · exact length_given_readLetters_le spec ['-'] rest
        · exact Nat.zero_le _
      · exact Nat.zero_le _
      · rename_i cluster _ _ htoken
        have := length_given_readLetters_le spec cluster rest
        rw [htoken, List.length_cons]
        omega
      · exact Nat.zero_le _
termination_by args => (args.length, 0)

theorem length_given_readLetters_le (spec : List Char) :
    ∀ (cluster : List Char) (rest : List String),
      (readLetters spec cluster rest).given.length
        ≤ cluster.length + (rest.flatMap String.toList).length
  | [], rest => by
      rw [readLetters_nil, List.length_nil, Nat.zero_add]
      exact length_given_readOptions_le spec rest
  | c :: cluster, rest => by
      have hcluster := length_given_readLetters_le spec cluster rest
      have hrest := length_given_readOptions_le spec rest
      rw [readLetters.eq_def]
      simp only [List.length_cons]
      split
      · rw [GivenOptions.length_given_cons]
        omega
      split
      · rw [GivenOptions.length_given_cons]
        omega
      split
      · rw [GivenOptions.length_given_cons]
        omega
      split
      · rename_i value rest
        have := length_given_readOptions_le spec rest
        rw [GivenOptions.length_given_cons, List.flatMap_cons, List.length_append]
        omega
      · simp
termination_by cluster args => (args.length, cluster.length + 1)

end

namespace Scanner

/-- The options of what a scanner has still to read: the letters of its cluster and the
arguments behind that. -/
def optionsAhead (s : Scanner) (args : List String) (spec : List Char) : GivenOptions :=
  readLetters spec (s.place.drop s.cursor) (args.drop (if s.spent then s.index else s.index + 1))

/-- The option that a step gives back. -/
def Step.option? (p : Step) : Option GivenOption :=
  match p.letter, p.scanner.lastLetter with
  | some sign, some letter => some ⟨sign, p.scanner.argument, letter⟩
  | _, _ => none

/-- A step reads what was ahead: it gives the first option back, or there was none. -/
inductive Step.Reads (p : Step) (args : List String) (spec : List Char) (g : GivenOptions) : Prop
  | stop (hletter : p.letter = none) (hahead : g = ⟨[], p.scanner.remaining args⟩)
  | give (o : GivenOption) (hoption : p.option? = some o)
      (hahead : g = (p.scanner.optionsAhead args spec).cons o)

variable {s : Scanner} {args : List String} {spec : List Char} {letter : Char}

theorem optionsAhead_of_spent (h : s.spent = true) :
    s.optionsAhead args spec = readOptions spec (args.drop s.index) := by
  have hlen : s.place.length ≤ s.cursor := by simpa [spent] using h
  rw [optionsAhead, if_pos h, List.drop_eq_nil_of_le hlen, readLetters_nil]

theorem optionsAhead_atRest :
    s.atRest.optionsAhead args spec = readOptions spec (args.drop s.index) :=
  optionsAhead_of_spent rfl

theorem optionsAhead_advance :
    s.advance.optionsAhead args spec
      = readLetters spec (s.place.drop s.cursor) (args.drop (s.index + 1)) := by
  by_cases h : s.spent
  · have hlen : s.place.length ≤ s.cursor := by simpa [spent] using h
    have hadvance : s.advance = { s with index := s.index + 1 } := if_pos h
    have hspent : { s with index := s.index + 1 }.spent = true := h
    rw [hadvance, optionsAhead_of_spent hspent, List.drop_eq_nil_of_le hlen, readLetters_nil]
  · have hadvance : s.advance = s := if_neg h
    rw [hadvance, optionsAhead, if_neg h]

theorem argument_advance : s.advance.argument = s.argument := by
  unfold advance
  split <;> rfl

/-- A letter that takes a value uses up the rest of its cluster, or the next argument. -/
theorem reads_acceptValue (hvalue : takesValue? spec letter = some true)
    (hargument : s.argument = none) (hlast : s.lastLetter = some letter) :
    (acceptValue s letter args spec).Reads args spec
      (readLetters spec (letter :: s.place.drop s.cursor) (args.drop (s.index + 1))) := by
  rw [readLetters_cons_of_value hvalue]
  -- The value is the next argument if the cluster ends here.
  by_cases h : s.spent
  · have hlen : s.place.length ≤ s.cursor := by simpa [spent] using h
    rw [List.drop_eq_nil_of_le hlen, if_neg (not_not_intro rfl)]
    cases hnext : args[s.index + 1]? with
    | some value =>
        obtain ⟨hi, hget⟩ := List.getElem?_eq_some_iff.1 hnext
        have hstep : acceptValue s letter args spec =
            { scanner := { s with index := s.index + 2, argument := some value }.atRest
              letter := some letter } := by
          simp [acceptValue, h, hnext, atRest]
        refine .give ⟨letter, some value, letter⟩ ?_ ?_
        · simp [hstep, Step.option?, atRest, hlast]
        · rw [hstep, optionsAhead_atRest, List.drop_eq_getElem_cons hi, hget]
    | none =>
        have hend := List.drop_eq_nil_of_le (List.getElem?_eq_none_iff.1 hnext)
        let sign := if spec.head? = some ':' then ':' else '?'
        have hscanner :
            (acceptValue s letter args spec).scanner = { s with index := s.index + 1 }.atRest := by
          simp [acceptValue, h, hnext, atRest]
        have hletter : (acceptValue s letter args spec).letter = some sign := by
          simp [acceptValue, h, hnext, missingLetter, unknownLetter, sign]
        refine .give ⟨sign, none, letter⟩ ?_ ?_
        · simp [Step.option?, hscanner, hletter, atRest, hlast, hargument]
        · rw [hscanner, optionsAhead_atRest, hend, readOptions_nil]
          rfl
  · have hcluster : s.place.drop s.cursor ≠ [] := by
      simpa [spent] using h
    have hstep : acceptValue s letter args spec =
        { scanner := { s with
            index := s.index + 1
            argument := some (String.ofList (s.place.drop s.cursor)) }.atRest
          letter := some letter } := by
      simp [acceptValue, h, atRest]
    refine .give ⟨letter, some (String.ofList (s.place.drop s.cursor)), letter⟩ ?_ ?_
    · simp [hstep, Step.option?, atRest, hlast]
    · rw [if_pos hcluster, hstep, optionsAhead_atRest]

theorem reads_accept (hargument : s.argument = none) :
    (accept s letter args spec).Reads args spec
      (readLetters spec (letter :: s.place.drop s.cursor) (args.drop (s.index + 1))) := by
  have hnone : s.advance.argument = none := argument_advance.trans hargument
  have hahead : { s.advance with lastLetter := some letter }.optionsAhead args spec
      = readLetters spec (s.place.drop s.cursor) (args.drop (s.index + 1)) :=
    optionsAhead_advance
  unfold accept
  cases hmeans : takesValue? spec letter with
  | none =>
      refine .give ⟨'?', none, letter⟩ ?_ ?_
      · simp [Step.option?, hnone, unknownLetter]
      · rw [readLetters_cons_of_unknown hmeans, hahead]
  | some value =>
      cases value with
      | false =>
          refine .give ⟨letter, none, letter⟩ ?_ ?_
          · simp [Step.option?, hnone]
          · rw [readLetters_cons_of_flag hmeans, hahead]
      | true =>
          exact reads_acceptValue (s := { s with lastLetter := some letter }) hmeans hargument rfl

/-- Between clusters a step looks at the next argument. -/
theorem reads_next_of_spent (hspent : s.spent = true) :
    (next s args spec).Reads args spec (readOptions spec (args.drop s.index)) := by
  have hc : ¬ s.cursor < s.place.length := by simpa [spent] using hspent
  unfold next
  simp only [hc, dite_false]
  cases hi : args[s.index]? with
  | none =>
      have hend := List.drop_eq_nil_of_le (List.getElem?_eq_none_iff.1 hi)
      refine .stop rfl ?_
      rw [hend, readOptions_nil]
      exact congrArg _ hend.symm
  | some token =>
      obtain ⟨hlt, hget⟩ := List.getElem?_eq_some_iff.1 hi
      have hdrop : args.drop s.index = token :: args.drop (s.index + 1) := by
        rw [List.drop_eq_getElem_cons hlt, hget]
      rw [hdrop]
      simp only
      split
      · rename_i htoken
        rw [readOptions_cons_of_lone htoken]
        by_cases hdash : '-' ∈ spec
        · simp only [hdash, List.contains_eq_mem, decide_true, if_true]
          exact reads_accept (s := { s with argument := none }.atRest) rfl
        · simp only [hdash, List.contains_eq_mem, decide_false, if_false]
          exact .stop rfl (congrArg _ hdrop.symm)
      · rename_i htoken
        rw [readOptions_cons_of_end htoken]
        exact .stop rfl rfl
      · rename_i c cluster hend htoken
        rw [readOptions_cons_of_cluster htoken hend]
        exact reads_accept
          (s := { s with argument := none, place := '-' :: c :: cluster, cursor := 2 }) rfl
      · rename_i hlone _ hcluster
        have hoperand : ∀ cluster, token.toList ≠ '-' :: cluster := by
          intro cluster htoken
          cases cluster with
          | nil => exact hlone htoken
          | cons c cluster => exact hcluster c cluster htoken
        rw [readOptions_cons_of_operand hoperand]
        exact .stop rfl (congrArg _ hdrop.symm)

/-- Every step reads what is ahead of the scanner, in a cluster and between clusters. -/
theorem reads_next (s : Scanner) (args : List String) (spec : List Char) :
    (next s args spec).Reads args spec (s.optionsAhead args spec) := by
  by_cases hc : s.cursor < s.place.length
  · have hspent : ¬ s.spent = true := by simpa [spent] using hc
    rw [optionsAhead, if_neg hspent, List.drop_eq_getElem_cons hc]
    unfold next
    simp only [hc, dite_true]
    exact reads_accept (s := { s with argument := none, cursor := s.cursor + 1 }) rfl
  · have hspent : s.spent = true := by simpa [spent] using hc
    rw [optionsAhead_of_spent hspent]
    exact reads_next_of_spent hspent

theorem readAll_of_letter_eq_none (h : (next s args spec).letter = none) :
    readAll s args spec = [next s args spec] := by
  rw [readAll]
  split
  · rfl
  · rename_i hsome
    rw [h] at hsome
    cases hsome

theorem readAll_of_letter_eq_some (h : (next s args spec).letter = some letter) :
    readAll s args spec = next s args spec :: readAll (next s args spec).scanner args spec := by
  rw [readAll]
  split
  · rename_i hnone
    rw [h] at hnone
    cases hnone
  · rfl

/-- All steps together read all options ahead, and leave what is behind them. -/
theorem readAll_optionsAhead (s : Scanner) (args : List String) (spec : List Char) :
    ∃ steps last, readAll s args spec = steps ++ [last] ∧ last.letter = none ∧
      steps.map Step.option? = (s.optionsAhead args spec).given.map some ∧
      last.scanner.remaining args = (s.optionsAhead args spec).rest := by
  -- Along the scan: each step leaves one option less ahead.
  induction s using readAll.induct args spec with
  | case1 s hletter =>
      refine ⟨[], next s args spec, readAll_of_letter_eq_none hletter, hletter, ?_⟩
      rcases s.reads_next args spec with ⟨_, hahead⟩ | ⟨o, hoption, _⟩
      · rw [hahead]
        exact ⟨rfl, rfl⟩
      · simp [Step.option?, hletter] at hoption
  | case2 s letter hletter hlt ih =>
      obtain ⟨steps, last, hrest, hlast, hgiven, hremaining⟩ := ih
      refine ⟨next s args spec :: steps, last, ?_, hlast, ?_⟩
      · rw [readAll_of_letter_eq_some hletter, hrest]
        rfl
      rcases s.reads_next args spec with ⟨hnone, _⟩ | ⟨o, hoption, hahead⟩
      · rw [hletter] at hnone
        cases hnone
      · rw [hahead, List.map_cons, hoption, hgiven, hremaining]
        exact ⟨rfl, rfl⟩

/-- A fresh scanner reads the options of the arguments. -/
theorem readAll_new (quiet : Bool) (args : List String) (spec : String) :
    ∃ steps last, readAll { quiet } args spec.toList = steps ++ [last] ∧ last.letter = none ∧
      steps.map Step.option? = (readOptions spec.toList args).given.map some ∧
      last.scanner.remaining args = (readOptions spec.toList args).rest := by
  have hahead : optionsAhead { quiet } args spec.toList = readOptions spec.toList args :=
    optionsAhead_of_spent rfl
  rw [← hahead]
  exact readAll_optionsAhead { quiet } args spec.toList

/-- A fresh scanner gives back the options of the arguments one by one, at most as many as
there are characters, and then ends with what is behind them. -/
theorem readAll_options (quiet : Bool) (args : List String) (spec : String) :
    ∃ steps last, readAll { quiet } args spec.toList = steps ++ [last] ∧ last.letter = none ∧
      steps.map Step.option? = (readOptions spec.toList args).given.map some ∧
      last.scanner.remaining args = (readOptions spec.toList args).rest ∧
      steps.length ≤ (args.flatMap String.toList).length := by
  obtain ⟨steps, last, hall, hlast, hgiven, hrest⟩ := readAll_new quiet args spec
  refine ⟨steps, last, hall, hlast, hgiven, hrest, ?_⟩
  have hlength := congrArg List.length hgiven
  rw [List.length_map, List.length_map] at hlength
  rw [hlength]
  exact length_given_readOptions_le spec.toList args

/-- A bad letter at the end of a cluster, a lone dash, and a value that looks like the end. -/
example : readOptions "a-b:".toList ["-a-x", "-", "-b", "--", "-ab", "c"]
    = ⟨[⟨'a', none, 'a'⟩, ⟨'-', none, '-'⟩, ⟨'?', none, 'x'⟩, ⟨'-', none, '-'⟩,
        ⟨'b', some "--", 'b'⟩, ⟨'a', none, 'a'⟩, ⟨'b', some "c", 'b'⟩], []⟩ := by cbv

end Scanner

end RemoteConsole
