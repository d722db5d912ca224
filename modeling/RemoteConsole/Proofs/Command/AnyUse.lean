import RemoteConsole.Proofs.Command.OptionLetters

/-!
# A scanner under any use

A scanner is given its arguments and its specification anew with every call, and they may be
others each time, also in the middle of a cluster. A call either looks at a letter (`LooksAt`) or
ends the options (`EndsAt`), and it does nothing else. From these two it follows what a call keeps
(`IsSound.next`), and that a scanner goes on over some arguments as another one does over the
arguments behind the first few of them (`GoesOnAs.next`), whatever letter was looked at last. The
main statement is `usedSoundly_after`.
-/

namespace RemoteConsole

namespace Scanner

variable {s t u : Scanner} {args : List String} {spec : List Char} {letter : Char} {i k : Nat}

/-- Either no cluster is being read, or the cursor stands behind its dash and its first letter and
not beyond its end. -/
inductive IsSound (s : Scanner) : Prop
  | atRest (hplace : s.place = []) (hcursor : s.cursor = 0)
  | inCluster (hplace : 2 ≤ s.place.length) (hbehind : 2 ≤ s.cursor)
      (hwithin : s.cursor ≤ s.place.length)

/-- An argument that cannot be taken for options. -/
def IsOperand (spec : List Char) (token : String) : Prop :=
  ∀ cluster, token.toList = '-' :: cluster → cluster = [] ∧ '-' ∉ spec

/-- At this place there is an operand, or the arguments are at their end. -/
def StopsAt (args : List String) (spec : List Char) (i : Nat) : Prop :=
  ∀ token ∈ args[i]?, IsOperand spec token

/-- The letter that a call looks at, and the scanner right behind it. -/
inductive LooksAt (s : Scanner) (args : List String) (spec : List Char) : Char → Scanner → Prop
  | within {c : Char} (hletter : s.place[s.cursor]? = some c) :
      LooksAt s args spec c { s with argument := none, cursor := s.cursor + 1 }
  | dash {token : String} (hspent : s.place.length ≤ s.cursor)
      (htoken : args[s.index]? = some token) (htext : token.toList = ['-']) (hspec : '-' ∈ spec) :
      LooksAt s args spec '-' { s with argument := none, place := [], cursor := 0 }
  | cluster {token : String} {c : Char} {r : List Char} (hspent : s.place.length ≤ s.cursor)
      (htoken : args[s.index]? = some token) (htext : token.toList = '-' :: c :: r)
      (hmark : c = '-' → r ≠ []) :
      LooksAt s args spec c { s with argument := none, place := '-' :: c :: r, cursor := 2 }

/-- A call that ends the options, and the index it leaves. -/
inductive EndsAt (s : Scanner) (args : List String) (spec : List Char) : Nat → Prop
  | mark (hspent : s.place.length ≤ s.cursor) (hmark : args[s.index]? = some "--") :
      EndsAt s args spec (s.index + 1)
  | operand (hspent : s.place.length ≤ s.cursor) (hstops : StopsAt args spec s.index) :
      EndsAt s args spec s.index

theorem looksAt_or_endsAt (s : Scanner) (args : List String) (spec : List Char) :
    (∃ letter u, s.LooksAt args spec letter u) ∨ ∃ i, s.EndsAt args spec i := by
  by_cases hc : s.cursor < s.place.length
  · exact .inl ⟨_, _, .within (List.getElem?_eq_getElem hc)⟩
  -- The cluster is used up, so the next argument decides.
  have hspent : s.place.length ≤ s.cursor := Nat.not_lt.1 hc
  cases htoken : args[s.index]? with
  | none => exact .inr ⟨_, .operand hspent (by simp [StopsAt, htoken])⟩
  | some token =>
      have hoperand (h : IsOperand spec token) : s.EndsAt args spec s.index := by
        refine .operand hspent fun token' htoken' => ?_
        rw [htoken, Option.mem_some_iff] at htoken'
        exact htoken' ▸ h
      by_cases hdash : ∃ cluster, token.toList = '-' :: cluster
      · obtain ⟨cluster, htext⟩ := hdash
        have hword : token = String.ofList ('-' :: cluster) := by
          rw [← htext, String.ofList_toList]
        cases cluster with
        | nil =>
            by_cases hspec : '-' ∈ spec
            · exact .inl ⟨_, _, .dash hspent htoken htext hspec⟩
            · refine .inr ⟨_, hoperand fun cluster h => ?_⟩
              rw [htext] at h
              exact ⟨(List.cons.inj h).2.symm, hspec⟩
        | cons c r =>
            by_cases hmark : c = '-' ∧ r = []
            · obtain ⟨rfl, rfl⟩ := hmark
              exact .inr ⟨_, .mark hspent (htoken.trans (congrArg some hword))⟩
            · exact .inl ⟨_, _, .cluster hspent htoken htext fun hc hr => hmark ⟨hc, hr⟩⟩
      · exact .inr ⟨_, hoperand fun cluster h => absurd ⟨cluster, h⟩ hdash⟩

theorem next_of_looksAt (h : s.LooksAt args spec letter u) :
    next s args spec = accept u letter args spec := by
  cases h with
  | within hletter =>
      obtain ⟨hc, rfl⟩ := List.getElem?_eq_some_iff.1 hletter
      simp [next, hc]
  | dash hspent htoken htext hspec =>
      simp [next, Nat.not_lt.2 hspent, htoken, htext, hspec, atRest]
  | cluster hspent htoken htext hmark => simp [next, Nat.not_lt.2 hspent, htoken, htext]

theorem next_of_endsAt (h : s.EndsAt args spec i) :
    next s args spec = stop { s with argument := none, index := i } := by
  cases h with
  | mark hspent hmark => simp [next, Nat.not_lt.2 hspent, hmark]
  | operand hspent hstops =>
      cases htoken : args[s.index]? with
      | none => simp [next, Nat.not_lt.2 hspent, htoken]
      | some token =>
          have hoperand : IsOperand spec token := hstops token htoken
          unfold next
          simp only [Nat.not_lt.2 hspent, dite_false, htoken]
          split
          · rename_i htext
            simp [(hoperand _ htext).2]
          · rename_i htext
            cases (hoperand _ htext).1
          · rename_i htext
            cases (hoperand _ htext).1
          · rfl

/-- The value of the letter that was looked at: the rest of the cluster, or else the next
argument. -/
def value? (u : Scanner) (args : List String) : Option String :=
  if u.spent then args[u.index + 1]? else some (String.ofList (u.place.drop u.cursor))

section Accept

variable {v : String}

theorem accept_of_plain (u : Scanner) (args : List String)
    (h : takesValue? spec letter ≠ some true) :
    (accept u letter args spec).letter =
        some (if takesValue? spec letter = none then '?' else letter) ∧
      (accept u letter args spec).scanner = { u.advance with lastLetter := some letter } := by
  cases hmeans : takesValue? spec letter with
  | none => simp [accept, hmeans, unknownLetter]
  | some takesValue =>
      have hno : takesValue = false := by simpa [hmeans] using h
      simp [accept, hmeans, hno]

theorem accept_of_value (h : takesValue? spec letter = some true) (hv : u.value? args = some v) :
    (accept u letter args spec).letter = some letter ∧
      (accept u letter args spec).scanner =
        { u with
          place := [], cursor := 0, index := if u.spent then u.index + 2 else u.index + 1
          lastLetter := some letter, argument := some v } := by
  have haccept : accept u letter args spec =
      acceptValue { u with lastLetter := some letter } letter args spec := by simp [accept, h]
  rw [haccept]
  by_cases hspent : u.spent = true
  · have hspent' : { u with lastLetter := some letter }.spent = true := hspent
    have hnext : args[u.index + 1]? = some v := by simpa [value?, hspent] using hv
    simp [acceptValue, hspent, hspent', hnext, atRest]
  · have hspent' : ¬ { u with lastLetter := some letter }.spent = true := hspent
    have hrest : String.ofList (u.place.drop u.cursor) = v := by simpa [value?, hspent] using hv
    simp [acceptValue, hspent, hspent', hrest, atRest]

theorem accept_of_missing (h : takesValue? spec letter = some true) (hv : u.value? args = none) :
    (accept u letter args spec).letter = some (if spec.head? = some ':' then ':' else '?') ∧
      (accept u letter args spec).scanner =
        { u with
          place := [], cursor := 0, index := u.index + 1, lastLetter := some letter } := by
  have hspent : u.spent = true := by
    cases hspent : u.spent with
    | true => rfl
    | false => simp [value?, hspent] at hv
  have hspent' : { u with lastLetter := some letter }.spent = true := hspent
  have hnext : args[u.index + 1]? = none := by simpa [value?, hspent] using hv
  simp [accept, h, acceptValue, hspent', hnext, missingLetter, unknownLetter, atRest]

end Accept

@[simp] theorem place_advance (s : Scanner) : s.advance.place = s.place := by
  unfold advance
  split <;> rfl

@[simp] theorem cursor_advance (s : Scanner) : s.advance.cursor = s.cursor := by
  unfold advance
  split <;> rfl

theorem index_advance (s : Scanner) :
    s.advance.index = if s.spent then s.index + 1 else s.index := by
  unfold advance
  split <;> rfl

theorem index_of_looksAt (hlooks : s.LooksAt args spec letter u) : u.index = s.index := by
  cases hlooks <;> rfl

theorem argument_of_looksAt (hlooks : s.LooksAt args spec letter u) : u.argument = none := by
  cases hlooks <;> rfl

theorem IsSound.of_eq (h : t.IsSound) (hplace : s.place = t.place) (hcursor : s.cursor = t.cursor) :
    s.IsSound := by
  cases h with
  | atRest hp hc => exact .atRest (hplace.trans hp) (hcursor.trans hc)
  | inCluster hp hb hw => exact .inCluster (hplace ▸ hp) (hcursor ▸ hb) (hplace ▸ hcursor ▸ hw)

theorem IsSound.of_looksAt (h : s.IsSound) (hlooks : s.LooksAt args spec letter u) :
    u.IsSound := by
  cases hlooks with
  | within hletter =>
      obtain ⟨hc, _⟩ := List.getElem?_eq_some_iff.1 hletter
      cases h with
      | atRest hplace => simp [hplace] at hc
      | inCluster hplace hbehind => exact .inCluster hplace (Nat.le_succ_of_le hbehind) hc
  | dash => exact .atRest rfl rfl
  | cluster => exact .inCluster (by simp) (Nat.le_refl 2) (by simp)

theorem IsSound.accept (h : u.IsSound) (letter : Char) (args : List String) (spec : List Char) :
    (u.accept letter args spec).scanner.IsSound := by
  by_cases hmeans : takesValue? spec letter = some true
  · cases hvalue : u.value? args with
    | none =>
        rw [(accept_of_missing hmeans hvalue).2]
        exact .atRest rfl rfl
    | some v =>
        rw [(accept_of_value hmeans hvalue).2]
        exact .atRest rfl rfl
  · rw [(accept_of_plain u args hmeans).2]
    exact h.of_eq (place_advance u) (cursor_advance u)

theorem index_accept (u : Scanner) (letter : Char) (args : List String) (spec : List Char) :
    u.index ≤ (u.accept letter args spec).scanner.index ∧
      (u.accept letter args spec).scanner.index ≤ u.index + 2 := by
  by_cases hmeans : takesValue? spec letter = some true
  · cases hvalue : u.value? args with
    | none => simp [accept_of_missing hmeans hvalue]
    | some v =>
        rw [(accept_of_value hmeans hvalue).2]
        simp only
        split <;> omega
  · rw [(accept_of_plain u args hmeans).2]
    simp only [index_advance]
    split <;> omega

/-- After a letter there is an argument exactly if the letter takes a value and its value is
found; the call then gives the letter back. -/
theorem argument_accept_iff (hnone : u.argument = none) (v : String) :
    (accept u letter args spec).scanner.argument = some v ↔
      (accept u letter args spec).letter = some letter ∧
        takesValue? spec letter = some true ∧ u.value? args = some v := by
  by_cases hmeans : takesValue? spec letter = some true
  · cases hvalue : u.value? args with
    | none => simp [accept_of_missing hmeans hvalue, hnone]
    | some w => simp [accept_of_value hmeans hvalue, hmeans]
  · simp [accept_of_plain u args hmeans, hmeans, argument_advance, hnone]

theorem IsSound.next (h : s.IsSound) (args : List String) (spec : List Char) :
    (s.next args spec).scanner.IsSound := by
  rcases looksAt_or_endsAt s args spec with ⟨letter, u, hlooks⟩ | ⟨i, hends⟩
  · rw [next_of_looksAt hlooks]
    exact (h.of_looksAt hlooks).accept letter args spec
  · rw [next_of_endsAt hends]
    exact .atRest rfl rfl

theorem index_next (s : Scanner) (args : List String) (spec : List Char) :
    s.index ≤ (s.next args spec).scanner.index ∧
      (s.next args spec).scanner.index ≤ s.index + 2 := by
  rcases looksAt_or_endsAt s args spec with ⟨letter, u, hlooks⟩ | ⟨i, hends⟩
  · rw [next_of_looksAt hlooks, ← index_of_looksAt hlooks]
    exact index_accept u letter args spec
  · rw [next_of_endsAt hends]
    cases hends <;> simp [stop, atRest]

/-- A scanner goes on over some arguments as another one does over those behind the first `k`. -/
structure GoesOnAs (k : Nat) (s t : Scanner) : Prop where
  index : s.index = k + t.index
  place : s.place = t.place
  cursor : s.cursor = t.cursor

theorem GoesOnAs.getElem? (h : GoesOnAs k s t) (args : List String) (n : Nat) :
    (args.drop k)[t.index + n]? = args[s.index + n]? := by
  rw [List.getElem?_drop, h.index, Nat.add_assoc]

theorem GoesOnAs.spent (h : GoesOnAs k s t) : s.spent = t.spent := by
  simp only [Scanner.spent, h.place, h.cursor]

theorem GoesOnAs.value? (h : GoesOnAs k s t) (args : List String) :
    s.value? args = t.value? (args.drop k) := by
  simp only [Scanner.value?, h.spent, h.place, h.cursor, h.getElem? args 1]

theorem GoesOnAs.remaining (h : GoesOnAs k s t) (args : List String) :
    s.remaining args = t.remaining (args.drop k) := by
  rw [Scanner.remaining, Scanner.remaining, List.drop_drop, h.index]

theorem GoesOnAs.advance (h : GoesOnAs k s t) : GoesOnAs k s.advance t.advance := by
  refine ⟨?_, by simp [h.place], by simp [h.cursor]⟩
  rw [index_advance, index_advance, h.spent, h.index]
  split <;> omega

/-- What is given back is the same too. -/
structure SameStep (k : Nat) (p q : Step) : Prop where
  letter : p.letter = q.letter
  argument : p.scanner.argument = q.scanner.argument
  goesOnAs : GoesOnAs k p.scanner q.scanner

theorem GoesOnAs.accept (h : GoesOnAs k s t) (hargument : s.argument = t.argument) (letter : Char)
    (args : List String) (spec : List Char) :
    SameStep k (s.accept letter args spec) (t.accept letter (args.drop k) spec) := by
  by_cases hmeans : takesValue? spec letter = some true
  · cases hvalue : s.value? args with
    | none =>
        have hs := accept_of_missing hmeans hvalue
        have ht := accept_of_missing hmeans (h.value? args ▸ hvalue)
        refine ⟨hs.1.trans ht.1.symm, ?_, ?_⟩
        · simp [hs, ht, hargument]
        · rw [hs.2, ht.2]
          exact ⟨by simp [h.index, Nat.add_assoc], rfl, rfl⟩
    | some v =>
        have hs := accept_of_value hmeans hvalue
        have ht := accept_of_value hmeans (h.value? args ▸ hvalue)
        refine ⟨hs.1.trans ht.1.symm, ?_, ?_⟩
        · simp [hs, ht]
        · rw [hs.2, ht.2]
          refine ⟨?_, rfl, rfl⟩
          simp only [h.spent, h.index]
          split <;> omega
  · have hs := accept_of_plain s args hmeans
    have ht := accept_of_plain t (args.drop k) hmeans
    refine ⟨hs.1.trans ht.1.symm, ?_, ?_⟩
    · simp [hs, ht, argument_advance, hargument]
    · rw [hs.2, ht.2]
      exact ⟨h.advance.index, h.advance.place, h.advance.cursor⟩

theorem GoesOnAs.exists_looksAt (h : GoesOnAs k s t)
    (hlooks : t.LooksAt (args.drop k) spec letter u) :
    ∃ u', s.LooksAt args spec letter u' ∧ GoesOnAs k u' u := by
  have htoken := h.getElem? args 0
  cases hlooks with
  | within hletter =>
      refine ⟨_, .within (h.place ▸ h.cursor ▸ hletter), h.index, h.place, ?_⟩
      exact congrArg (· + 1) h.cursor
  | dash hspent ht htext hspec =>
      have hspent' : s.place.length ≤ s.cursor := h.place ▸ h.cursor ▸ hspent
      exact ⟨_, .dash hspent' (htoken ▸ ht) htext hspec, h.index, rfl, rfl⟩
  | cluster hspent ht htext hmark =>
      have hspent' : s.place.length ≤ s.cursor := h.place ▸ h.cursor ▸ hspent
      exact ⟨_, .cluster hspent' (htoken ▸ ht) htext hmark, h.index, rfl, rfl⟩

theorem GoesOnAs.endsAt (h : GoesOnAs k s t) (hends : t.EndsAt (args.drop k) spec i) :
    s.EndsAt args spec (k + i) := by
  have htoken := h.getElem? args 0
  cases hends with
  | mark hspent hmark =>
      rw [← Nat.add_assoc, ← h.index]
      exact .mark (h.place ▸ h.cursor ▸ hspent) (htoken ▸ hmark)
  | operand hspent hstops =>
      rw [← h.index]
      refine .operand (h.place ▸ h.cursor ▸ hspent) fun token ht => hstops token ?_
      exact htoken ▸ ht

theorem GoesOnAs.next (h : GoesOnAs k s t) (args : List String) (spec : List Char) :
    SameStep k (s.next args spec) (t.next (args.drop k) spec) := by
  rcases looksAt_or_endsAt t (args.drop k) spec with ⟨letter, u, hlooks⟩ | ⟨i, hends⟩
  · obtain ⟨u', hlooks', hu⟩ := h.exists_looksAt hlooks
    rw [next_of_looksAt hlooks', next_of_looksAt hlooks]
    refine hu.accept ?_ letter args spec
    rw [argument_of_looksAt hlooks', argument_of_looksAt hlooks]
  · rw [next_of_endsAt (h.endsAt hends), next_of_endsAt hends]
    exact ⟨rfl, rfl, rfl, rfl, rfl⟩

/-- One call: the arguments and the specification that it is made with. -/
structure Call where
  args : List String
  spec : String
  deriving Repr, DecidableEq

/-- The call with the arguments behind the first `k`. -/
def Call.drop (c : Call) (k : Nat) : Call := { c with args := c.args.drop k }

/-- The call finds an operand, or no argument, at this place. -/
def Call.StopsAt (c : Call) (i : Nat) : Prop := Scanner.StopsAt c.args c.spec.toList i

def call (s : Scanner) (c : Call) : Step := s.next c.args c.spec.toList

/-- The scanner after some calls. -/
def after (s : Scanner) (calls : List Call) : Scanner :=
  calls.foldl (fun s c => (s.call c).scanner) s

/-- What a caller sees of a call. -/
structure Seen where
  letter : Option Char
  argument : Option String
  remaining : List String
  deriving Repr, DecidableEq

/-- What is seen of some calls, one after the other. -/
def seen (s : Scanner) : List Call → List Seen
  | [] => []
  | c :: calls =>
    ⟨(s.call c).letter, (s.call c).scanner.argument, (s.call c).scanner.remaining c.args⟩ ::
      seen (s.call c).scanner calls

theorem isSound_after (h : s.IsSound) (calls : List Call) : (s.after calls).IsSound := by
  induction calls generalizing s with
  | nil => exact h
  | cons c calls ih => exact ih (h.next c.args c.spec.toList)

theorem GoesOnAs.seen (h : GoesOnAs k s t) (calls : List Call) :
    s.seen calls = t.seen (calls.map (·.drop k)) := by
  induction calls generalizing s t with
  | nil => rfl
  | cons c calls ih =>
      have hsame : SameStep k (s.call c) (t.call (c.drop k)) := h.next c.args c.spec.toList
      rw [List.map_cons, Scanner.seen, Scanner.seen, ih hsame.goesOnAs, hsame.letter,
        hsame.argument, hsame.goesOnAs.remaining]
      rfl

theorem letter_accept_ne_none (u : Scanner) (letter : Char) (args : List String)
    (spec : List Char) : (u.accept letter args spec).letter ≠ none := by
  by_cases hmeans : takesValue? spec letter = some true
  · cases hvalue : u.value? args with
    | none => simp [accept_of_missing hmeans hvalue]
    | some v => simp [accept_of_value hmeans hvalue]
  · simp [accept_of_plain u args hmeans]

section Calls

variable {c : Call}

theorem exists_looksAt_of_letter_ne_none (h : (s.call c).letter ≠ none) :
    ∃ letter u, s.LooksAt c.args c.spec.toList letter u ∧
      s.call c = u.accept letter c.args c.spec.toList := by
  rcases looksAt_or_endsAt s c.args c.spec.toList with ⟨letter, u, hlooks⟩ | ⟨i, hends⟩
  · exact ⟨letter, u, hlooks, next_of_looksAt hlooks⟩
  · exact absurd (congrArg Step.letter (next_of_endsAt hends)) h

theorem exists_endsAt_of_letter_eq_none (h : (s.call c).letter = none) :
    ∃ i, s.EndsAt c.args c.spec.toList i ∧
      s.call c = stop { s with argument := none, index := i } := by
  rcases looksAt_or_endsAt s c.args c.spec.toList with ⟨letter, u, hlooks⟩ | ⟨i, hends⟩
  · have hletter := congrArg Step.letter (next_of_looksAt hlooks)
    exact absurd (hletter.symm.trans h) (letter_accept_ne_none u letter _ _)
  · exact ⟨i, hends, next_of_endsAt hends⟩

theorem argument_call_iff (s : Scanner) (c : Call) (v : String) :
    (s.call c).scanner.argument = some v ↔
      ∃ letter u, s.LooksAt c.args c.spec.toList letter u ∧ (s.call c).letter = some letter ∧
        takesValue? c.spec.toList letter = some true ∧ u.value? c.args = some v := by
  constructor
  · intro hv
    have hne : (s.call c).letter ≠ none := by
      intro hnone
      obtain ⟨i, _, hstop⟩ := exists_endsAt_of_letter_eq_none hnone
      rw [hstop] at hv
      cases hv
    obtain ⟨letter, u, hlooks, haccept⟩ := exists_looksAt_of_letter_ne_none hne
    rw [haccept] at hv ⊢
    exact ⟨letter, u, hlooks, (argument_accept_iff (argument_of_looksAt hlooks) v).1 hv⟩
  · rintro ⟨letter, u, hlooks, hfound⟩
    have haccept : s.call c = u.accept letter c.args c.spec.toList := next_of_looksAt hlooks
    rw [haccept] at hfound ⊢
    exact (argument_accept_iff (argument_of_looksAt hlooks) v).2 hfound

/-- After a call that ended the options a scanner is as good as new. -/
theorem seen_of_letter_eq_none (h : (s.call c).letter = none) (quiet : Bool) (later : List Call) :
    (s.call c).scanner.seen later =
      seen { quiet } (later.map (·.drop (s.call c).scanner.index)) := by
  obtain ⟨i, _, hstop⟩ := exists_endsAt_of_letter_eq_none h
  rw [hstop]
  have hnew : GoesOnAs i (stop { s with argument := none, index := i }).scanner { quiet } :=
    ⟨(Nat.add_zero i).symm, rfl, rfl⟩
  exact hnew.seen later

/-- Where there is an operand, or no argument, calls end the options again and again. -/
theorem seen_of_stopsAt (hspent : s.place.length ≤ s.cursor) {later : List Call}
    (hstops : ∀ d ∈ later, d.StopsAt s.index) :
    s.seen later = later.map fun d => ⟨none, none, d.args.drop s.index⟩ := by
  induction later generalizing s with
  | nil => rfl
  | cons d later ih =>
      rw [List.forall_mem_cons] at hstops
      have hstop : s.call d = stop { s with argument := none } :=
        next_of_endsAt (.operand hspent hstops.1)
      have hlater := ih (s := (stop { s with argument := none }).scanner) (Nat.zero_le _) hstops.2
      rw [seen, List.map_cons, hstop, hlater]
      rfl

end Calls

/-- What holds of a call of a scanner that may have been used in any way before. -/
structure UsedSoundly (s : Scanner) (c : Call) : Prop where
  sound : s.IsSound
  /-- A letter is looked at in its cluster, and the cursor is then not beyond the end of the cluster,
  so that both are read within their bounds. -/
  looked : (s.call c).letter ≠ none → ∃ letter u, s.LooksAt c.args c.spec.toList letter u ∧
    u.IsSound ∧ s.call c = u.accept letter c.args c.spec.toList
  index_le : s.index ≤ (s.call c).scanner.index
  index_le_add_two : (s.call c).scanner.index ≤ s.index + 2
  /-- There is an argument exactly if the letter takes a value, the value is found, and the letter
  is given back. -/
  argument_iff : ∀ v, (s.call c).scanner.argument = some v ↔
    ∃ letter u, s.LooksAt c.args c.spec.toList letter u ∧ (s.call c).letter = some letter ∧
      takesValue? c.spec.toList letter = some true ∧ u.value? c.args = some v
  /-- After the end of the options later calls are those of a new scanner, for the arguments from
  the index on. -/
  asNew : (s.call c).letter = none → ∀ quiet later,
    (s.call c).scanner.seen later =
      seen { quiet } (later.map (·.drop (s.call c).scanner.index))
  /-- The end mark is used up, and an operand or the end of the arguments stays where it is. -/
  ended : (s.call c).letter = none →
    (c.args[s.index]? = some "--" ∧ (s.call c).scanner.index = s.index + 1) ∨
      (c.StopsAt s.index ∧ (s.call c).scanner.index = s.index ∧
        ∀ later : List Call, (∀ d ∈ later, d.StopsAt s.index) →
          (s.call c).scanner.seen later = later.map fun d => ⟨none, none, d.args.drop s.index⟩)

/-- After any calls, each with its own arguments and its own specification, the next call finds
the scanner sound, moves it on by at most two arguments, and gives an argument exactly to a letter
that takes one. After the end of the options it is as good as new: an operand ends them for good,
and an end mark only those before it. -/
theorem usedSoundly_after (quiet : Bool) (calls : List Call) (c : Call) :
    UsedSoundly (({ quiet } : Scanner).after calls) c := by
  have hsound : (({ quiet } : Scanner).after calls).IsSound :=
    isSound_after (.atRest rfl rfl) calls
  generalize ({ quiet } : Scanner).after calls = s at hsound
  have hindex := index_next s c.args c.spec.toList
  refine ⟨hsound, fun hne => ?_, hindex.1, hindex.2, argument_call_iff s c,
    seen_of_letter_eq_none, fun hnone => ?_⟩
  · obtain ⟨letter, u, hlooks, haccept⟩ := exists_looksAt_of_letter_ne_none hne
    exact ⟨letter, u, hlooks, hsound.of_looksAt hlooks, haccept⟩
  · obtain ⟨i, hends, hstop⟩ := exists_endsAt_of_letter_eq_none hnone
    rw [hstop]
    cases hends with
    | mark _ hmark => exact .inl ⟨hmark, rfl⟩
    | operand _ hstops =>
        exact .inr ⟨hstops, rfl, fun later hlater => seen_of_stopsAt (Nat.zero_le _) hlater⟩

/-- Other arguments in the middle of a cluster, where the next of them becomes a value, and options
behind an end mark. -/
example :
    let args := ["-x", "v", "--", "-a", "w"]
    ({} : Scanner).seen
        [⟨["-ab", "c"], "ab"⟩, ⟨args, "b:"⟩, ⟨args, "a"⟩, ⟨args, "a"⟩, ⟨args, "a"⟩] =
      [⟨some 'a', none, ["-ab", "c"]⟩, ⟨some 'b', some "v", ["--", "-a", "w"]⟩,
        ⟨none, none, ["-a", "w"]⟩, ⟨some 'a', none, ["w"]⟩, ⟨none, none, ["w"]⟩] := by
  decide

end Scanner

end RemoteConsole
