import Mathlib.Data.List.Destutter
import RemoteConsole.Proofs.Terminal.Turns

/-!
# What a history holds

If nothing were ever dropped, a history would hold the lines it was given without the blanks at
their ends, the blank ones left out, and only one of several equal ones in a row:
`History.taken`. A history with a limit holds the last of these. One more line keeps this up
(`History.Follows.record`), because dropping and comparing are done at opposite ends: as long as
anything is held, the line that the next one is compared with is held
(`History.Follows.last?_eq`). The main statement is `History.entries_run`.
-/

namespace RemoteConsole

namespace History

/-- The lines that are taken in when some lines are recorded one after the other. -/
def taken (lines : List String) : List String :=
  ((lines.map trimBlank).filter (· ≠ "")).destutter (· ≠ ·)

/-- A new history after some lines are recorded one after the other. -/
def run (limit : Nat) (lines : List String) : History := lines.foldl record { limit }

/-- The line that is compared with the next one is the last one, whether or not it was taken in. -/
theorem getLast?_destutter' (a : String) (l : List String) :
    (l.destutter' (· ≠ ·) a).getLast? = (a :: l).getLast? := by
  induction l generalizing a with
  | nil => rfl
  | cons b l ih =>
      by_cases h : a = b
      · subst h
        rw [List.destutter'_cons_neg _ (by simp), ih, List.getLast?_cons_cons]
      · obtain ⟨c, r, hkept⟩ := List.exists_cons_of_ne_nil (l.destutter'_ne_nil (· ≠ ·) (a := b))
        rw [List.destutter'_cons_pos _ h, List.getLast?_cons_cons, ← ih b, hkept,
          List.getLast?_cons_cons]

theorem destutter'_append_singleton (a x : String) (l : List String) :
    (l ++ [x]).destutter' (· ≠ ·) a =
      l.destutter' (· ≠ ·) a ++ if (a :: l).getLast? = some x then [] else [x] := by
  induction l generalizing a with
  | nil => by_cases h : a = x <;> simp [h]
  | cons b l ih =>
      rw [List.cons_append, List.getLast?_cons_cons]
      by_cases h : a = b
      · subst h
        rw [List.destutter'_cons_neg _ (by simp), List.destutter'_cons_neg _ (by simp), ih]
      · rw [List.destutter'_cons_pos _ h, List.destutter'_cons_pos _ h, ih, List.cons_append]

/-- One more line is taken in unless it equals the line taken in before it. -/
theorem destutter_append_singleton (l : List String) (x : String) :
    (l ++ [x]).destutter (· ≠ ·) =
      l.destutter (· ≠ ·) ++ if (l.destutter (· ≠ ·)).getLast? = some x then [] else [x] := by
  cases l with
  | nil => simp
  | cons a l =>
      rw [List.cons_append, List.destutter_cons', List.destutter_cons', destutter'_append_singleton,
        getLast?_destutter']

theorem taken_append_singleton (lines : List String) (line : String) :
    taken (lines ++ [line]) =
      taken lines ++
        if trimBlank line = "" ∨ (taken lines).getLast? = some (trimBlank line) then []
        else [trimBlank line] := by
  by_cases h : trimBlank line = ""
  · simp [taken, h]
  · simp [taken, h, destutter_append_singleton]

theorem rtake_rtake_of_le (l : List String) {m n : Nat} (h : m ≤ n) :
    (l.rtake n).rtake m = l.rtake m := by
  simp only [List.rtake_eq_reverse_take_reverse, List.reverse_reverse, List.take_take,
    Nat.min_eq_left h]

/-- To drop the surplus before and after a line is added is to drop it once, after that. -/
theorem rtake_rtake_append_singleton (l : List String) (x : String) (n : Nat) :
    (l.rtake n ++ [x]).rtake n = (l ++ [x]).rtake n := by
  cases n with
  | zero => rw [List.rtake_zero, List.rtake_zero]
  | succ m =>
      rw [List.rtake_concat_succ, List.rtake_concat_succ, rtake_rtake_of_le l m.le_succ]

theorem getLast?_rtake (l : List String) {n : Nat} (h : n ≠ 0) :
    (l.rtake n).getLast? = l.getLast? := by
  obtain ⟨m, rfl⟩ := Nat.exists_eq_succ_of_ne_zero h
  rcases List.eq_nil_or_concat l with rfl | ⟨r, x, rfl⟩
  · rw [List.rtake_nil]
  · rw [List.concat_eq_append, List.rtake_concat_succ, List.getLast?_concat, List.getLast?_concat]

variable {h : History} {lines : List String}

/-- A history holds the last of the lines that were taken in. -/
def Follows (h : History) (lines : List String) : Prop := h.entries = (taken lines).rtake h.limit

theorem Follows.last?_eq (hh : h.Follows lines) (hlimit : h.limit ≠ 0) :
    h.last? = (taken lines).getLast? := by
  rw [last?, hh, getLast?_rtake _ hlimit]

/-- A history that keeps anything accepts the lines that are to be taken in. -/
theorem Follows.taken_append_singleton (hh : h.Follows lines) (hlimit : h.limit ≠ 0)
    (line : String) :
    taken (lines ++ [line]) = taken lines ++ if h.accepts line then [trimBlank line] else [] := by
  rw [History.taken_append_singleton, ← hh.last?_eq hlimit, List.append_cancel_left_eq]
  by_cases hblank : trimBlank line = ""
  · simp [accepts, hblank]
  · by_cases hlast : h.last? = some (trimBlank line) <;> simp [accepts, hlimit, hblank, hlast]

theorem Follows.accepts_iff (hh : h.Follows lines) (line : String) :
    h.accepts line = true ↔
      h.limit ≠ 0 ∧ taken (lines ++ [line]) = taken lines ++ [trimBlank line] := by
  by_cases hlimit : h.limit = 0
  · simp [accepts, hlimit]
  · rw [hh.taken_append_singleton hlimit, List.append_cancel_left_eq]
    simp [hlimit]

theorem limit_record (h : History) (line : String) : (h.record line).limit = h.limit := by
  rw [record]
  split <;> rfl

/-- One more line is recorded as it should be. -/
theorem Follows.record (hh : h.Follows lines) (line : String) :
    (h.record line).Follows (lines ++ [line]) := by
  rw [Follows, limit_record, History.record]
  by_cases hlimit : h.limit = 0
  · have hrefused : h.accepts line = false := by simp [accepts, hlimit]
    rw [hrefused, if_neg Bool.false_ne_true, hh, hlimit, List.rtake_zero, List.rtake_zero]
  · rw [hh.taken_append_singleton hlimit]
    cases h.accepts line with
    | true =>
        rw [if_pos rfl, if_pos rfl, ← rtake_rtake_append_singleton, ← hh]
        rfl
    | false =>
        rw [if_neg Bool.false_ne_true, if_neg Bool.false_ne_true, List.append_nil]
        exact hh

theorem run_append_singleton (limit : Nat) (lines : List String) (line : String) :
    run limit (lines ++ [line]) = (run limit lines).record line := by
  rw [run, List.foldl_append, List.foldl_cons, List.foldl_nil, ← run]

theorem limit_run (limit : Nat) (lines : List String) : (run limit lines).limit = limit := by
  induction lines using List.reverseRecOn with
  | nil => rfl
  | append_singleton lines line ih => rw [run_append_singleton, limit_record, ih]

theorem follows_run (limit : Nat) (lines : List String) : (run limit lines).Follows lines := by
  induction lines using List.reverseRecOn with
  | nil => exact (List.rtake_nil limit).symm
  | append_singleton lines line ih =>
      rw [run_append_singleton]
      exact ih.record line

theorem of_mem_taken {line : String} (h : line ∈ taken lines) :
    line ≠ "" ∧ trimBlank line = line := by
  have hmem := (List.destutter_sublist _ _).mem h
  obtain ⟨⟨text, _, rfl⟩, hne⟩ := by simpa using hmem
  exact ⟨by simpa using hne, trimBlank_trimBlank text⟩

/-- A history holds the last of the lines that are taken in, as many as its limit allows. A line
is stored if and only if the limit is positive and the line is one more to be taken in. So at
most `limit` lines are held, no two equal ones side by side, and none that is blank or has a
blank at an end. -/
theorem entries_run (limit : Nat) (lines : List String) :
    (run limit lines).entries = (taken lines).rtake limit ∧
      (∀ line, (run limit lines).accepts line = true ↔
        0 < limit ∧ taken (lines ++ [line]) = taken lines ++ [trimBlank line]) ∧
      (run limit lines).entries.length ≤ limit ∧
      (run limit lines).entries.IsChain (· ≠ ·) ∧
      ∀ entry ∈ (run limit lines).entries, entry ≠ "" ∧ trimBlank entry = entry := by
  have hfollows := follows_run limit lines
  have hentries : (run limit lines).entries = (taken lines).rtake limit := by
    rw [hfollows, limit_run]
  have hsuffix : (taken lines).rtake limit <:+ taken lines := List.drop_suffix _ _
  refine ⟨hentries, ?_, ?_, ?_, ?_⟩
  · intro line
    rw [hfollows.accepts_iff, limit_run, Nat.pos_iff_ne_zero]
  · rw [hentries, List.rtake, List.length_drop]
    omega
  · rw [hentries]
    exact (List.isChain_destutter _ _).suffix hsuffix
  · intro entry hentry
    rw [hentries] at hentry
    exact of_mem_taken (hsuffix.mem hentry)

end History

end RemoteConsole
