/-!
# Entries kept in key order

A list of pairs in which each key stands once and the keys ascend. `put` adds an
entry at its place or replaces the entry of an equal key, so the last value put
under a key is the one that counts: `get?_put`.
-/

namespace RemoteConsole

/-- Pairs of a key and a value, in ascending order of the keys. -/
abbrev Entries (κ α : Type) := List (κ × α)

namespace Entries

variable {κ α : Type} [LT κ] [DecidableLT κ] [DecidableEq κ]

/-- Add an entry, or replace the one with the same key. -/
def put (k : κ) (v : α) : Entries κ α → Entries κ α
  | [] => [(k, v)]
  | (k', v') :: r =>
    if k = k' then (k, v) :: r
    else if k < k' then (k, v) :: (k', v') :: r
    else (k', v') :: put k v r

omit [LT κ] [DecidableLT κ] in
def get? (k : κ) : Entries κ α → Option α
  | [] => none
  | (k', v) :: r => if k = k' then some v else get? k r

/-- Put all pairs of a list one after the other. -/
def ofList (l : List (κ × α)) : Entries κ α :=
  l.foldl (fun e p => put p.1 p.2 e) []

omit [LT κ] [DecidableLT κ] in
@[simp] theorem get?_nil (k : κ) : get? k ([] : Entries κ α) = none := rfl

def keys (e : Entries κ α) : List κ := e.map (·.1)

theorem get?_put (e : Entries κ α) (k k' : κ) (v : α) :
    get? k' (put k v e) = if k' = k then some v else get? k' e := by
  induction e with
  | nil => simp [put, get?]
  | cons p r ih =>
    obtain ⟨a, b⟩ := p
    unfold put
    split
    · rename_i h
      subst h
      by_cases h' : k' = k <;> simp [get?, h']
    · rename_i h
      split
      · by_cases h' : k' = k <;> simp [get?, h']
      · by_cases h' : k' = a
        · subst h'; simp [get?, Ne.symm h]
        · simp [get?, h', ih]

theorem mem_keys_put {e : Entries κ α} {k k' : κ} {v : α} :
    k' ∈ keys (put k v e) ↔ k' = k ∨ k' ∈ keys e := by
  induction e with
  | nil => simp [put, keys]
  | cons p r ih =>
    obtain ⟨a, b⟩ := p
    unfold put
    split
    · rename_i h; subst h; simp [keys]
    · split
      · simp [keys]
      · simp only [keys, List.map_cons, List.mem_cons] at ih ⊢
        rw [ih]
        grind

omit [LT κ] [DecidableLT κ] in
theorem get?_isSome_iff {e : Entries κ α} {k : κ} : (get? k e).isSome ↔ k ∈ keys e := by
  induction e with
  | nil => simp [keys]
  | cons p r ih =>
    obtain ⟨a, b⟩ := p
    by_cases h : k = a
    · simp [get?, keys, h]
    · simp only [keys] at ih
      simp [get?, keys, h, ih]

end Entries

end RemoteConsole
