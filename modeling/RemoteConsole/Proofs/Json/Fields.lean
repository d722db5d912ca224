import Mathlib.Data.List.Pairwise
import Mathlib.Data.List.Perm.Basic
import RemoteConsole.Proofs.Json.Kept

/-!
# The fields of a record in any order

The fields of an object are read one by one (`RecordReader.readFields_cons_eq`). If the readers
of a record's fields do not get in each other's way, the order of the fields does not matter to
what the object is read as (`RecordReader.readFields_perm`), and fields of other names may stand
anywhere among them (`RecordReader.readFields_of_perm`). The items of an array are read as the
fields in order (`RecordReader.read_array`).
-/

namespace RemoteConsole

namespace Entries

variable {κ β : Type} [DecidableEq κ] {k : κ} {b : β} {e : Entries κ β}

theorem mem_of_get? (h : get? k e = some b) : (k, b) ∈ e := by
  induction e with
  | nil => simp at h
  | cons p rest ih =>
      obtain ⟨k', b'⟩ := p
      unfold get? at h
      split at h
      · rename_i heq
        cases h
        simp [heq]
      · exact List.mem_cons_of_mem _ (ih h)

theorem get?_eq_none_of_not_mem (h : k ∉ keys e) : get? k e = none :=
  Option.not_isSome_iff_eq_none.1 (mt get?_isSome_iff.1 h)

end Entries

namespace Json

mutual

/-- What a value is written as is JSON throughout. -/
theorem isSound_toNode : ∀ v : Json, v.toNode.isSound = true
  | .null => rfl
  | .bool _ => rfl
  | .number _ => rfl
  | .string _ => rfl
  | .array items => by simp [toNode, Node.isSound, areSound_toNodes items]
  | .object fields => by simp [toNode, Node.isSound, fieldsAreSound_fieldsToNodes fields]

theorem areSound_toNodes : ∀ items : List Json, Node.areSound (toNodes items) = true
  | [] => rfl
  | v :: r => by simp [toNodes, Node.areSound, isSound_toNode v, areSound_toNodes r]

theorem fieldsAreSound_fieldsToNodes : ∀ fields : List (String × Json),
    Node.fieldsAreSound (fieldsToNodes fields) = true
  | [] => rfl
  | (_, v) :: r => by
      simp [fieldsToNodes, Node.fieldsAreSound, isSound_toNode v, fieldsAreSound_fieldsToNodes r]

end

/-- An object can be kept if the values of its fields can. -/
theorem isSome_value?_object {levels : Nat} {fields : List (String × Json)}
    (h : ∀ f ∈ fields, (f.2.toNode.value? levels).isSome = true) :
    ((object fields).toNode.value? (levels + 1)).isSome = true := by
  have hfields : (Node.fieldValues? levels (fieldsToNodes fields)).isSome = true := by
    induction fields with
    | nil => rfl
    | cons f rest ih =>
        obtain ⟨k, v⟩ := f
        obtain ⟨w, hw⟩ := Option.isSome_iff_exists.1 (h (k, v) (by simp))
        obtain ⟨ws, hws⟩ := Option.isSome_iff_exists.1 (ih fun g hg => h g (by simp [hg]))
        simp [fieldsToNodes, Node.fieldValues?, text?_pieces, hw, hws]
  simpa [toNode, Node.value?] using hfields

/-- Where two fields can be read one after the other, they can be read the other way round, with
the same outcome. -/
def FieldReader.Commutes {σ : Type} (f g : FieldReader σ) : Prop :=
  ∀ levels m n s s', (f levels m s).bind (g levels n) = .ok s' ↔
    (g levels n s).bind (f levels m) = .ok s'

theorem FieldReader.Commutes.symm {σ : Type} {f g : FieldReader σ} (h : f.Commutes g) :
    g.Commutes f :=
  fun levels m n s s' => (h levels n m s s').symm

section Once

variable {σ β γ : Type} {get : σ → Option β} {set : σ → β → σ} {r : Reader β}
  {get' : σ → Option γ} {set' : σ → γ → σ} {r' : Reader γ}

theorem bind_eq_ok_iff {ε : Type} {x : Except ε β} {f : β → Except ε γ} {c : γ} :
    x.bind f = .ok c ↔ ∃ b, x = .ok b ∧ f b = .ok c := by
  cases x <;> simp [Except.bind]

theorem once_eq_ok_iff {levels : Nat} {n : Node} {s s' : σ} :
    once get set r levels n s = .ok s' ↔ get s = none ∧ ∃ b, r levels n = .ok b ∧ set s b = s' := by
  unfold once
  cases hs : get s <;> cases hr : r levels n <;> simp [Except.map]

/-- Two fields that are kept apart are read in either order. -/
theorem once_commutes (hget : ∀ s b, get' (set s b) = get' s) (hget' : ∀ s c, get (set' s c) = get s)
    (hset : ∀ s b c, set' (set s b) c = set (set' s c) b) :
    FieldReader.Commutes (once get set r) (once get' set' r') := by
  intro levels m n s s'
  simp only [bind_eq_ok_iff, once_eq_ok_iff]
  constructor
  · rintro ⟨_, ⟨hs, b, hb, rfl⟩, hs', c, hc, rfl⟩
    rw [hget] at hs'
    exact ⟨_, ⟨hs', c, hc, rfl⟩, by rwa [hget'], b, hb, (hset s b c).symm⟩
  · rintro ⟨_, ⟨hs', c, hc, rfl⟩, hs, b, hb, rfl⟩
    rw [hget'] at hs
    exact ⟨_, ⟨hs, b, hb, rfl⟩, by rwa [hget], c, hc, hset s b c⟩

/-- A field is not read twice, so its two readings may change places. -/
theorem once_commutes_self (hget : ∀ s b, (get (set s b)).isSome = true) :
    FieldReader.Commutes (once get set r) (once get set r) := by
  have htwice : ∀ levels m n s s',
      ¬ ((once get set r levels m s).bind (once get set r levels n) = .ok s') := by
    intro levels m n s s' h
    simp only [bind_eq_ok_iff, once_eq_ok_iff] at h
    obtain ⟨_, ⟨_, b, _, rfl⟩, hnone, _⟩ := h
    simpa [hnone] using hget s b
  intro levels m n s s'
  exact ⟨fun h => absurd h (htwice levels m n s s'), fun h => absurd h (htwice levels n m s s')⟩

end Once

/-- Pass over a field whose value is JSON. -/
def FieldReader.skip {σ : Type} : FieldReader σ :=
  fun _ n s => if n.isSound then .ok s else .error .malformed

/-- Give up at a field whose name is no text. -/
def FieldReader.refuse {σ : Type} : FieldReader σ := fun _ _ _ => .error .malformed

theorem FieldReader.skip_commutes {σ : Type} (f : FieldReader σ) :
    FieldReader.Commutes .skip f := by
  intro levels m n s s'
  cases hsound : m.isSound <;> simp [skip, bind_eq_ok_iff, hsound]

theorem FieldReader.refuse_commutes {σ : Type} (f : FieldReader σ) :
    FieldReader.Commutes .refuse f := by
  intro levels m n s s'
  simp [refuse, bind_eq_ok_iff]

namespace RecordReader

variable {σ α : Type} {r : RecordReader σ α} {levels : Nat} {s s' : σ}

/-- What reads a field of the given name. -/
def fieldReader (r : RecordReader σ α) (key : List Piece) : FieldReader σ :=
  match Piece.text? key with
  | none => .refuse
  | some k => (Entries.get? (String.ofList k) r.fields).getD .skip

theorem readFields_cons_eq (f : List Piece × Node) (rest : List (List Piece × Node)) :
    r.readFields levels (f :: rest) s
      = (r.fieldReader f.1 levels f.2 s).bind (r.readFields levels rest) := by
  simp only [readFields, fieldReader]
  cases Piece.text? f.1 with
  | none => rfl
  | some k =>
      simp only
      cases Entries.get? (String.ofList k) r.fields with
      | some read => rfl
      | none => cases hsound : f.2.isSound <;> simp [FieldReader.skip, hsound, Except.bind]

theorem fieldReader_cases (r : RecordReader σ α) (key : List Piece) :
    r.fieldReader key = .refuse ∨ r.fieldReader key = .skip ∨
      ∃ f ∈ r.fields, r.fieldReader key = f.2 := by
  unfold fieldReader
  cases Piece.text? key with
  | none => exact .inl rfl
  | some k =>
      cases hget : Entries.get? (String.ofList k) r.fields with
      | none => simp [hget]
      | some read => exact .inr (.inr ⟨_, Entries.mem_of_get? hget, by simp [hget]⟩)

/-- The readers of a record's fields do not get in each other's way. -/
def AnyOrder (r : RecordReader σ α) : Prop :=
  ∀ f ∈ r.fields, ∀ g ∈ r.fields, f.2.Commutes g.2

theorem anyOrder_of_pairwise (hself : ∀ f ∈ r.fields, f.2.Commutes f.2)
    (h : r.fields.Pairwise fun f g => f.2.Commutes g.2) : r.AnyOrder := by
  have hsymm : Std.Symm fun f g : String × FieldReader σ => f.2.Commutes g.2 :=
    ⟨fun _ _ => FieldReader.Commutes.symm⟩
  exact fun _ hf _ hg => h.forall_of_forall hself hf hg

theorem AnyOrder.fieldReader_commutes (h : r.AnyOrder) (key key' : List Piece) :
    (r.fieldReader key).Commutes (r.fieldReader key') := by
  rcases r.fieldReader_cases key with hf | hf | ⟨f, hmem, hf⟩
  · rw [hf]
    exact FieldReader.refuse_commutes _
  · rw [hf]
    exact FieldReader.skip_commutes _
  · rcases r.fieldReader_cases key' with hg | hg | ⟨g, hmem', hg⟩
    · rw [hg]
      exact (FieldReader.refuse_commutes _).symm
    · rw [hg]
      exact (FieldReader.skip_commutes _).symm
    · rw [hf, hg]
      exact h f hmem g hmem'

/-- The order of the fields does not matter. -/
theorem readFields_perm (h : r.AnyOrder) {fields fields' : List (List Piece × Node)}
    (hp : fields.Perm fields') (hread : r.readFields levels fields s = .ok s') :
    r.readFields levels fields' s = .ok s' := by
  induction hp generalizing s with
  | nil => exact hread
  | cons f _ ih =>
      rw [readFields_cons_eq, bind_eq_ok_iff] at hread ⊢
      obtain ⟨t, hf, hrest⟩ := hread
      exact ⟨t, hf, ih hrest⟩
  | swap f g rest =>
      simp only [readFields_cons_eq, bind_eq_ok_iff] at hread ⊢
      obtain ⟨t, hg, u, hf, hrest⟩ := hread
      have hpair := (h.fieldReader_commutes g.1 f.1 levels g.2 f.2 s u).1
        (bind_eq_ok_iff.2 ⟨t, hg, hf⟩)
      obtain ⟨t', hf', hg'⟩ := bind_eq_ok_iff.1 hpair
      exact ⟨t', hf', u, hg', hrest⟩
  | trans _ _ ih ih' => exact ih' (ih hread)

/-- Fields of other names are skipped. -/
theorem readFields_append_of_get?_eq_none {extra : List (String × Json)}
    (hextra : ∀ f ∈ extra, Entries.get? f.1 r.fields = none) (fields : List (String × Json)) :
    r.readFields levels (fieldsToNodes (extra ++ fields)) s
      = r.readFields levels (fieldsToNodes fields) s := by
  induction extra with
  | nil => rfl
  | cons f extra ih =>
      obtain ⟨k, v⟩ := f
      have hk : Entries.get? k r.fields = none := hextra (k, v) (by simp)
      rw [← ih fun g hg => hextra g (by simp [hg]), List.cons_append, fieldsToNodes, readFields,
        text?_pieces]
      simp [hk, isSound_toNode]

theorem fieldsToNodes_eq_map (fields : List (String × Json)) :
    fieldsToNodes fields = fields.map fun f => (pieces f.1, f.2.toNode) := by
  induction fields with
  | nil => rfl
  | cons f rest ih =>
      obtain ⟨k, v⟩ := f
      rw [fieldsToNodes, ih, List.map_cons]

/-- Fields are read in any order, with fields of other names anywhere among them. -/
theorem readFields_of_perm (h : r.AnyOrder) {fields known extra : List (String × Json)}
    (hp : fields.Perm (extra ++ known))
    (hextra : ∀ f ∈ extra, Entries.get? f.1 r.fields = none)
    (hread : r.readFields levels (fieldsToNodes known) s = .ok s') :
    r.readFields levels (fieldsToNodes fields) s = .ok s' := by
  rw [← readFields_append_of_get?_eq_none hextra] at hread
  refine readFields_perm h ?_ hread
  rw [fieldsToNodes_eq_map, fieldsToNodes_eq_map]
  exact (hp.map _).symm

/-- An item of an array is read by the reader of the field in its place. -/
theorem readItems_cons {name : String} {read : FieldReader σ} {v : Json}
    (hv : read levels v.toNode s = .ok s') (fields : List (String × FieldReader σ))
    (items : List Json) :
    readItems levels ((name, read) :: fields) (toNodes (v :: items)) s
      = readItems levels fields (toNodes items) s' := by
  rw [toNodes, readItems, hv]
  rfl

theorem length_toNodes (items : List Json) : (toNodes items).length = items.length := by
  induction items with
  | nil => rfl
  | cons v items ih => rw [toNodes, List.length_cons, List.length_cons, ih]

/-- An array is read as its items are, if it may be as short as it is. -/
theorem read_array (r : RecordReader σ α) {items : List Json} {a : α}
    (hitems : readItems levels r.fields (toNodes items) r.start = .ok (s, []))
    (hshort : r.finishShort items.length s = .ok a) (hfinish : r.finish s = .ok a) :
    r.read (levels + 1) (Json.array items).toNode = .ok a := by
  simp [read, toNode, hitems, length_toNodes, hshort, hfinish, bind, Except.bind]

end RecordReader

end Json

end RemoteConsole
