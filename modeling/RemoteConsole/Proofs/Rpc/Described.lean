import RemoteConsole.Proofs.Json.Fields
import RemoteConsole.Rpc.Description

/-!
# What a description says

A peer describes itself by an object, or by a string that holds the text of one. What an object
says is `Description.Describes`: each name that counts is given once, with a value of the right
kind, or left out if it may be, and other names do not matter. An object is read as what it says
(`Description.read_object_iff`), because its fields are read into slots that are filled at most
once each (`Description.readFields_iff`). The main statement is `Description.ofResult_both_forms`:
both forms are read as what the object says, and fail alike if it says nothing.
-/

namespace RemoteConsole

namespace Json

/-- The values that the fields of an object give under a name. -/
def given (key : String) (fields : List (String × Json)) : List Json :=
  (fields.filter (·.1 = key)).map (·.2)

@[simp] theorem given_nil (key : String) : given key [] = [] := rfl

theorem given_cons (key k : String) (v : Json) (rest : List (String × Json)) :
    given key ((k, v) :: rest) = if k = key then v :: given key rest else given key rest := by
  by_cases h : k = key <;> simp [given, h]

/-- What is known of a field before and after values are given for it: nothing changes without
one, and one is read if nothing was known. -/
inductive Fills {β : Type} (r : Reader β) (levels : Nat) : Option β → List Json → Option β → Prop
  | absent (known : Option β) : Fills r levels known [] known
  | once {v : Json} {b : β} (h : r levels v.toNode = .ok b) : Fills r levels none [v] (some b)

section Fills

variable {β : Type} {r : Reader β} {levels : Nat} {known known' : Option β}

theorem fills_nil_iff : Fills r levels known [] known' ↔ known' = known := by
  constructor
  · rintro ⟨⟩
    rfl
  · rintro rfl
    exact .absent known'

theorem fills_cons_iff {v : Json} {vs : List Json} :
    Fills r levels known (v :: vs) known' ↔
      known = none ∧ ∃ b, r levels v.toNode = .ok b ∧ Fills r levels (some b) vs known' := by
  constructor
  · rintro (_ | ⟨h⟩)
    exact ⟨rfl, _, h, .absent _⟩
  · rintro ⟨rfl, b, h, ⟨⟩⟩
    exact .once h

end Fills

namespace Reader

/-- Only a string is read as a string. -/
theorem string_toNode_eq_ok_iff {levels : Nat} {v : Json} {s : String} :
    Reader.string levels v.toNode = .ok s ↔ v = .string s := by
  constructor
  · intro h
    cases v with
    | string t =>
        rw [string_toNode] at h
        rw [Except.ok.inj h]
    | _ => cases h
  · rintro rfl
    exact string_toNode levels s

/-- If only what is written for an item is read as that item, then only what is written for a
list is read as that list. -/
theorem list_toNode_eq_ok_iff {α : Type} {r : Reader α} {levels : Nat} {write : α → Json}
    (h : ∀ v a, r levels v.toNode = .ok a ↔ v = write a) {v : Json} {l : List α} :
    list r (levels + 1) v.toNode = .ok l ↔ v = .array (l.map write) := by
  constructor
  · intro hread
    cases v with
    | array items =>
        have hitems : ∀ (items : List Json) (l : List α),
            (toNodes items).mapM (r levels) = .ok l → items = l.map write := by
          intro items
          induction items with
          | nil =>
              rintro l ⟨⟩
              rfl
          | cons v items ih =>
              intro l hmap
              rw [toNodes, List.mapM_cons] at hmap
              obtain ⟨a, ha, hrest⟩ := bind_eq_ok_iff.1 hmap
              obtain ⟨as, has, hl⟩ := bind_eq_ok_iff.1 hrest
              cases hl
              rw [List.map_cons, (h v a).1 ha, ih as has]
        simp only [list, toNode, Nat.add_one_ne_zero, if_false, if_true, Nat.add_sub_cancel]
          at hread
        obtain ⟨as, has, hl⟩ := bind_eq_ok_iff.1 hread
        cases hl
        rw [hitems items l has]
    | _ => cases hread
  · rintro rfl
    exact list_toNode fun a _ => (h _ a).2 rfl

end Reader

namespace RecordReader

variable {σ α : Type} {r : RecordReader σ α} {levels : Nat} {s s' : σ}

theorem fieldReader_pieces (r : RecordReader σ α) (k : String) :
    r.fieldReader (pieces k) = (Entries.get? k r.fields).getD .skip := by
  simp [fieldReader, text?_pieces]

theorem readFields_cons_eq_ok_iff {k : String} {v : Json} {rest : List (String × Json)} :
    r.readFields levels (fieldsToNodes ((k, v) :: rest)) s = .ok s' ↔
      ∃ t, ((Entries.get? k r.fields).getD .skip) levels v.toNode s = .ok t ∧
        r.readFields levels (fieldsToNodes rest) t = .ok s' := by
  rw [fieldsToNodes, readFields_cons_eq, bind_eq_ok_iff, fieldReader_pieces]

theorem read_object_eq_ok_iff {fields : List (String × Json)} {a : α} :
    r.read (levels + 1) (object fields).toNode = .ok a ↔
      ∃ t, r.readFields levels (fieldsToNodes fields) r.start = .ok t ∧ r.finish t = .ok a := by
  simp only [read, toNode, Nat.add_one_ne_zero, if_false, if_true, Nat.add_sub_cancel]
  exact bind_eq_ok_iff

end RecordReader

end Json

namespace Description

/-- What is known before and after some fields are read. -/
def Partial.Filled (levels : Nat) (fields : List (String × Json)) (p p' : Partial) : Prop :=
  Json.Fills .string levels p.version (Json.given "sdversion" fields) p'.version ∧
    Json.Fills .string levels p.name (Json.given "name" fields) p'.name ∧
    Json.Fills .string levels p.address (Json.given "address" fields) p'.address ∧
    Json.Fills .string levels p.id (Json.given "id" fields) p'.id ∧
    Json.Fills (.list .string) levels p.procedures (Json.given "procs" fields) p'.procedures

theorem readFields_iff {levels : Nat} {fields : List (String × Json)} {p p' : Partial} :
    reader.readFields levels (Json.fieldsToNodes fields) p = .ok p' ↔
      Partial.Filled levels fields p p' := by
  induction fields generalizing p with
  | nil =>
      obtain ⟨version, name, address, id, procedures⟩ := p
      obtain ⟨version', name', address', id', procedures'⟩ := p'
      simp [Json.fieldsToNodes, Json.RecordReader.readFields, Partial.Filled, Json.fills_nil_iff,
        eq_comm]
  | cons f rest ih =>
      obtain ⟨k, v⟩ := f
      simp only [Json.RecordReader.readFields_cons_eq_ok_iff, ih]
      simp only [Partial.Filled, Json.given_cons]
      by_cases hk : k ∈ ["sdversion", "name", "address", "id", "procs"]
      · simp only [List.mem_cons, List.not_mem_nil, or_false] at hk
        -- The field is read into its own slot, and the other slots are given nothing by it.
        rcases hk with rfl | rfl | rfl | rfl | rfl
        all_goals
          simp only [reader, Entries.get?, Option.getD_some, Json.once_eq_ok_iff,
            Json.fills_cons_iff, String.reduceEq, if_true, if_false]
          grind
      · have hget : Entries.get? k reader.fields = none := Entries.get?_eq_none_of_not_mem hk
        simp only [List.mem_cons, List.not_mem_nil, or_false, not_or] at hk
        simp [hget, Json.FieldReader.skip, Json.isSound_toNode, hk]

/-- The text that an object gives under a name. A name that is left out stands for no text. -/
def Says (fields : List (String × Json)) (key text : String) : Prop :=
  Json.given key fields = [.string text] ∨ Json.given key fields = [] ∧ text = ""

/-- What the fields of an object say about a peer. Names that mean nothing are passed over. -/
structure Describes (fields : List (String × Json)) (d : Description) : Prop where
  version : Says fields "sdversion" d.version
  name : Says fields "name" d.name
  address : Says fields "address" d.address
  id : Says fields "id" d.id
  procedures : Json.given "procs" fields = [.ofStrings d.procedures]

theorem says_iff (levels : Nat) {fields : List (String × Json)} {key text : String} :
    Says fields key text ↔
      ∃ known, Json.Fills .string levels none (Json.given key fields) known ∧
        known.getD "" = text := by
  constructor
  · rintro (h | ⟨h, rfl⟩)
    · rw [h]
      exact ⟨some text, .once (Json.Reader.string_toNode levels text), rfl⟩
    · rw [h]
      exact ⟨none, .absent none, rfl⟩
  · rintro ⟨known, h, rfl⟩
    generalize hvs : Json.given key fields = vs at h
    cases h with
    | absent => exact .inr ⟨hvs, rfl⟩
    | once hv => exact .inl (by rw [hvs, Json.Reader.string_toNode_eq_ok_iff.1 hv]; rfl)

theorem given_procs_iff {levels : Nat} {fields : List (String × Json)} {names : List String} :
    Json.given "procs" fields = [.ofStrings names] ↔
      Json.Fills (.list .string) (levels + 1) none (Json.given "procs" fields) (some names) := by
  constructor
  · intro h
    rw [h]
    exact .once (Json.Reader.list_string_toNode levels names)
  · intro h
    generalize Json.given "procs" fields = vs at h
    cases h with
    | once hv =>
        rw [(Json.Reader.list_toNode_eq_ok_iff fun _ _ =>
          Json.Reader.string_toNode_eq_ok_iff).1 hv]
        rfl

theorem finish_eq_ok_iff {p : Partial} {d : Description} :
    reader.finish p = .ok d ↔
      p.version.getD "" = d.version ∧ p.name.getD "" = d.name ∧ p.address.getD "" = d.address ∧
        p.id.getD "" = d.id ∧ p.procedures = some d.procedures := by
  obtain ⟨version, name, address, id, procedures⟩ := p
  cases procedures with
  | none => simp [reader]
  | some procedures =>
      cases d
      simp [reader]

/-- An object is read as what its fields say. -/
theorem read_object_iff (levels : Nat) {fields : List (String × Json)} {d : Description} :
    reader.read (levels + 2) (Json.object fields).toNode = .ok d ↔ Describes fields d := by
  simp only [Json.RecordReader.read_object_eq_ok_iff, readFields_iff, finish_eq_ok_iff]
  constructor
  · rintro ⟨p, ⟨hversion, hname, haddress, hid, hprocs⟩, dversion, dname, daddress, did, dprocs⟩
    exact ⟨(says_iff _).2 ⟨_, hversion, dversion⟩, (says_iff _).2 ⟨_, hname, dname⟩,
      (says_iff _).2 ⟨_, haddress, daddress⟩, (says_iff _).2 ⟨_, hid, did⟩,
      given_procs_iff.2 (dprocs ▸ hprocs)⟩
  · intro h
    obtain ⟨version, hversion, dversion⟩ := (says_iff (levels + 1)).1 h.version
    obtain ⟨name, hname, dname⟩ := (says_iff (levels + 1)).1 h.name
    obtain ⟨address, haddress, daddress⟩ := (says_iff (levels + 1)).1 h.address
    obtain ⟨id, hid, did⟩ := (says_iff (levels + 1)).1 h.id
    exact ⟨⟨version, name, address, id, some d.procedures⟩,
      ⟨hversion, hname, haddress, hid, given_procs_iff.1 h.procedures⟩,
      dversion, dname, daddress, did, rfl⟩

theorem ofResult_object_cases (fields : List (String × Json)) :
    (∃ d, Describes fields d ∧ ofResult (.object fields) = .ok d) ∨
      (∀ d, ¬ Describes fields d) ∧ ∃ m, ofResult (.object fields) = .error (.json m) := by
  have hiff (d : Description) : Json.readValue reader.read (.object fields) = .ok d ↔
      Describes fields d := read_object_iff 125
  cases hread : Json.readValue reader.read (.object fields) with
  | ok d => exact .inl ⟨d, (hiff d).1 hread, by simp only [ofResult, hread]⟩
  | error f =>
      refine .inr ⟨fun d hd => ?_, f.message, by simp only [ofResult, hread]⟩
      rw [(hiff d).2 hd] at hread
      cases hread

/-- A string that holds the text of an object is read as the object. -/
theorem ofResult_text (fields : List (String × Json)) :
    ofResult (.string (Json.object fields).text) = ofResult (.object fields) := by
  simp only [ofResult, Json.readText_text]

/-- Whatever an object holds, the object itself and the string of its text come to the same: both
are read as what the object says, or both are not the JSON that they should be, because it says
nothing. -/
theorem ofResult_both_forms (fields : List (String × Json)) :
    let object : Json := .object fields
    (∃ d, Describes fields d ∧ ofResult object = .ok d ∧ ofResult (.string object.text) = .ok d) ∨
      (∀ d, ¬ Describes fields d) ∧ (∃ m, ofResult object = .error (.json m)) ∧
        ∃ m, ofResult (.string object.text) = .error (.json m) := by
  intro object
  rw [ofResult_text]
  rcases ofResult_object_cases fields with ⟨d, hd, hread⟩ | ⟨hno, hread⟩
  · exact .inl ⟨d, hd, hread, hread⟩
  · exact .inr ⟨hno, hread, hread⟩

end Description

end RemoteConsole
