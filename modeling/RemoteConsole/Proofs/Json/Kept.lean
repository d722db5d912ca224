import RemoteConsole.Proofs.Json.Printed

/-!
# Values that are read as they are

A value fits a number of levels if its containers are nested at most that deep, its
numbers are whole numbers of 64 bits, and the fields of its objects stand in ascending
order of their keys. The document of such a value is kept as that value:
`value?_toNode`. The readers of strings, numbers and lists give back what was written
(`string_toNode`, `word_toNode`, `list_toNode`), and a field of an object is read by
the reader of its name (`readFields_cons`).
-/

namespace RemoteConsole

namespace Json

/-- Values that are kept as they are when so many levels of containers are allowed. -/
inductive Fits : Nat → Json → Prop where
  | null {levels : Nat} : Fits levels .null
  | bool {levels : Nat} (b : Bool) : Fits levels (.bool b)
  | whole {levels : Nat} {n : Int} (h : Numeral.IsWord n) : Fits levels (.number (.whole n))
  | string {levels : Nat} (s : String) : Fits levels (.string s)
  | array {levels : Nat} {items : List Json} (h : ∀ v ∈ items, Fits levels v) :
      Fits (levels + 1) (.array items)
  | object {levels : Nat} {fields : List (String × Json)}
      (hsorted : Entries.ofList fields = fields) (h : ∀ f ∈ fields, Fits levels f.2) :
      Fits (levels + 1) (.object fields)

theorem text?_pieces (s : String) : Piece.text? (pieces s) = some s.toList :=
  Piece.text?_map_char s.toList

theorem values?_toNodes {levels : Nat} {items : List Json}
    (h : ∀ v ∈ items, v.toNode.value? levels = some v) :
    Node.values? levels (toNodes items) = some items := by
  induction items with
  | nil => rfl
  | cons v r ih =>
      rw [toNodes, Node.values?, h v (by simp), ih fun w hw => h w (by simp [hw])]
      rfl

theorem fieldValues?_fieldsToNodes {levels : Nat} {fields : List (String × Json)}
    (h : ∀ f ∈ fields, f.2.toNode.value? levels = some f.2) :
    Node.fieldValues? levels (fieldsToNodes fields) = some fields := by
  induction fields with
  | nil => rfl
  | cons f r ih =>
      obtain ⟨k, v⟩ := f
      rw [fieldsToNodes, Node.fieldValues?, text?_pieces, h (k, v) (by simp),
        ih fun g hg => h g (by simp [hg])]
      simp

/-- An object is kept with its fields brought into order. -/
theorem value?_object {levels : Nat} {fields : List (String × Json)}
    (h : ∀ f ∈ fields, f.2.toNode.value? levels = some f.2) :
    (object fields).toNode.value? (levels + 1) = some (ofFields fields) := by
  simp [toNode, Node.value?, fieldValues?_fieldsToNodes h]

/-- A value that fits is kept as it is. -/
theorem value?_toNode {levels : Nat} {v : Json} (h : Fits levels v) :
    v.toNode.value? levels = some v := by
  induction h with
  | null => rfl
  | bool b => rfl
  | whole hn => simp [toNode, Numeral.ofNumber, Node.value?, Numeral.value?_ofInt hn]
  | string s => simp [toNode, Node.value?, text?_pieces]
  | array h ih => simp [toNode, Node.value?, values?_toNodes ih]
  | object hsorted h ih => rw [value?_object ih, ofFields, hsorted]

theorem fits_ofStrings (levels : Nat) (l : List String) : Fits (levels + 1) (ofStrings l) := by
  refine Fits.array fun v hv => ?_
  obtain ⟨s, _, rfl⟩ := List.mem_map.1 hv
  exact Fits.string s

/-- A value, unless it stands for nothing. -/
def present? : Json → Option Json
  | null => none
  | v => some v

namespace Reader

theorem value_toNode {levels : Nat} {v : Json} (h : Fits levels v) :
    value levels v.toNode = .ok v := by
  rw [value, value?_toNode h]

theorem string_toNode (levels : Nat) (s : String) :
    Reader.string levels (Json.string s).toNode = .ok s := by
  simp [Reader.string, toNode, text?_pieces]

theorem number_toNode (levels : Nat) {n : Int} (h : Numeral.IsWord n) :
    Reader.number levels (ofInt n).toNode = .ok (.whole n) := by
  simp [Reader.number, ofInt, toNode, Numeral.ofNumber, Numeral.value?_ofInt h]

theorem word_toNode (levels : Nat) (i : UInt64) :
    word levels (ofInt i.toNat).toNode = .ok i := by
  rw [word, number_toNode levels (Numeral.isWord_toNat i)]
  simp [bind, Except.bind]

theorem signedWord_toNode (levels : Nat) (i : Int64) :
    signedWord levels (ofInt i.toInt).toNode = .ok i := by
  have hhigh : i.toInt < (Nat.pow 2 63 : Nat) := i.toInt_lt
  rw [signedWord, number_toNode levels (Numeral.isWord_toInt i)]
  simp only [bind, Except.bind, if_pos hhigh, Int64.ofInt_toInt]

theorem list_toNode {α : Type} {r : Reader α} {levels : Nat} {write : α → Json} {l : List α}
    (h : ∀ a ∈ l, r levels (write a).toNode = .ok a) :
    list r (levels + 1) (Json.array (l.map write)).toNode = .ok l := by
  have hitems : (toNodes (l.map write)).mapM (r levels) = .ok l := by
    induction l with
    | nil => rfl
    | cons a l ih =>
        rw [List.map_cons, toNodes, List.mapM_cons, h a (by simp),
          ih fun b hb => h b (by simp [hb])]
        rfl
  simp [list, toNode, hitems, bind, Except.bind]

theorem list_string_toNode (levels : Nat) (l : List String) :
    list .string (levels + 1) (ofStrings l).toNode = .ok l :=
  list_toNode fun s _ => string_toNode levels s

theorem optional_toNode {α : Type} {r : Reader α} {levels : Nat} {v : Json} {a : α}
    (hv : v ≠ .null) (hr : r levels v.toNode = .ok a) :
    optional r levels v.toNode = .ok (some a) := by
  have hn : v.toNode ≠ .null := by
    cases v <;> simp [toNode] at hv ⊢
  simp only [optional, hr]
  rfl

/-- A value that may be left out is kept unless it is `null`. -/
theorem optional_value_toNode {levels : Nat} {v : Json} (h : Fits levels v) :
    optional value levels v.toNode = .ok v.present? := by
  cases v with
  | null => rfl
  | _ => exact optional_toNode nofun (value_toNode h)

end Reader

/-- A field that has not been read before. -/
theorem once_of_none {σ β : Type} {get : σ → Option β} {set : σ → β → σ} {r : Reader β}
    {levels : Nat} {n : Node} {s : σ} {b : β} (hs : get s = none) (hr : r levels n = .ok b) :
    once get set r levels n s = .ok (set s b) := by
  simp [once, hs, hr, Except.map]

namespace RecordReader

variable {σ α : Type}

/-- A known field is read by the reader of its name. -/
theorem readFields_cons (r : RecordReader σ α) {levels : Nat} {k : String} {v : Json}
    {rest : List (String × Json)} {s s' : σ} {read : FieldReader σ}
    (hk : Entries.get? k r.fields = some read) (hv : read levels v.toNode s = .ok s') :
    r.readFields levels (fieldsToNodes ((k, v) :: rest)) s
      = r.readFields levels (fieldsToNodes rest) s' := by
  simp [readFields, fieldsToNodes, text?_pieces, hk, hv, bind, Except.bind]

/-- An object is read by reading its fields. -/
theorem read_object (r : RecordReader σ α) {levels : Nat} {fields : List (String × Json)}
    {s : σ} (h : r.readFields levels (fieldsToNodes fields) r.start = .ok s) :
    r.read (levels + 1) (Json.object fields).toNode = r.finish s := by
  simp [read, toNode, h, bind, Except.bind]

end RecordReader

end Json

end RemoteConsole
