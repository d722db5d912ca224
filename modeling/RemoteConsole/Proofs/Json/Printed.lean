import RemoteConsole.Json.Reader
import RemoteConsole.Proofs.Json.Tokens

/-!
# The document of a value's text

The tokens of a value, read inside any containers, put the value's own document into
the innermost container, and what comes after them is read from there:
`build_toTokens_append`. The main statement is `ofText_print`: the text of a value is
the document `toNode` of the value, with nothing behind it.
-/

namespace RemoteConsole

namespace Json

namespace Document

/-- Containers in which a value may come next: the innermost one is not an object
that waits for a key. -/
def TakesValue : List Frame → Prop
  | .object _ none :: _ => False
  | _ => True

theorem takesValue_nil : TakesValue [] := trivial

theorem takesValue_array (items : List Node) (stack : List Frame) :
    TakesValue (.array items :: stack) := trivial

theorem takesValue_object (fields : List (List Piece × Node)) (k : List Piece)
    (stack : List Frame) : TakesValue (.object fields (some k) :: stack) := trivial

/-- Go on with further tokens after a complete value. -/
def deliver (n : Node) (stack : List Frame) (ts : List Token) : Document :=
  match place n stack with
  | .next stack e => build stack e ts
  | .complete root => ⟨root, !ts.isEmpty⟩
  | .fault => ⟨.broken, false⟩

theorem deliver_nil (n : Node) (ts : List Token) : deliver n [] ts = ⟨n, !ts.isEmpty⟩ := rfl

theorem deliver_array (n : Node) (items : List Node) (stack : List Frame) (ts : List Token) :
    deliver n (.array items :: stack) ts = build (.array (n :: items) :: stack) .commaOrEnd ts :=
  rfl

theorem deliver_object (n : Node) (fields : List (List Piece × Node)) (k : List Piece)
    (stack : List Frame) (ts : List Token) :
    deliver n (.object fields (some k) :: stack) ts
      = build (.object ((k, n) :: fields) none :: stack) .commaOrEnd ts :=
  rfl

/-- A token that completes a value. -/
theorem build_cons_of_place {stack outer : List Frame} {e : Expecting} {t : Token} {n : Node}
    (ho : TakesValue outer) (h : step stack e t = place n outer) (ts : List Token) :
    build stack e (t :: ts) = deliver n outer ts := by
  rw [build, deliver, h]
  cases outer with
  | nil => rfl
  | cons frame outer =>
      cases frame with
      | array items => rfl
      | object fields key =>
          cases key with
          | none => exact ho.elim
          | some k => rfl

/-- A token after which the reading goes on. -/
theorem build_cons_of_next {stack inner : List Frame} {e e' : Expecting} {t : Token}
    (h : step stack e t = .next inner e') (ts : List Token) :
    build stack e (t :: ts) = build inner e' ts := by
  rw [build, h]

/-- A value does not start with a closing bracket, so it is read as the first item of
an array as it is anywhere else. -/
theorem build_itemOrEnd_toTokens_append (before : List Node) (stack : List Frame) (v : Json)
    (ts : List Token) :
    build (.array before :: stack) .itemOrEnd (v.toTokens ++ ts)
      = build (.array before :: stack) .value (v.toTokens ++ ts) := by
  cases v <;> rfl

mutual

/-- The tokens of a value, inside any containers. -/
theorem build_toTokens_append : ∀ (v : Json) {stack : List Frame}, TakesValue stack →
    ∀ ts, build stack .value (v.toTokens ++ ts) = deliver v.toNode stack ts
  | .null, _, ho, ts => build_cons_of_place ho rfl ts
  | .bool _, _, ho, ts => build_cons_of_place ho rfl ts
  | .number _, _, ho, ts => build_cons_of_place ho rfl ts
  | .string _, _, ho, ts => build_cons_of_place ho rfl ts
  | .array [], stack, ho, ts => by
      simp only [toTokens, itemTokens, List.cons_append, List.nil_append]
      rw [build_cons_of_next rfl, build_cons_of_place ho rfl]
      rfl
  | .array (v :: r), stack, ho, ts => by
      have hitems := build_itemTokens_append (v :: r) (by simp) [] ho ts
      simp only [toTokens, List.cons_append, List.append_assoc, List.nil_append]
      rw [build_cons_of_next rfl]
      simp only [itemTokens, List.append_assoc] at hitems ⊢
      rw [build_itemOrEnd_toTokens_append, hitems]
      rfl
  | .object [], stack, ho, ts => by
      simp only [toTokens, fieldTokens, List.cons_append, List.nil_append]
      rw [build_cons_of_next rfl, build_cons_of_place ho rfl]
      rfl
  | .object ((k, v) :: r), stack, ho, ts => by
      have hfields := build_fieldTokens_append ((k, v) :: r) (by simp) [] ho ts
      simp only [toTokens, List.cons_append, List.append_assoc, List.nil_append]
      rw [build_cons_of_next rfl]
      -- after the opening brace a key is read as it is after a comma
      exact hfields

/-- The tokens of the items that come after the items read before. -/
theorem build_itemTokens_append : ∀ (items : List Json), items ≠ [] →
    ∀ (before : List Node) {stack : List Frame}, TakesValue stack → ∀ ts,
    build (.array before :: stack) .value (itemTokens items ++ .closeBracket :: ts)
      = deliver (.array (before.reverse ++ toNodes items) true) stack ts
  | [], hne, _, _, _, _ => absurd rfl hne
  | [v], _, before, stack, ho, ts => by
      simp only [itemTokens, List.isEmpty_nil, if_true, List.append_nil]
      rw [build_toTokens_append v (takesValue_array ..), deliver_array, build_cons_of_place ho rfl]
      simp [toNodes]
  | v :: w :: r, _, before, stack, ho, ts => by
      rw [itemTokens]
      simp only [List.isEmpty_cons, Bool.false_eq_true, if_false, List.append_assoc,
        List.cons_append, List.nil_append]
      rw [build_toTokens_append v (takesValue_array ..), deliver_array, build_cons_of_next rfl,
        build_itemTokens_append (w :: r) (by simp) (v.toNode :: before) ho]
      simp [toNodes]

/-- The tokens of the fields that come after the fields read before. -/
theorem build_fieldTokens_append : ∀ (fields : List (String × Json)), fields ≠ [] →
    ∀ (before : List (List Piece × Node)) {stack : List Frame}, TakesValue stack → ∀ ts,
    build (.object before none :: stack) .key (fieldTokens fields ++ .closeBrace :: ts)
      = deliver (.object (before.reverse ++ fieldsToNodes fields) true) stack ts
  | [], hne, _, _, _, _ => absurd rfl hne
  | [(k, v)], _, before, stack, ho, ts => by
      simp only [fieldTokens, List.isEmpty_nil, if_true, List.append_nil, List.cons_append]
      rw [build_cons_of_next rfl, build_cons_of_next rfl,
        build_toTokens_append v (takesValue_object ..), deliver_object, build_cons_of_place ho rfl]
      simp [fieldsToNodes]
  | (k, v) :: f :: r, _, before, stack, ho, ts => by
      rw [fieldTokens]
      simp only [List.isEmpty_cons, Bool.false_eq_true, if_false, List.append_assoc,
        List.cons_append, List.nil_append]
      rw [build_cons_of_next rfl, build_cons_of_next rfl,
        build_toTokens_append v (takesValue_object ..), deliver_object, build_cons_of_next rfl,
        build_fieldTokens_append (f :: r) (by simp) ((pieces k, v.toNode) :: before) ho]
      simp [fieldsToNodes]

end

/-- The text of a value is the document of that value. -/
theorem ofText_print (v : Json) : ofText v.print = ⟨v.toNode, false⟩ := by
  have h := build_toTokens_append v takesValue_nil []
  rw [List.append_nil, deliver_nil] at h
  rw [ofText, Json.ofText_print, h]
  rfl

end Document

/-- Reading the text of a value is reading the value. -/
theorem readText_text {α : Type} (r : Reader α) (v : Json) :
    readText r v.text = readValue r v := by
  rw [readText, text, String.toList_ofList, Document.ofText_print, readValue]
  simp only [bind, Except.bind]
  cases r maxLevels v.toNode <;> rfl

end Json

end RemoteConsole
