import RemoteConsole.Proofs.Json.Fields
import RemoteConsole.Proofs.Rpc.Envelope

/-!
# The forms of a request

A request is sent in one form and may come in others: its fields in another order, with fields of
other names among them, as a list, or without parameters. `Request.Form` lists these forms, and
each is read as the request (`Request.read_of_form`). The main statement is
`Request.wire_roundTrip`: a request is read as it was sent, so whatever is read as a request can
be sent on as that request, and no two requests are sent as the same text.
-/

namespace RemoteConsole

namespace Params

/-- The values that stand for parameters. In an object with a credential other fields are passed
over, as far as they can be kept. -/
inductive Form : Params → Json → Prop
  | bare (ws : List String) : Form (bare ws) (.ofStrings ws)
  | credentialed {t : String} {ws : List String} {fields extra : List (String × Json)}
      (hfields : fields.Perm (extra ++ [("token", .string t), ("params", .ofStrings ws)]))
      (hextra : ∀ f ∈ extra, f.1 ∉ ["token", "params"])
      (hkept : ∀ f ∈ extra, (f.2.toNode.value? 125).isSome = true) :
      Form (credentialed t ws) (.object fields)

theorem anyOrder_reader : reader.AnyOrder := by
  refine Json.RecordReader.anyOrder_of_pairwise ?_ ?_
  · simp only [reader, List.forall_mem_cons]
    exact ⟨Json.once_commutes_self fun _ _ => rfl, Json.once_commutes_self fun _ _ => rfl, nofun⟩
  · simp only [reader, List.pairwise_cons, List.forall_mem_cons]
    exact ⟨⟨Json.once_commutes (fun _ _ => rfl) (fun _ _ => rfl) fun _ _ _ => rfl, nofun⟩,
      nofun, .nil⟩

theorem read_of_form {p : Params} {v : Json} (h : p.Form v) :
    Params.read 126 v.toNode = .ok p := by
  cases h with
  | bare ws => exact read_toJson 124 (bare ws)
  | @credentialed t ws fields extra hfields hextra hkept =>
      have hvalues : ∀ f ∈ fields, (f.2.toNode.value? 125).isSome = true := by
        intro f hf
        rcases List.mem_append.1 (hfields.mem_iff.1 hf) with hf | hf
        · exact hkept f hf
        · simp only [List.mem_cons, List.not_mem_nil, or_false] at hf
          rcases hf with rfl | rfl
          · rw [Json.value?_toNode (.string t)]
            rfl
          · rw [Json.value?_toNode (Json.fits_ofStrings 124 ws)]
            rfl
      obtain ⟨w, hw⟩ := Option.isSome_iff_exists.1 (Json.isSome_value?_object hvalues)
      have hread := Json.RecordReader.readFields_of_perm anyOrder_reader hfields
        (fun f hf => Entries.get?_eq_none_of_not_mem (hextra f hf))
        (readFields_credentialed 124 t ws)
      exact read_object hw (reader.read_object hread)

end Params

namespace Request

/-- The parameters of a request as they are given, or left out if there are none. -/
inductive ParamsForm : Params → Option Json → Prop
  | given {p : Params} {v : Json} (h : p.Form v) : ParamsForm p (some v)
  | omitted : ParamsForm (.bare []) none

/-- The values that stand for a request. -/
inductive Form : Request → Json → Prop
  | object {r : Request} {params? : Option Json} {fields extra : List (String × Json)}
      (hparams : ParamsForm r.params params?)
      (hfields : fields.Perm (extra ++
        ("id", .ofInt r.id.toNat) :: ("method", .string r.method) ::
          (params?.map (("params", ·))).toList))
      (hextra : ∀ f ∈ extra, f.1 ∉ ["id", "method", "params"]) :
      Form r (.object fields)
  | array {r : Request} {params? : Option Json} (hparams : ParamsForm r.params params?) :
      Form r (.array (.ofInt r.id.toNat :: .string r.method :: params?.toList))

theorem anyOrder_reader : reader.AnyOrder := by
  refine Json.RecordReader.anyOrder_of_pairwise ?_ ?_
  · simp only [reader, List.forall_mem_cons]
    exact ⟨Json.once_commutes_self fun _ _ => rfl, Json.once_commutes_self fun _ _ => rfl,
      Json.once_commutes_self fun _ _ => rfl, nofun⟩
  · simp only [reader, List.pairwise_cons, List.forall_mem_cons]
    exact ⟨⟨Json.once_commutes (fun _ _ => rfl) (fun _ _ => rfl) fun _ _ _ => rfl,
      Json.once_commutes (fun _ _ => rfl) (fun _ _ => rfl) fun _ _ _ => rfl, nofun⟩,
      ⟨Json.once_commutes (fun _ _ => rfl) (fun _ _ => rfl) fun _ _ _ => rfl, nofun⟩,
      nofun, .nil⟩

theorem readFields_id_method (levels : Nat) (r : Request) (rest : List (String × Json)) :
    reader.readFields levels
        (Json.fieldsToNodes (("id", .ofInt r.id.toNat) :: ("method", .string r.method) :: rest)) {}
      = reader.readFields levels (Json.fieldsToNodes rest)
          { id := some r.id, method := some r.method } := by
  rw [reader.readFields_cons rfl (Json.once_of_none rfl (Json.Reader.word_toNode _ r.id)),
    reader.readFields_cons rfl (Json.once_of_none rfl (Json.Reader.string_toNode _ r.method))]

theorem readItems_id_method (levels : Nat) (r : Request) (items : List Json) :
    Json.RecordReader.readItems levels reader.fields
        (Json.toNodes (.ofInt r.id.toNat :: .string r.method :: items)) {}
      = Json.RecordReader.readItems levels (reader.fields.drop 2) (Json.toNodes items)
          { id := some r.id, method := some r.method } := by
  rw [reader, Json.RecordReader.readItems_cons
      (Json.once_of_none rfl (Json.Reader.word_toNode _ r.id)),
    Json.RecordReader.readItems_cons
      (Json.once_of_none rfl (Json.Reader.string_toNode _ r.method))]
  rfl

theorem readFields_of_paramsForm {r : Request} {params? : Option Json}
    (h : ParamsForm r.params params?) :
    ∃ t, reader.readFields 126 (Json.fieldsToNodes (("id", .ofInt r.id.toNat) ::
        ("method", .string r.method) :: (params?.map (("params", ·))).toList)) {} = .ok t ∧
      reader.finish t = .ok r := by
  obtain ⟨id, method, params⟩ := r
  cases h with
  | given h =>
      refine ⟨{ id := some id, method := some method, params := some params }, ?_, rfl⟩
      refine (readFields_id_method 126 ⟨id, method, params⟩ _).trans ?_
      exact reader.readFields_cons rfl (Json.once_of_none rfl (Params.read_of_form h))
  | omitted => exact ⟨_, readFields_id_method 126 ⟨id, method, _⟩ [], rfl⟩

theorem readItems_of_paramsForm {r : Request} {params? : Option Json}
    (h : ParamsForm r.params params?) :
    ∃ t, Json.RecordReader.readItems 126 reader.fields
        (Json.toNodes (.ofInt r.id.toNat :: .string r.method :: params?.toList)) {} = .ok (t, []) ∧
      reader.finish t = .ok r := by
  obtain ⟨id, method, params⟩ := r
  cases h with
  | given h =>
      refine ⟨{ id := some id, method := some method, params := some params }, ?_, rfl⟩
      refine (readItems_id_method 126 ⟨id, method, params⟩ _).trans ?_
      exact Json.RecordReader.readItems_cons (Json.once_of_none rfl (Params.read_of_form h)) [] []
  | omitted => exact ⟨_, readItems_id_method 126 ⟨id, method, _⟩ [], rfl⟩

/-- A request is read from the text of each of its forms. -/
theorem read_of_form {r : Request} {v : Json} (h : r.Form v) : read v.text = .ok r := by
  rw [read, Json.readText_text, Json.readValue, Json.maxLevels]
  cases h with
  | object hparams hfields hextra =>
      obtain ⟨t, hread, hfinish⟩ := readFields_of_paramsForm hparams
      rw [← hfinish]
      refine reader.read_object ?_
      exact Json.RecordReader.readFields_of_perm anyOrder_reader hfields
        (fun f hf => Entries.get?_eq_none_of_not_mem (hextra f hf)) hread
  | array hparams =>
      obtain ⟨t, hread, hfinish⟩ := readItems_of_paramsForm hparams
      exact reader.read_array hread hfinish hfinish

/-- A request is read as it was sent, bare or under a credential, and every form of a request is
read as that request. So what is read as a request is read as the same when it is sent on, and
different requests are sent as different texts. -/
theorem wire_roundTrip :
    (∀ r : Request, read r.wire = .ok r) ∧
      (∀ (r : Request) (v : Json), r.Form v → read v.text = .ok r) ∧
      (∀ (text : String) (r : Request), read text = .ok r → read r.wire = .ok r) ∧
      Function.Injective wire := by
  refine ⟨read_wire, fun r v => read_of_form, fun text r _ => r.read_wire, ?_⟩
  intro r r' heq
  have hread : read r.wire = read r'.wire := congrArg read heq
  rw [read_wire, read_wire] at hread
  exact Except.ok.inj hread

/-- The largest number, a credential, characters that have to be escaped, and the fields from
last to first with others among them. -/
theorem wire_roundTrip_reversed :
    let r : Request :=
      { id := 18446744073709551615, method := "\"\\\n\x00😀", params := .credentialed "" ["", "a b"] }
    let params : Json := .object
      [("", .array [.null]), ("token", .string ""), ("params", .ofStrings ["", "a b"])].reverse
    let v : Json := .object
      [("jsonrpc", .object []), ("id", .ofInt r.id.toNat), ("method", .string r.method),
        ("params", params)].reverse
    r.Form v ∧ read v.text = .ok r ∧ read r.wire = .ok r ∧
      r.wire ≠ ({ r with params := .bare r.params.words } : Request).wire := by
  intro r params v
  let other : String × Json := ("", .array [.null])
  let version : String × Json := ("jsonrpc", .object [])
  have hother : ∀ f ∈ [other], f.1 ∉ ["token", "params"] := by decide
  have hversion : ∀ f ∈ [version], f.1 ∉ ["id", "method", "params"] := by decide
  have hkept : ∀ f ∈ [other], (f.2.toNode.value? 125).isSome = true := by
    simp [other, Json.toNode, Json.toNodes, Json.Node.value?, Json.Node.values?]
  have hparams : r.params.Form params := .credentialed (List.reverse_perm _) hother hkept
  have hform : r.Form v := .object (.given hparams) (List.reverse_perm _) hversion
  obtain ⟨_, hforms, hsent, hinjective⟩ := wire_roundTrip
  have hread : read v.text = .ok r := hforms r v hform
  exact ⟨hform, hread, hsent v.text r hread, hinjective.ne (by simp [r])⟩

end Request

end RemoteConsole
