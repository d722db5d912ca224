import RemoteConsole.Proofs.Json.Kept
import RemoteConsole.Rpc.Peer

/-!
# Envelopes arrive as they were sent

A request that is read from its own text is the request (`Request.read_wire`), and so is a
reply, save that `null` is no result (`Response.read_wire`). A reply with a result stands for
that result, if its containers are not nested too deep, and a reply with an error for that
error (`decodeReply_success`, `decodeReply_failure`).
-/

namespace RemoteConsole

namespace Params

theorem readFields_credentialed (levels : Nat) (t : String) (ws : List String) :
    reader.readFields (levels + 1)
        (Json.fieldsToNodes [("token", .string t), ("params", .ofStrings ws)]) {}
      = .ok { token := some t, words := some ws } := by
  rw [reader.readFields_cons rfl (Json.once_of_none rfl (Json.Reader.string_toNode _ t)),
    reader.readFields_cons rfl (Json.once_of_none rfl (Json.Reader.list_string_toNode _ ws))]
  rfl

theorem read_object {levels : Nat} {fields : List (String × Json)} {v : Json} {p : Params}
    (hkept : (Json.object fields).toNode.value? levels = some v)
    (hread : reader.read levels (Json.object fields).toNode = .ok p) :
    Params.read levels (Json.object fields).toNode = .ok p := by
  simp only [Json.toNode] at hkept hread ⊢
  simp [Params.read, hkept, hread]

theorem read_array {levels : Nat} {items : List Json} {v : Json} {ws : List String}
    (hkept : (Json.array items).toNode.value? levels = some v)
    (hread : Json.Reader.list .string levels (Json.array items).toNode = .ok ws) :
    Params.read levels (Json.array items).toNode = .ok (bare ws) := by
  simp only [Json.toNode] at hkept hread ⊢
  simp [Params.read, hkept, hread]

/-- Parameters are read as they are written, in either form. -/
theorem read_toJson (levels : Nat) (p : Params) :
    Params.read (levels + 2) p.toJson.toNode = .ok p := by
  cases p with
  | credentialed t ws =>
      refine read_object (Json.value?_object fun f hf => Json.value?_toNode ?_)
        (reader.read_object (readFields_credentialed levels t ws))
      simp only [List.mem_cons, List.not_mem_nil, or_false] at hf
      rcases hf with rfl | rfl
      · exact Json.Fits.string t
      · exact Json.fits_ofStrings levels ws
  | bare ws =>
      exact read_array (Json.value?_toNode (Json.fits_ofStrings (levels + 1) ws))
        (Json.Reader.list_string_toNode (levels + 1) ws)

end Params

namespace Request

theorem readFields_toJson (levels : Nat) (r : Request) :
    reader.readFields (levels + 2)
        (Json.fieldsToNodes
          [("id", .ofInt r.id.toNat), ("method", .string r.method), ("params", r.params.toJson)]) {}
      = .ok { id := some r.id, method := some r.method, params := some r.params } := by
  rw [reader.readFields_cons rfl (Json.once_of_none rfl (Json.Reader.word_toNode _ r.id)),
    reader.readFields_cons rfl (Json.once_of_none rfl (Json.Reader.string_toNode _ r.method)),
    reader.readFields_cons rfl (Json.once_of_none rfl (Params.read_toJson levels r.params))]
  rfl

/-- A request arrives as it was sent. -/
theorem read_wire (r : Request) : read r.wire = .ok r := by
  rw [read, wire, Json.readText_text, Json.readValue]
  exact reader.read_object (readFields_toJson 124 r)

end Request

namespace RemoteError

theorem read_toJson (levels : Nat) (e : RemoteError) :
    reader.read (levels + 1) e.toJson.toNode = .ok e := by
  refine reader.read_object (s := { code := some e.code, message := some e.message }) ?_
  rw [reader.readFields_cons rfl (Json.once_of_none rfl (Json.Reader.signedWord_toNode _ e.code)),
    reader.readFields_cons rfl (Json.once_of_none rfl (Json.Reader.string_toNode _ e.message))]
  rfl

end RemoteError

namespace Response

theorem read_id (levels : Nat) (id : Option UInt64) :
    Json.Reader.optional .word levels
        (match id with | some i => Json.ofInt i.toNat | none => Json.null).toNode = .ok id := by
  cases id with
  | none => rfl
  | some i => exact Json.Reader.optional_toNode (by simp [Json.ofInt]) (Json.Reader.word_toNode _ i)

theorem readFields_toJson (levels : Nat) (r : Response) (rest : List (String × Json)) :
    reader.readFields levels
        (Json.fieldsToNodes
          (("id", match r.id with | some i => .ofInt i.toNat | none => .null)
            :: ("jsonrpc", .string r.version) :: rest)) {}
      = reader.readFields levels (Json.fieldsToNodes rest)
          { id := some r.id, version := some r.version } := by
  rw [reader.readFields_cons rfl (Json.once_of_none rfl (read_id levels r.id)),
    reader.readFields_cons rfl (Json.once_of_none rfl (Json.Reader.string_toNode _ r.version))]

/-- A reply arrives as it was sent, save that the result `null` arrives as no result. -/
theorem read_wire (r : Response) (h : ∀ v ∈ r.result, Json.Fits 126 v) :
    read r.wire = .ok { r with result := r.result.bind Json.present? } := by
  obtain ⟨id, version, result, error⟩ := r
  have herror : ∀ e : RemoteError,
      Json.Reader.optional RemoteError.reader.read 126 e.toJson.toNode = .ok (some e) := fun e =>
    Json.Reader.optional_toNode (by simp [RemoteError.toJson]) (RemoteError.read_toJson 125 e)
  let s : Partial :=
    { id := some id, version := some version, result := result.map Json.present?
      error := error.map some }
  have hread : reader.readFields 126
      (Json.fieldsToNodes
        ((result.map fun v => ("result", v)).toList
          ++ (error.map fun e => ("error", e.toJson)).toList))
      { id := some id, version := some version } = .ok s := by
    cases result with
    | none =>
        cases error with
        | none => rfl
        | some e => exact reader.readFields_cons rfl (Json.once_of_none rfl (herror e))
    | some v =>
        have hresult := Json.Reader.optional_value_toNode (h v rfl)
        refine (reader.readFields_cons rfl (Json.once_of_none rfl hresult)).trans ?_
        cases error with
        | none => rfl
        | some e => exact reader.readFields_cons rfl (Json.once_of_none rfl (herror e))
  rw [read, wire, Json.readText_text, Json.readValue]
  refine (reader.read_object
    ((readFields_toJson 126 ⟨id, version, result, error⟩ _).trans hread)).trans ?_
  cases result <;> cases error <;> rfl

theorem read_success (id : Option UInt64) {v : Json} (h : Json.Fits 126 v) :
    ∃ r, read (success id v).wire = .ok r ∧ r.id = id ∧ r.outcome = .ok v := by
  refine ⟨_, read_wire (success id v) (by rintro w ⟨⟩; exact h), rfl, ?_⟩
  cases v <;> rfl

theorem read_failure (id : Option UInt64) (code : Int64) (message : String) :
    read (failure id code message).wire = .ok (failure id code message) :=
  read_wire (failure id code message) nofun

end Response

theorem decodeReply_success (id : Option UInt64) {v : Json} (h : Json.Fits 126 v) :
    decodeReply (Response.success id v).wire = .ok v := by
  obtain ⟨r, hr, _, hout⟩ := Response.read_success id h
  rw [decodeReply, hr]
  simp only [hout]

theorem decodeReply_failure (id : Option UInt64) (code : Int64) (message : String) :
    decodeReply (Response.failure id code message).wire = .error (.remote ⟨code, message⟩) := by
  rw [decodeReply, Response.read_failure]
  rfl

end RemoteConsole
