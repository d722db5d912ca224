import RemoteConsole.Proofs.Endpoint.Login

/-!
# Sessions with an endpoint

A link that is only used with one endpoint never holds another credential than that of
the endpoint, and never believes the endpoint to offer anything but `echo`. This is what
each operation preserves (`Link.AtEndpoint.after`), and hence what holds of every link that
is reached (`Link.AtEndpoint.of_reached`).
-/

namespace RemoteConsole

/-- An endpoint's description is read as it is meant. -/
theorem Description.ofResult_describeReply (c : EndpointConfig) (names : List String) :
    ofResult (c.describeReply names)
      = .ok { version := "1.0", name := c.name, address := c.address, id := c.id,
              procedures := names } := by
  have hfields : reader.readFields 126
      (Json.fieldsToNodes [("address", .string c.address), ("id", .string c.id),
        ("name", .string c.name), ("procs", .ofStrings names), ("sdversion", .string "1.0")]) {}
        = .ok { version := some "1.0", name := some c.name, address := some c.address,
                id := some c.id, procedures := some names } := by
    rw [reader.readFields_cons rfl (Json.once_of_none rfl (Json.Reader.string_toNode _ c.address)),
      reader.readFields_cons rfl (Json.once_of_none rfl (Json.Reader.string_toNode _ c.id)),
      reader.readFields_cons rfl (Json.once_of_none rfl (Json.Reader.string_toNode _ c.name)),
      reader.readFields_cons rfl (Json.once_of_none rfl (Json.Reader.list_string_toNode _ names)),
      reader.readFields_cons rfl (Json.once_of_none rfl (Json.Reader.string_toNode _ "1.0"))]
    rfl
  have hread := reader.read_object hfields
  rw [c.describeReply_eq, ofResult, Json.readValue, Json.maxLevels]
  simp only [hread]
  rfl

theorem EndpointConfig.run_describeMethod (c : EndpointConfig) :
    c.run describeMethod = (.ok, { reply? := some (c.describeReply ["echo"]) }) := by
  have htokens : tokens describeMethod = [describeMethod] :=
    tokens_of_isPlain (isPlain_of_isOpen isOpen_describeMethod)
  have hget : c.commands.get? describeMethod
      = some (.ofReply (fun _ _ => c.describeReply (advertised c.basicCommands)) none none) := by
    rw [get?_commands]
    rfl
  rw [c.run_of_route_eq_run (Table.route_of_optionSpec_eq_none htokens hget rfl),
    c.advertised_basicCommands]

namespace Link

/-- A call that the endpoint lets through ends as its line does there. -/
theorem callAs_eq {c : EndpointConfig} {l : Link} {line : String} {credential : Option String}
    {r : Request} (hpeer : l.peer = c.peer) (hr : Request.ofLine? l.nextId line = some r)
    (h : c.authorize (r.withToken? credential) = .ok ()) :
    l.callAs line credential =
      (if (c.run r.line).1.isOk then .done (c.run r.line).2.result
        else .failed (.remote ⟨Int64.ofNat (c.run r.line).1.code, (c.run r.line).2.text⟩),
      { l with nextId := l.nextId + 1, sent := l.sent ++ [r.withToken? credential] }) := by
  rw [callAs_of_ofLine? hr, answerTo_of_authorize_eq_ok hpeer h, r.line_withToken?]

/-- An endpoint describes itself to anyone. -/
theorem describe_eq {c : EndpointConfig} {l : Link} (hpeer : l.peer = c.peer) :
    l.describe =
      (.done ["echo"], { (l.call describeMethod).2 with procedures? := some ["echo"] }) := by
  let r : Request := { id := l.nextId, method := describeMethod }
  have hopen : c.authorize (r.withToken? l.token) = .ok () := by
    refine c.authorize_of_isOpen ?_
    rw [r.method_withToken?]
    exact isOpen_describeMethod
  have hcall := callAs_eq hpeer (Request.ofLine?_describeMethod l.nextId) hopen
  have hrun : c.run r.line = (.ok, { reply? := some (c.describeReply ["echo"]) }) :=
    c.run_describeMethod
  rw [hrun] at hcall
  have hdone : (l.call describeMethod).1 = .done (c.describeReply ["echo"]) := by
    rw [call, hcall]
    rfl
  simp only [describe, hdone, Attempt.bind_done, Description.ofResult_describeReply]
  rfl

/-- What holds of a link that is only used with an endpoint. -/
structure AtEndpoint (c : EndpointConfig) (l : Link) : Prop where
  peer : l.peer = c.peer
  token : l.token = none ∨ l.token = some c.token
  procedures : l.procedures? = none ∨ l.procedures? = some ["echo"]

namespace AtEndpoint

variable {c : EndpointConfig} {l : Link}

theorem new : AtEndpoint c (.new c.peer) := ⟨rfl, .inl rfl, .inl rfl⟩

theorem connect : AtEndpoint c (.connect c.peer) := ⟨rfl, .inl rfl, .inl rfl⟩

theorem callAs (h : AtEndpoint c l) (line : String) (credential : Option String) :
    AtEndpoint c (l.callAs line credential).2 := by
  rw [snd_callAs]
  exact ⟨h.peer, h.token, h.procedures⟩

theorem describe (h : AtEndpoint c l) : AtEndpoint c l.describe.2 := by
  have hcall := h.callAs describeMethod l.token
  rw [describe_eq h.peer]
  exact ⟨hcall.peer, hcall.token, .inr rfl⟩

theorem finishDiscovery (h : AtEndpoint c l) : AtEndpoint c l.finishDiscovery := by
  have hdescribe := h.describe
  rw [Link.finishDiscovery]
  refine ⟨hdescribe.peer, hdescribe.token, .inr ?_⟩
  rw [describe_eq h.peer]
  rfl

theorem login (h : AtEndpoint c l) (user password : String) :
    AtEndpoint c (l.login user password).2 := by
  rw [login_eq h.peer]
  refine ⟨h.peer, ?_, h.procedures⟩
  cases c.accepts (tokens (user ++ " " ++ password)) && !c.token.isEmpty with
  | false => exact h.token
  | true => exact .inr rfl

/-- Every operation preserves what holds of a link that is only used with an endpoint. -/
theorem after (h : AtEndpoint c l) (o : Operation) : AtEndpoint c (l.after o) := by
  cases o with
  | call line => exact h.callAs line l.token
  | callAs line credential => exact h.callAs line credential
  | build line credential =>
      rw [Link.after, buildRequest_eq]
      exact ⟨h.peer, h.token, h.procedures⟩
  | describe => exact h.describe
  | finishDiscovery => exact h.finishDiscovery
  | login user password => exact h.login user password
  | logout => exact ⟨h.peer, .inl rfl, h.procedures⟩

/-- Links that are only used with an endpoint, in any order of operations. -/
theorem of_reached (h : Reached c.peer l) : AtEndpoint c l := by
  induction h with
  | new => exact new
  | connect => exact connect
  | after o _ ih => exact ih.after o

theorem token_of_authenticated (h : AtEndpoint c l) (hstate : l.state = .authenticated) :
    l.token = some c.token := by
  rcases h.token with ht | ht
  · simp [state, ht] at hstate
  · exact ht

theorem procedures_of_isDiscovered (h : AtEndpoint c l) (hdiscovered : l.isDiscovered = true) :
    l.procedures = ["echo"] := by
  rcases h.procedures with hp | hp
  · simp [isDiscovered, hp] at hdiscovered
  · rw [Link.procedures, hp, Option.getD_some]

end AtEndpoint

end Link

end RemoteConsole
