import RemoteConsole.Proofs.Rpc.Session

/-!
# The numbers of envelopes

Every operation but a logout uses up one number, also a call that sends nothing, and what it
sends goes out under that number. So behind a run the next number is how many were used up
(`Link.nextId_run`), and as long as they do not wrap around it is above those of all envelopes
sent so far (`Link.id_lt_nextId_run`).
-/

namespace RemoteConsole

/-- How many numbers an operation uses up. -/
def Operation.draws : Operation → Nat
  | logout => 0
  | _ => 1

namespace Link

/-- How many numbers a run uses up. -/
def drawn (past : List Operation) : Nat := past.foldl (fun n o => n + o.draws) 0

theorem drawn_append_singleton (past : List Operation) (o : Operation) :
    drawn (past ++ [o]) = drawn past + o.draws := List.foldl_append

theorem nextId_after (l : Link) (o : Operation) :
    (l.after o).nextId = l.nextId + UInt64.ofNat o.draws := by
  cases o with
  | call line => rw [after, call, snd_callAs]; rfl
  | callAs line credential => rw [after, snd_callAs]; rfl
  | build line credential => rw [after, buildRequest_eq]; rfl
  | describe => rw [after, snd_describe, call, snd_callAs]; rfl
  | finishDiscovery => rw [after, finishDiscovery, snd_describe, call, snd_callAs]; rfl
  | login user password => rw [after, snd_login]; rfl
  | logout => exact (UInt64.add_zero _).symm

theorem nextId_run (l : Link) (past : List Operation) :
    (l.run past).nextId = l.nextId + UInt64.ofNat (drawn past) := by
  induction past using List.reverseRecOn with
  | nil => simp [drawn]
  | append_singleton past o ih =>
      rw [run_append_singleton, nextId_after, ih, drawn_append_singleton, UInt64.ofNat_add,
        UInt64.add_assoc]

theorem id_of_mem_sentBy_callAs {l : Link} {line : String} {credential : Option String}
    {r : Request} (h : r ∈ l.sentBy (.callAs line credential)) : r.id = l.nextId := by
  rw [sentBy_callAs] at h
  obtain ⟨r', hr', rfl⟩ := Option.map_eq_some_iff.1 (Option.mem_toList.1 h)
  rw [Request.id_withToken?, (Request.ofLine?_eq_some_iff.1 hr').1]

/-- What an operation sends goes out under the next number, which it uses up. -/
theorem id_of_mem_sentBy {l : Link} {o : Operation} {r : Request} (h : r ∈ l.sentBy o) :
    r.id = l.nextId ∧ o.draws = 1 := by
  cases o with
  | call line => exact ⟨id_of_mem_sentBy_callAs (l.sentBy_call line ▸ h), rfl⟩
  | callAs line credential => exact ⟨id_of_mem_sentBy_callAs h, rfl⟩
  | build line credential => simp [sentBy, after, buildRequest_eq] at h
  | describe =>
      rw [sentBy_describe, sentBy_call] at h
      exact ⟨id_of_mem_sentBy_callAs h, rfl⟩
  | finishDiscovery =>
      rw [sentBy_finishDiscovery, sentBy_describe, sentBy_call] at h
      exact ⟨id_of_mem_sentBy_callAs h, rfl⟩
  | login user password =>
      rw [sentBy_login, List.mem_singleton] at h
      exact ⟨h ▸ rfl, rfl⟩
  | logout => simp [sentBy, after, logout] at h

variable {start : Link}

/-- Envelopes are numbered by how many numbers were used up before. -/
theorem exists_id_eq_of_mem_sent_run (hid : start.nextId = 0) (hsent : start.sent = [])
    {past : List Operation} {r : Request} (h : r ∈ (start.run past).sent) :
    ∃ n < drawn past, r.id = UInt64.ofNat n := by
  induction past using List.reverseRecOn with
  | nil => simp [hsent] at h
  | append_singleton past o ih =>
      rw [drawn_append_singleton]
      rw [run_append_singleton, sent_after, List.mem_append] at h
      rcases h with h | h
      · obtain ⟨n, hn, hr⟩ := ih h
        exact ⟨n, by omega, hr⟩
      · obtain ⟨hr, hdraws⟩ := id_of_mem_sentBy h
        refine ⟨drawn past, by omega, ?_⟩
        rw [hr, nextId_run, hid, UInt64.zero_add]

theorem id_lt_nextId_run (hid : start.nextId = 0) (hsent : start.sent = [])
    {past : List Operation} (hdrawn : drawn past < UInt64.size) {r : Request}
    (h : r ∈ (start.run past).sent) : r.id < (start.run past).nextId := by
  obtain ⟨n, hn, hr⟩ := exists_id_eq_of_mem_sent_run hid hsent h
  rw [hr, nextId_run, hid, UInt64.zero_add]
  exact (UInt64.ofNat_lt_iff_lt (Nat.lt_trans hn hdrawn) hdrawn).2 hn

end Link

end RemoteConsole
