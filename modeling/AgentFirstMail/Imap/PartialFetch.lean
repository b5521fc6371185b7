import AgentFirstMail.Imap.Session

namespace AgentFirstMail
open Effect

/-- One item of a `FETCH` response to a request for a part of a body. -/
structure BodyFetch where
  uid : Option Nat
  flags : List String := []
  body : Option Bytes := none

/-- Asks for the bytes of the body of a UID from an offset on, a number of them at most. -/
structure PartialBody where
  uid : Nat
  offset : Nat
  requestBytes : Nat

abbrev PartialFetch (α : Type) := Program Unit PartialBody (fun _ => List BodyFetch) AppError α

abbrev PartialFetchEvent := Event Unit PartialBody (fun _ => List BodyFetch) AppError

def chunkBytes : Nat := 1024 * 1024

/-- Goes on until more than the limit is read, or less was answered than was asked for. -/
def fetchChunks (uid limit : Nat) (raw : Bytes) (flags : List String) :
    PartialFetch (Option (List String × Bytes)) :=
  if _h : raw.length < limit + 1 then
    let requestBytes := min chunkBytes (limit + 1 - raw.length)
    .call ⟨uid, raw.length, requestBytes⟩ fun
      | .error error => .fail error
      | .ok fetches =>
        match fetches.find? (·.uid == some uid) with
        | none => .ret none
        | some fetch =>
          match fetch.body with
          | none => .ret none
          | some body =>
            if _hshort : body.length < requestBytes then
              .ret (some (canonicalFlags fetch.flags, raw ++ body))
            else fetchChunks uid limit (raw ++ body) (canonicalFlags fetch.flags)
  else .ret (some (flags, raw))
termination_by limit + 1 - raw.length
decreasing_by
  have hchunk : 0 < chunkBytes := by decide
  rw [List.length_append]
  omega

def fetchBoundedPartialBody (uid maxMessageBytes : Nat) : PartialFetch (Option (List String × Bytes)) :=
  fetchChunks uid maxMessageBytes [] []

/-- Bytes that a server may send for a part of a message: some of those that were asked for, from
the offset on, and none only behind the end. -/
def CorrectSlice (message : Bytes) (request : PartialBody) (slice : Bytes) : Prop :=
  slice <+: (message.drop request.offset).take request.requestBytes ∧
    (slice = [] → request.requestBytes = 0 ∨ message.length ≤ request.offset)

/-- All bytes that were asked for, as far as there are any. -/
def WholeSlice (message : Bytes) (request : PartialBody) (slice : Bytes) : Prop :=
  slice = (message.drop request.offset).take request.requestBytes

/-- A request that is answered, if it is, by a slice as the server sends them. -/
def ServesBody (law : PartialBody → Bytes → Prop) (event : PartialFetchEvent) : Prop :=
  ∀ reply ∈ event.reply, ∃ fetches fetch slice, reply = .ok fetches ∧
    fetches.find? (·.uid == some event.request.uid) = some fetch ∧ fetch.body = some slice ∧
    law event.request slice

/-- A run that is not cut off returns a message that is within the limit, and more than the limit
of one that is not; it asks for no byte behind the first that exceeds the limit. -/
structure FetchesWithin (limit : Nat) (message : Bytes) (events : List PartialFetchEvent)
    (outcome : Outcome AppError (Option (List String × Bytes))) : Prop where
  asked : ∀ event ∈ events, event.request.offset + event.request.requestBytes ≤ limit + 1
  rounds : events.length ≤ limit + 1
  returned : outcome ≠ .crashed → ∃ flags raw, outcome = .returned (some (flags, raw)) ∧
    (message.length ≤ limit → raw = message) ∧
    (limit < message.length → limit < raw.length ∧ raw.length ≤ limit + chunkBytes)

section Chunks
variable {uid limit : Nat} {message raw : Bytes} {flags : List String}
  {events : List PartialFetchEvent} {outcome : Outcome AppError (Option (List String × Bytes))}

theorem WholeSlice.correct {request : PartialBody} {slice : Bytes}
    (h : WholeSlice message request slice) : CorrectSlice message request slice := by
  rw [WholeSlice] at h
  refine ⟨List.prefix_iff_eq_append.mpr ?_, fun hnil => ?_⟩
  · rw [h, List.drop_length, List.append_nil]
  rw [h, List.take_eq_nil_iff, List.drop_eq_nil_iff] at hnil
  exact hnil

theorem CorrectSlice.isPrefix {slice : Bytes} (hraw : raw <+: message)
    (h : CorrectSlice message ⟨uid, raw.length, count⟩ slice) : raw ++ slice <+: message := by
  obtain ⟨rest, rfl⟩ := hraw
  have hslice := h.1.trans (List.take_prefix _ _)
  rw [List.drop_left] at hslice
  exact List.prefix_append_right_inj raw |>.mpr hslice

theorem WholeSlice.ends {slice : Bytes} (hraw : raw <+: message)
    (h : WholeSlice message ⟨uid, raw.length, count⟩ slice) (hshort : slice.length < count) :
    raw ++ slice = message := by
  obtain ⟨rest, rfl⟩ := hraw
  rw [WholeSlice, List.drop_left] at h
  rw [h, List.length_take] at hshort
  have hrest : rest.length ≤ count := by
    change min count rest.length < count at hshort
    omega
  rw [h, List.take_of_length_le hrest]

/-- Where a fetch goes on from: what it read is what the message starts with. -/
structure FetchedBody (limit : Nat) (message raw : Bytes) (events : List PartialFetchEvent)
    (outcome : Outcome AppError (Option (List String × Bytes))) : Prop where
  asked : ∀ event ∈ events, event.request.offset + event.request.requestBytes ≤ limit + 1
  rounds : events.length ≤ limit + 1 - raw.length
  returned : outcome ≠ .crashed → ∃ flags read, outcome = .returned (some (flags, read)) ∧
    read <+: message ∧ read.length ≤ limit + 1 ∧ (limit < read.length ∨ read = message ∨
      ∃ event ∈ events, ¬ServesBody (WholeSlice message) event)

theorem FetchedBody.ret (hraw : raw <+: message) (hlimit : raw.length ≤ limit + 1)
    (hdone : limit < raw.length)
    (h : Exec (.ret (some (flags, raw)) : PartialFetch _) () events outcome ()) :
    FetchedBody limit message raw events outcome := by
  obtain ⟨_, rfl, hreturned⟩ := h.of_ret
  refine ⟨List.forall_mem_nil _, Nat.zero_le _, fun hcrash => ?_⟩
  cases h with
  | ret => exact ⟨flags, raw, rfl, hraw, hlimit, .inl hdone⟩
  | crash => exact absurd rfl hcrash

theorem FetchedBody.cons {event : PartialFetchEvent} {slice : Bytes}
    (hasked : event.request.offset + event.request.requestBytes ≤ limit + 1)
    (hlimit : raw.length ≤ limit) (hslice : slice ≠ [])
    (h : FetchedBody limit message (raw ++ slice) events outcome) :
    FetchedBody limit message raw (event :: events) outcome := by
  refine ⟨List.forall_mem_cons.mpr ⟨hasked, h.asked⟩, ?_, fun hcrash => ?_⟩
  · have hrounds := h.rounds
    have hpos := List.length_pos_iff.mpr hslice
    rw [List.length_append] at hrounds
    rw [List.length_cons]
    omega
  · obtain ⟨flags, read, hreturned, hread, hlen, hend⟩ := h.returned hcrash
    refine ⟨flags, read, hreturned, hread, hlen, ?_⟩
    obtain hmore | hwhole | ⟨event, hmem, hshort⟩ := hend
    · exact .inl hmore
    · exact .inr (.inl hwhole)
    · exact .inr (.inr ⟨event, List.mem_cons_of_mem _ hmem, hshort⟩)

/-- A slice that is shorter than was asked for ends the fetch. -/
theorem FetchedBody.last {event : PartialFetchEvent} {slice : Bytes} {fetches : List BodyFetch}
    {fetch : BodyFetch} (hrequest : event.request = ⟨uid, raw.length, count⟩)
    (hreply : event.reply = some (.ok fetches))
    (hfind : fetches.find? (·.uid == some uid) = some fetch) (hbody : fetch.body = some slice)
    (hraw : raw <+: message) (hread : raw ++ slice <+: message)
    (hasked : raw.length + count ≤ limit + 1) (hshort : slice.length < count)
    (h : Exec (.ret (some (flags, raw ++ slice)) : PartialFetch _) () events outcome ()) :
    FetchedBody limit message raw (event :: events) outcome := by
  obtain ⟨_, rfl, _⟩ := h.of_ret
  refine ⟨List.forall_mem_singleton.mpr ?_, ?_, fun hcrash => ?_⟩
  · rw [hrequest]
    exact hasked
  · rw [List.length_singleton]
    omega
  cases h with
  | crash => exact absurd rfl hcrash
  | ret =>
    refine ⟨flags, raw ++ slice, rfl, hread, ?_, .inr ?_⟩
    · rw [List.length_append]
      omega
    by_cases hwhole : ServesBody (WholeSlice message) event
    · obtain ⟨fetches', fetch', slice', heq, hfind', hbody', hslice⟩ := hwhole _ hreply
      cases heq
      rw [hrequest] at hfind' hslice
      cases hfind.symm.trans hfind'
      cases hbody.symm.trans hbody'
      exact .inl (hslice.ends hraw hshort)
    · exact .inr ⟨event, List.mem_singleton_self _, hwhole⟩

theorem fetchChunks_fetched (hraw : raw <+: message) (hlimit : raw.length ≤ limit + 1)
    (h : Exec (fetchChunks uid limit raw flags) () events outcome ())
    (hserves : ∀ event ∈ events, ServesBody (CorrectSlice message) event) :
    FetchedBody limit message raw events outcome := by
  induction raw, flags using fetchChunks.induct limit generalizing events with
  | case1 raw flags hmore requestBytes =>
    rename_i ih
    have hchunk : 0 < chunkBytes := by decide
    rw [fetchChunks, dif_pos hmore] at h
    cases h with
    | crash =>
      exact ⟨List.forall_mem_nil _, Nat.zero_le _, fun hcrash => absurd rfl hcrash⟩
    | lost =>
      refine ⟨List.forall_mem_singleton.mpr ?_, ?_, fun hcrash => absurd rfl hcrash⟩
      · dsimp only
        omega
      · rw [List.length_singleton]
        omega
    | call reply h =>
      obtain ⟨hfirst, hlater⟩ := List.forall_mem_cons.mp hserves
      obtain ⟨fetches, fetch, slice, rfl, hfind, hbody, hslice⟩ := hfirst reply rfl
      simp only [hfind, hbody] at h
      have hread := hslice.isPrefix hraw
      split at h
      · rename_i hshort
        exact .last rfl rfl hfind hbody hraw hread (by omega) hshort h
      · rename_i hlong
        have hlen : slice.length ≤ limit + 1 - raw.length := by
          have hcut := hslice.1.length_le
          rw [List.length_take] at hcut
          exact hcut.trans ((min_le_left _ _).trans (min_le_right _ _))
        have hnonempty : slice ≠ [] := by
          rintro rfl
          exact hlong (by rw [List.length_nil]; omega)
        have hrest := ih fetch slice hlong hread (by rw [List.length_append]; omega) h hlater
        exact .cons (by dsimp only; omega) (by omega) hnonempty hrest
  | case2 raw flags hdone =>
    rw [fetchChunks, dif_neg hdone] at h
    exact .ret hraw hlimit (by omega) h

/-- A fetch reads what the message starts with, and all that it is to read of it if the server
sends all that it is asked for. -/
theorem fetchBoundedPartialBody_reads
    (h : Exec (fetchBoundedPartialBody uid limit) () events outcome ())
    (hserves : ∀ event ∈ events, ServesBody (CorrectSlice message) event) :
    FetchedBody limit message [] events outcome ∧
      ((∀ event ∈ events, ServesBody (WholeSlice message) event) →
        FetchesWithin limit message events outcome) := by
  have hfetched := fetchChunks_fetched (List.nil_prefix (l := message)) (Nat.zero_le _) h hserves
  refine ⟨hfetched, fun hwhole => ⟨hfetched.asked, hfetched.rounds, fun hcrash => ?_⟩⟩
  obtain ⟨flags, read, hreturned, hread, hlen, hend⟩ := hfetched.returned hcrash
  have hchunk : 1 ≤ chunkBytes := by decide
  have hlength := hread.length_le
  refine ⟨flags, read, hreturned, fun hfits => ?_, fun hexceeds => ⟨?_, by omega⟩⟩
  · obtain hmore | heq | ⟨event, hmem, hshort⟩ := hend
    · omega
    · exact heq
    · exact absurd (hwhole event hmem) hshort
  · obtain hmore | rfl | ⟨event, hmem, hshort⟩ := hend
    · exact hmore
    · exact hexceeds
    · exact absurd (hwhole event hmem) hshort

end Chunks

section Answered

/-- The answer to the first request of a fetch of at most ten bytes. -/
def firstAnswer (slice : Bytes) : PartialFetchEvent where
  request := ⟨7, 0, 11⟩
  state := ()
  reply := some (.ok [{ uid := some 7, body := some slice }])

theorem exec_firstAnswer {slice : Bytes} (h : slice.length < 11) :
    Exec (fetchBoundedPartialBody 7 10) () [firstAnswer slice] (.returned (some ([], slice))) () := by
  rw [fetchBoundedPartialBody, fetchChunks, dif_pos (by decide)]
  refine .call _ ?_
  simp only [List.find?_cons, beq_self_eq_true]
  have hshort : slice.length < min chunkBytes (10 + 1 - ([] : Bytes).length) := by
    rw [List.length_nil, Nat.min_eq_right (by decide)]
    exact h
  rw [dif_pos hshort]
  exact .ret

theorem serves_firstAnswer {law : PartialBody → Bytes → Prop} {slice : Bytes}
    (h : law ⟨7, 0, 11⟩ slice) : ∀ event ∈ [firstAnswer slice], ServesBody law event := by
  refine List.forall_mem_singleton.mpr fun reply hreply => ?_
  cases hreply
  exact ⟨_, _, slice, rfl, rfl, rfl, h⟩

theorem fetchBoundedPartialBody_four :
    FetchesWithin 10 [1, 2, 3, 4] [firstAnswer [1, 2, 3, 4]] (.returned (some ([], [1, 2, 3, 4]))) := by
  have hwhole : WholeSlice [1, 2, 3, 4] ⟨7, 0, 11⟩ [1, 2, 3, 4] := by rw [WholeSlice]; rfl
  exact (fetchBoundedPartialBody_reads (exec_firstAnswer (by decide))
    (serves_firstAnswer hwhole.correct)).2 (serves_firstAnswer hwhole)

/-- Two bytes of a message of four are taken for all of it. -/
theorem fetchBoundedPartialBody_shortens : ∃ events outcome,
    Exec (fetchBoundedPartialBody 7 10) () events outcome () ∧
      (∀ event ∈ events, ServesBody (CorrectSlice [1, 2, 3, 4]) event) ∧
      ¬FetchesWithin 10 [1, 2, 3, 4] events outcome := by
  have hslice : CorrectSlice [1, 2, 3, 4] ⟨7, 0, 11⟩ [1, 2] := by
    exact ⟨⟨[3, 4], rfl⟩, fun hnil => nomatch hnil⟩
  refine ⟨_, _, exec_firstAnswer (by decide), serves_firstAnswer hslice, fun h => ?_⟩
  obtain ⟨flags, raw, hreturned, hwithin, _⟩ := h.returned (fun heq => nomatch heq)
  have hraw := hwithin (by decide)
  rw [hraw] at hreturned
  cases hreturned

end Answered
end AgentFirstMail
