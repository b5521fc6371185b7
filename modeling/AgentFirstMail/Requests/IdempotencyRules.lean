import AgentFirstMail.Requests.Idempotency

namespace AgentFirstMail
open Effect
variable {ι δ τ α β : Type} {host : Host} {fingerprint : String → ι → δ}
  {request other : IdempotentRequest ι} {s s' s'' : RequestRecords δ α}
  {events history : List (GuardEvent ι δ τ α)} {outcome : Outcome AppError α}

/-- The operation of a request is run, to its end or not. -/
def operates (requestId : String) (event : GuardEvent ι δ τ α) : Bool :=
  match event.request with
  | .operation request _ => request.requestId == requestId
  | .requireWorkspace | .precheck _ => false

/-- The operation of a request answered with a result. -/
def Answered (request : IdempotentRequest ι) (result : α) (event : GuardEvent ι δ τ α) : Prop :=
  ∃ prepared state, event = ⟨.operation request prepared, state, some (.ok result)⟩

section Sessions

theorem exec_performCall_bind {call : GuardCall ι τ} {f : call.Reply α → Guarded ι δ τ α β}
    {outcome : Outcome AppError β}
    (hexec : Exec ((performCall call).bind f) s events outcome s') :
    (∃ value rest, events = ⟨call, s, some (.ok value)⟩ :: rest ∧ Exec (f value) s rest outcome s') ∨
    (∃ error, s' = s ∧ events = [⟨call, s, some (.error error)⟩] ∧
      (outcome = .failed error ∨ outcome = .crashed)) ∨
    s' = s ∧ outcome = .crashed ∧ (events = [] ∨ events = [⟨call, s, none⟩]) := by
  cases hexec with
  | crash => exact .inr (.inr ⟨rfl, rfl, .inl rfl⟩)
  | lost => exact .inr (.inr ⟨rfl, rfl, .inr rfl⟩)
  | call reply hrest =>
    cases reply with
    | ok value => exact .inl ⟨value, _, rfl, hrest⟩
    | error error =>
      right
      left
      cases hrest with
      | fail => exact ⟨error, rfl, rfl, .inl rfl⟩
      | crash => exact ⟨error, rfl, rfl, .inr rfl⟩

/-- What a request with a record comes to: nothing is checked or run, nothing is written, and
unless there is no workspace it gets this answer. -/
structure Repeated (host : Host) (command : String) (answer : Result α) (s : RequestRecords δ α)
    (events : List (GuardEvent ι δ τ α)) (outcome : Outcome AppError α) (s' : RequestRecords δ α) :
    Prop where
  unchanged : s' = s
  asked : ∀ event ∈ events, event.request = .requireWorkspace
  answered : host.validPathSegment command = true →
    (∀ event ∈ events, ∀ error, event.reply ≠ some (.error error)) →
    outcome = .ofExcept answer ∨ outcome = .crashed

/-- A record is written under an id, and no other. -/
structure Recorded (requestId : String) (record : IdempotencyRecord δ α)
    (s s' : RequestRecords δ α) : Prop where
  written : s'[requestId]? = some record
  others : ∀ other, other ≠ requestId → s'[other]? = s[other]?

/-- How a request without a record ends: still without one, with a pending one, or with its
result. -/
inductive NewRequestEnds (request : IdempotentRequest ι) (inputHash : δ) (s : RequestRecords δ α)
    (events : List (GuardEvent ι δ τ α)) (outcome : Outcome AppError α) (s' : RequestRecords δ α) :
    Prop
  | unrecorded : s' = s → events.filter (operates request.requestId) = [] → outcome.Stopped →
      NewRequestEnds request inputHash s events outcome s'
  | pending (host : Host) :
      Recorded request.requestId (pendingRecord host request inputHash) s s' →
      (events.filter (operates request.requestId)).length ≤ 1 → outcome.Stopped →
      NewRequestEnds request inputHash s events outcome s'
  | completed (host : Host) (result : α) :
      Recorded request.requestId (completedRecord host request inputHash result) s s' →
      (events.filter (operates request.requestId)).length = 1 →
      (∃ event ∈ events, Answered request result event) →
      outcome = .returned result ∨ outcome = .crashed →
      NewRequestEnds request inputHash s events outcome s'

theorem recorded_insert (requestId : String) (record : IdempotencyRecord δ α)
    (s : RequestRecords δ α) : Recorded requestId record s (s.insert requestId record) where
  written := Std.ExtTreeMap.getElem?_insert_self
  others other hne := by
    rw [Std.ExtTreeMap.getElem?_insert, if_neg]
    rw [Std.LawfulEqCmp.compare_eq_iff_eq]
    exact hne.symm

theorem Recorded.insert {record : IdempotencyRecord δ α} (hrecorded : Recorded requestId record s s')
    (later : IdempotencyRecord δ α) :
    Recorded requestId later s (s'.insert requestId later) where
  written := (recorded_insert requestId later s').written
  others other hne :=
    ((recorded_insert requestId later s').others other hne).trans (hrecorded.others other hne)

theorem operates_operation {prepared : τ} {reply : Option (Except AppError α)} :
    operates request.requestId (⟨.operation request prepared, s, reply⟩ : GuardEvent ι δ τ α) =
      true := beq_self_eq_true request.requestId

theorem exec_write_bind {change : RequestRecords δ α → RequestRecords δ α}
    {f : Unit → Guarded ι δ τ α β} {outcome : Outcome AppError β}
    (hexec : Exec ((Program.write change).bind f) s events outcome s') :
    Exec (f ()) (change s) events outcome s' ∨ s' = s ∧ outcome = .crashed ∧ events = [] := by
  cases hexec with
  | crash => exact .inr ⟨rfl, rfl, rfl⟩
  | store hrest => exact .inl hrest

theorem stopped_crashed : (Outcome.crashed : Outcome AppError α).Stopped := fun _ heq => nomatch heq

/-- The operation of a request that is pending is run at once, and its result recorded. -/
theorem runOperation_ends {inputHash : δ} {prepared : τ} {pending : RequestRecords δ α}
    (hpending : Recorded request.requestId (pendingRecord host request inputHash) s pending)
    (hexec : Exec ((performCall (.operation request prepared)).bind fun result =>
      (Program.write (·.insert request.requestId
        (completedRecord host request inputHash result))).bind fun _ => .ret result)
      pending events outcome s') :
    NewRequestEnds request inputHash s events outcome s' := by
  rcases exec_performCall_bind hexec with ⟨result, run, rfl, hrun⟩ |
    ⟨error, rfl, rfl, houtcome⟩ | ⟨rfl, rfl, hevents⟩
  · rcases exec_write_bind hrun with hdone | ⟨rfl, rfl, rfl⟩
    · obtain ⟨rfl, rfl, _⟩ := hdone.of_ret
      refine .completed host result (hpending.insert _) ?_
        ⟨_, List.mem_cons_self, prepared, _, rfl⟩ ?_
      · rw [List.filter_cons_of_pos operates_operation]
        rfl
      · cases hdone with
        | ret => exact .inl rfl
        | crash => exact .inr rfl
    · exact .pending host hpending (List.length_filter_le _ [_]) stopped_crashed
  · exact .pending host hpending (List.length_filter_le _ [_]) (.of_failed houtcome)
  · rcases hevents with rfl | rfl
    · exact .pending host hpending (List.length_filter_le _ [] |>.trans (Nat.zero_le 1))
        stopped_crashed
    · exact .pending host hpending (List.length_filter_le _ [_]) stopped_crashed

theorem NewRequestEnds.cons {inputHash : δ} {event : GuardEvent ι δ τ α}
    (hends : NewRequestEnds request inputHash s events outcome s')
    (hevent : operates request.requestId event = false) :
    NewRequestEnds request inputHash s (event :: events) outcome s' := by
  have hfilter : (event :: events).filter (operates request.requestId) =
      events.filter (operates request.requestId) :=
    List.filter_cons_of_neg (by rw [hevent]; exact Bool.false_ne_true)
  cases hends with
  | unrecorded hsame hnone hstopped =>
    exact .unrecorded hsame (hfilter.trans hnone) hstopped
  | pending host hrecorded honce hstopped =>
    exact .pending host hrecorded (by rw [hfilter]; exact honce) hstopped
  | completed host result hrecorded honce hanswered houtcome =>
    obtain ⟨found, hmem, hfound⟩ := hanswered
    exact .completed host result hrecorded (by rw [hfilter]; exact honce)
      ⟨found, List.mem_cons_of_mem _ hmem, hfound⟩ houtcome

theorem runNewRequest_ends {inputHash : δ}
    (hexec : Exec (runNewRequest host request inputHash) s events outcome s') :
    NewRequestEnds request inputHash s events outcome s' := by
  rcases exec_performCall_bind hexec with ⟨prepared, checked, rfl, hchecked⟩ |
    ⟨error, rfl, rfl, houtcome⟩ | ⟨rfl, rfl, hevents⟩
  · rcases exec_write_bind hchecked with hpending | ⟨rfl, rfl, rfl⟩
    · exact (runOperation_ends (recorded_insert _ _ s) hpending).cons rfl
    · exact .unrecorded rfl rfl stopped_crashed
  · exact .unrecorded rfl rfl (.of_failed houtcome)
  · rcases hevents with rfl | rfl
    · exact .unrecorded rfl rfl stopped_crashed
    · exact .unrecorded rfl rfl stopped_crashed

/-- The check of a new request comes first, and its operation last; there is no other. -/
theorem runNewRequest_asked {inputHash : δ}
    (hexec : Exec (runNewRequest host request inputHash) s events outcome s') :
    ∃ checked run, events = checked ++ run ∧ checked.length ≤ 1 ∧
      (∀ event ∈ checked, event.request = .precheck request) ∧
      (∀ event ∈ run, ∃ prepared, event.request = .operation request prepared) := by
  have hnone : ∀ event ∈ ([] : List (GuardEvent ι δ τ α)),
      ∃ prepared, event.request = .operation request prepared := by
    intro event hmem
    cases hmem
  have hone : ∀ reply, ∀ event ∈ [(⟨.precheck request, s, reply⟩ : GuardEvent ι δ τ α)],
      event.request = .precheck request := by
    intro reply event hmem
    rw [List.mem_singleton.mp hmem]
  rcases exec_performCall_bind hexec with ⟨prepared, rest, rfl, hchecked⟩ |
    ⟨error, rfl, rfl, _⟩ | ⟨rfl, rfl, hevents⟩
  · refine ⟨[_], rest, rfl, le_rfl, hone _, ?_⟩
    rcases exec_write_bind hchecked with hpending | ⟨_, _, rfl⟩
    · rcases exec_performCall_bind hpending with ⟨result, more, rfl, hrun⟩ | ⟨error, _, rfl, _⟩ |
        ⟨_, _, hevents⟩
      · rcases exec_write_bind hrun with hdone | ⟨_, _, rfl⟩
        · rw [hdone.of_ret.2.1]
          intro event hmem
          rw [List.mem_singleton.mp hmem]
          exact ⟨prepared, rfl⟩
        · intro event hmem
          rw [List.mem_singleton.mp hmem]
          exact ⟨prepared, rfl⟩
      · intro event hmem
        rw [List.mem_singleton.mp hmem]
        exact ⟨prepared, rfl⟩
      · rcases hevents with rfl | rfl
        · exact hnone
        · intro event hmem
          rw [List.mem_singleton.mp hmem]
          exact ⟨prepared, rfl⟩
    · exact hnone
  · exact ⟨[_], [], rfl, le_rfl, hone _, hnone⟩
  · rcases hevents with rfl | rfl
    · exact ⟨[], [], rfl, Nat.zero_le 1, (fun event hmem => nomatch hmem), hnone⟩
    · exact ⟨[_], [], rfl, le_rfl, hone _, hnone⟩

/-- A check that fails ends a new request before anything is written or run. -/
theorem runNewRequest_unchecked {inputHash : δ} {error : AppError} {checked : IdempotentRequest ι}
    {state : RequestRecords δ α}
    (hexec : Exec (runNewRequest host request inputHash) s events outcome s')
    (hmem : (⟨.precheck checked, state, some (.error error)⟩ : GuardEvent ι δ τ α) ∈ events) :
    s' = s ∧ events.filter (operates request.requestId) = [] ∧
      (outcome = .failed error ∨ outcome = .crashed) := by
  obtain ⟨before, run, heq, hlength, _, hrun⟩ := runNewRequest_asked hexec
  rcases exec_performCall_bind hexec with ⟨prepared, rest, rfl, _⟩ | ⟨found, rfl, rfl, houtcome⟩ |
    ⟨rfl, rfl, hevents⟩
  · have hrest : rest ⊆ run := by
      cases before with
      | nil =>
        rw [List.nil_append] at heq
        obtain ⟨_, hfirst⟩ := hrun _ (heq ▸ List.mem_cons_self)
        cases hfirst
      | cons first others =>
        have hothers : others = [] := by
          rw [List.length_cons] at hlength
          exact List.length_eq_zero_iff.mp (by omega)
        rw [hothers, List.cons_append, List.nil_append] at heq
        rw [(List.cons.inj heq).2]
        exact List.Subset.refl run
    rcases List.mem_cons.mp hmem with hfirst | hlast
    · cases hfirst
    · obtain ⟨_, hoperation⟩ := hrun _ (hrest hlast)
      cases hoperation
  · cases List.mem_singleton.mp hmem
    exact ⟨rfl, rfl, houtcome⟩
  · rcases hevents with rfl | rfl
    · cases hmem
    · cases List.mem_singleton.mp hmem

theorem exec_ofExcept {result : Result α}
    (hexec : Exec (Program.ofExcept result : Guarded ι δ τ α α) s events outcome s') :
    s' = s ∧ events = [] ∧ (outcome = .ofExcept result ∨ outcome = .crashed) := by
  cases result with
  | ok value =>
    cases hexec with
    | ret => exact ⟨rfl, rfl, .inl rfl⟩
    | crash => exact ⟨rfl, rfl, .inr rfl⟩
  | error error =>
    cases hexec with
    | fail => exact ⟨rfl, rfl, .inl rfl⟩
    | crash => exact ⟨rfl, rfl, .inr rfl⟩

theorem filter_operates_eq_nil {requestId : String}
    (hasked : ∀ event ∈ events, event.request = .requireWorkspace) :
    events.filter (operates requestId) = [] := by
  rw [List.filter_eq_nil_iff]
  intro event hmem
  rw [operates, hasked event hmem]
  exact Bool.false_ne_true

variable [DecidableEq δ]

/-- What the guard does before it knows whether there is a record. -/
structure Refused (host : Host) (request : IdempotentRequest ι) (s : RequestRecords δ α)
    (events : List (GuardEvent ι δ τ α)) (outcome : Outcome AppError α) (s' : RequestRecords δ α) :
    Prop where
  unchanged : s' = s
  stopped : outcome.Stopped
  asked : ∀ event ∈ events, event.request = .requireWorkspace
  crashed : host.validPathSegment request.requestId = true →
    host.validPathSegment request.command = true →
    (∀ event ∈ events, ∀ error, event.reply ≠ some (.error error)) → outcome = .crashed

/-- What the guard does with a request whose record it has looked for. -/
inductive LookedUp (host : Host) (fingerprint : String → ι → δ) (request : IdempotentRequest ι)
    (s : RequestRecords δ α) (events : List (GuardEvent ι δ τ α)) (outcome : Outcome AppError α)
    (s' : RequestRecords δ α) : Prop
  | found (record : IdempotencyRecord δ α) : s[request.requestId]? = some record → s' = s →
      events = [] → outcome = .ofExcept (answerFromRecord request
        (fingerprint request.command request.input) record) ∨ outcome = .crashed →
      LookedUp host fingerprint request s events outcome s'
  | missing : s[request.requestId]? = none →
      Exec (runNewRequest host request (fingerprint request.command request.input)) s events
        outcome s' →
      LookedUp host fingerprint request s events outcome s'

theorem exec_guard
    (hexec : Exec (runIdempotentRequestWithPrecheck host fingerprint request) s events outcome s') :
    Refused host request s events outcome s' ∨ ∃ rest,
      events = ⟨.requireWorkspace, s, some (.ok ())⟩ :: rest ∧
      host.validPathSegment request.requestId = true ∧
      LookedUp host fingerprint request s rest outcome s' := by
  rcases exec_performCall_bind hexec with ⟨_, rest, rfl, hopened⟩ | ⟨error, rfl, rfl, houtcome⟩ |
    ⟨rfl, rfl, hevents⟩
  · have hasked : ∀ event ∈ [(⟨.requireWorkspace, s, some (.ok ())⟩ : GuardEvent ι δ τ α)],
        event.request = .requireWorkspace := by
      intro event hmem
      rw [List.mem_singleton.mp hmem]
    rcases hopened.of_ofExcept_bind with ⟨_, hid, hnamed⟩ | ⟨error, herror, rfl, rfl, houtcome⟩
    · rw [validateId, ensure_eq_ok_iff] at hid
      rcases hnamed.of_ofExcept_bind with ⟨_, hcommand, hlooked⟩ | ⟨error, herror, rfl, rfl, houtcome⟩
      · cases hlooked with
        | crash => exact .inl ⟨rfl, stopped_crashed, hasked, fun _ _ _ => rfl⟩
        | load hlooked =>
          refine .inr ⟨_, rfl, hid, ?_⟩
          cases hget : s[request.requestId]? with
          | some record =>
            simp only [Program.bind, hget] at hlooked
            obtain ⟨rfl, rfl, houtcome⟩ := exec_ofExcept hlooked
            exact .found record hget rfl rfl houtcome
          | none =>
            simp only [Program.bind, hget] at hlooked
            exact .missing hget hlooked
      · refine .inl ⟨rfl, .of_failed houtcome, hasked, ?_⟩
        intro _ hvalid
        rw [validateId, ensure, hvalid] at herror
        cases herror
    · refine .inl ⟨rfl, .of_failed houtcome, hasked, ?_⟩
      intro hvalid
      rw [validateId, ensure, hvalid] at herror
      cases herror
  · refine .inl ⟨rfl, .of_failed houtcome, ?_, ?_⟩
    · intro event hmem
      rw [List.mem_singleton.mp hmem]
    · intro _ _ hnone
      exact (hnone _ List.mem_cons_self error rfl).elim
  · refine .inl ⟨rfl, stopped_crashed, ?_, fun _ _ _ => rfl⟩
    rcases hevents with rfl | rfl
    · intro event hmem
      cases hmem
    · intro event hmem
      rw [List.mem_singleton.mp hmem]

theorem guard_recorded {record : IdempotencyRecord δ α}
    (hid : host.validPathSegment request.requestId = true)
    (hget : s[request.requestId]? = some record)
    (hexec : Exec (runIdempotentRequestWithPrecheck host fingerprint request) s events outcome s') :
    Repeated host request.command (answerFromRecord request
      (fingerprint request.command request.input) record) s events outcome s' := by
  rcases exec_guard hexec with hrefused | ⟨rest, rfl, _, hlooked⟩
  · refine ⟨hrefused.unchanged, hrefused.asked, ?_⟩
    intro hcommand hnone
    exact .inr (hrefused.crashed hid hcommand hnone)
  · cases hlooked with
    | found found hfound hsame hevents houtcome =>
      cases hget.symm.trans hfound
      subst hevents
      refine ⟨hsame, ?_, fun _ _ => houtcome⟩
      intro event hmem
      rw [List.mem_singleton.mp hmem]
    | missing hnone => cases hget.symm.trans hnone

theorem guard_new (hget : s[request.requestId]? = none)
    (hexec : Exec (runIdempotentRequestWithPrecheck host fingerprint request) s events outcome s') :
    NewRequestEnds request (fingerprint request.command request.input) s events outcome s' := by
  rcases exec_guard hexec with hrefused | ⟨rest, rfl, _, hlooked⟩
  · exact .unrecorded hrefused.unchanged (filter_operates_eq_nil hrefused.asked) hrefused.stopped
  · cases hlooked with
    | found found hfound => cases hget.symm.trans hfound
    | missing _ hnew => exact (runNewRequest_ends hnew).cons rfl

theorem guard_valid (hget : s[request.requestId]? = none) (hwritten : s'[request.requestId]?.isSome)
    (hexec : Exec (runIdempotentRequestWithPrecheck host fingerprint request) s events outcome s') :
    host.validPathSegment request.requestId = true := by
  rcases exec_guard hexec with hrefused | ⟨_, _, hid, _⟩
  · rw [hrefused.unchanged, hget] at hwritten
    cases hwritten
  · exact hid

theorem guard_others {requestId : String} (hne : requestId ≠ request.requestId)
    (hexec : Exec (runIdempotentRequestWithPrecheck host fingerprint request) s events outcome s') :
    events.filter (operates requestId) = [] := by
  rcases exec_guard hexec with hrefused | ⟨rest, rfl, _, hlooked⟩
  · exact filter_operates_eq_nil hrefused.asked
  · rw [List.filter_cons_of_neg (by exact Bool.false_ne_true)]
    cases hlooked with
    | found found _ _ hevents =>
      rw [hevents]
      rfl
    | missing _ hnew =>
      obtain ⟨checked, run, rfl, _, hchecked, hrun⟩ := runNewRequest_asked hnew
      rw [List.filter_eq_nil_iff]
      intro event hmem
      rcases List.mem_append.mp hmem with hleft | hright
      · rw [operates, hchecked event hleft]
        exact Bool.false_ne_true
      · obtain ⟨prepared, heq⟩ := hrun event hright
        rw [operates, heq, beq_iff_eq]
        exact hne.symm

end Sessions

section Runs

/-- A record that a request has written. -/
def WrittenBy (fingerprint : String → ι → δ) (request : IdempotentRequest ι)
    (record : IdempotencyRecord δ α) : Prop :=
  ∃ host, record = pendingRecord host request (fingerprint request.command request.input) ∨
    ∃ result, record =
      completedRecord host request (fingerprint request.command request.input) result

theorem NewRequestEnds.writtenBy {record : IdempotencyRecord δ α}
    (hends : NewRequestEnds request (fingerprint request.command request.input) s events outcome s')
    (hmissing : s[request.requestId]? = none) (hget : s'[request.requestId]? = some record) :
    WrittenBy fingerprint request record := by
  cases hends with
  | unrecorded hsame =>
    rw [hsame, hmissing] at hget
    cases hget
  | pending host hrecorded =>
    cases hget.symm.trans hrecorded.written
    exact ⟨host, .inl rfl⟩
  | completed host result hrecorded =>
    cases hget.symm.trans hrecorded.written
    exact ⟨host, .inr ⟨result, rfl⟩⟩

variable [DecidableEq δ]

theorem answer_completed {inputHash : δ} {result : α} :
    answerFromRecord request inputHash (completedRecord host request inputHash result) =
      .ok result := by
  simp [answerFromRecord, completedRecord]

theorem answer_pending {inputHash : δ} :
    answerFromRecord request inputHash (pendingRecord host request inputHash :
      IdempotencyRecord δ α) = .error (idempotencyIncomplete request.requestId) := by
  simp [answerFromRecord, pendingRecord]

theorem answer_conflict {record : IdempotencyRecord δ α}
    (hfingerprint : ∀ command, Function.Injective (fingerprint command))
    (hrecord : WrittenBy fingerprint request record) (hid : other.requestId = request.requestId)
    (hne : other ≠ request) :
    answerFromRecord other (fingerprint other.command other.input) record =
      .error (idempotencyConflict request.requestId) := by
  have hdiffers : request.command ≠ other.command ∨
      fingerprint request.command request.input ≠ fingerprint other.command other.input := by
    by_contra hsame
    simp only [ne_eq, not_or, not_not] at hsame
    obtain ⟨hcommand, hinput⟩ := hsame
    rw [hcommand] at hinput
    apply hne
    cases other
    cases request
    simp_all [(hfingerprint _).eq_iff]
  obtain ⟨host, rfl | ⟨result, rfl⟩⟩ := hrecord
  · simp [answerFromRecord, pendingRecord, hdiffers, hid]
  · simp [answerFromRecord, completedRecord, hdiffers, hid]

theorem guard_unrelated {requestId : String} (hne : requestId ≠ request.requestId)
    (hexec : Exec (runIdempotentRequestWithPrecheck host fingerprint request) s events outcome s') :
    s'[requestId]? = s[requestId]? := by
  rcases exec_guard hexec with hrefused | ⟨rest, rfl, _, hlooked⟩
  · rw [hrefused.unchanged]
  · cases hlooked with
    | found _ _ hsame => rw [hsame]
    | missing hnone hnew =>
      cases runNewRequest_ends hnew with
      | unrecorded hsame => rw [hsame]
      | pending _ hrecorded => exact hrecorded.others _ hne
      | completed _ _ hrecorded => exact hrecorded.others _ hne

theorem guard_keeps {requestId : String} {record : IdempotencyRecord δ α}
    (hget : s[requestId]? = some record)
    (hexec : Exec (runIdempotentRequestWithPrecheck host fingerprint request) s events outcome s') :
    s'[requestId]? = some record := by
  by_cases hid : requestId = request.requestId
  · subst hid
    rcases exec_guard hexec with hrefused | ⟨rest, rfl, _, hlooked⟩
    · rw [hrefused.unchanged]
      exact hget
    · cases hlooked with
      | found _ _ hsame =>
        rw [hsame]
        exact hget
      | missing hnone => cases hget.symm.trans hnone
  · exact (guard_unrelated hid hexec).trans hget

theorem record_of_run {requestId : String} {record : IdempotencyRecord δ α}
    (hget : s[requestId]? = some record)
    (hrun : Run (RequestSession host fingerprint) s history s') : s'[requestId]? = some record := by
  induction hrun with
  | start => exact hget
  | next _ hsession ih =>
    cases hsession with
    | run now request outcome hexec => exact guard_keeps ih hexec

/-- Every operation that was begun has a record, and is the only one under its id. -/
structure RunsOnce (history : List (GuardEvent ι δ τ α)) (s : RequestRecords δ α) : Prop where
  once : ∀ requestId, (history.filter (operates requestId)).length ≤ 1
  recorded : ∀ requestId, s[requestId]? = none → history.filter (operates requestId) = []

theorem RunsOnce.session (hruns : RunsOnce history s)
    (hsession : RequestSession host fingerprint s events s') : RunsOnce (history ++ events) s' := by
  cases hsession with
  | run now request outcome hexec =>
    have hother : ∀ requestId, requestId ≠ request.requestId →
        (history ++ events).filter (operates requestId) = history.filter (operates requestId) := by
      intro requestId hne
      rw [List.filter_append, guard_others hne hexec, List.append_nil]
    have hown : ((history ++ events).filter (operates request.requestId)).length ≤ 1 ∧
        (s'[request.requestId]? = none →
          (history ++ events).filter (operates request.requestId) = []) := by
      rw [List.filter_append]
      cases hget : s[request.requestId]? with
      | some record =>
        have hkept := guard_keeps hget hexec
        have hnone : events.filter (operates request.requestId) = [] := by
          rcases exec_guard hexec with hrefused | ⟨rest, rfl, hid, _⟩
          · exact filter_operates_eq_nil hrefused.asked
          · exact filter_operates_eq_nil (guard_recorded hid hget hexec).asked
        rw [hnone, List.append_nil]
        refine ⟨hruns.once _, ?_⟩
        intro hmissing
        cases hkept.symm.trans hmissing
      | none =>
        rw [hruns.recorded _ hget, List.nil_append]
        cases guard_new hget hexec with
        | unrecorded _ hnone =>
          rw [hnone]
          exact ⟨Nat.zero_le 1, fun _ => rfl⟩
        | pending _ hrecorded honce =>
          refine ⟨honce, ?_⟩
          intro hmissing
          cases hrecorded.written.symm.trans hmissing
        | completed _ _ hrecorded honce =>
          refine ⟨honce.le, ?_⟩
          intro hmissing
          cases hrecorded.written.symm.trans hmissing
    constructor
    · intro requestId
      by_cases heq : requestId = request.requestId
      · rw [heq]
        exact hown.1
      · rw [hother requestId heq]
        exact hruns.once requestId
    · intro requestId hmissing
      by_cases heq : requestId = request.requestId
      · subst heq
        exact hown.2 hmissing
      · rw [hother requestId heq]
        apply hruns.recorded
        cases hget : s[requestId]? with
        | none => rfl
        | some record => cases (guard_keeps hget hexec).symm.trans hmissing

theorem runsOnce_of_run (hrun : Run (RequestSession host fingerprint) ∅ history s) :
    RunsOnce history s := by
  induction hrun with
  | start => exact ⟨fun _ => Nat.zero_le 1, fun _ _ => rfl⟩
  | next _ hsession ih => exact ih.session hsession

/-- A session in which a request without a record got one. -/
structure Begun (host : Host) (fingerprint : String → ι → δ) (request : IdempotentRequest ι)
    (s : RequestRecords δ α) (events : List (GuardEvent ι δ τ α)) (outcome : Outcome AppError α)
    (s' : RequestRecords δ α) : Prop where
  missing : s[request.requestId]? = none
  exec : ∃ now, Exec (runIdempotentRequestWithPrecheck (host.at now) fingerprint request) s
    events outcome s'
  written : s'[request.requestId]?.isSome

/-- What a request is answered after any further ones, without being checked or run. -/
def Repeats (τ : Type) (host : Host) (fingerprint : String → ι → δ) (s : RequestRecords δ α)
    (request : IdempotentRequest ι) (answer : Result α) : Prop :=
  ∀ later s', Run (@RequestSession ι δ τ α _ host fingerprint) s later s' →
    ∀ now (events : List (GuardEvent ι δ τ α)) outcome s'',
      Exec (runIdempotentRequestWithPrecheck (host.at now) fingerprint request) s' events
        outcome s'' →
      Repeated host request.command answer s' events outcome s''

/-- What requests come to after a history of them: no operation runs twice; a failed check leaves
nothing behind; a request without a record is new; and once a request has written its record,
the same one gets its result, or is told that it is incomplete, and a different one under its id
is a conflict. -/
structure IdempotencyRules (host : Host) (fingerprint : String → ι → δ)
    (history : List (GuardEvent ι δ τ α)) (s : RequestRecords δ α) : Prop where
  once : ∀ requestId, (history.filter (operates requestId)).length ≤ 1
  unchecked : ∀ now request events outcome s' error checked state,
    Exec (runIdempotentRequestWithPrecheck (host.at now) fingerprint request) s events
      outcome s' →
    (⟨.precheck checked, state, some (.error error)⟩ : GuardEvent ι δ τ α) ∈ events →
    s[request.requestId]? = none ∧ s' = s ∧ events.filter (operates request.requestId) = [] ∧
      (outcome = .failed error ∨ outcome = .crashed)
  new : ∀ now request (events : List (GuardEvent ι δ τ α)) outcome s',
    s[request.requestId]? = none →
    Exec (runIdempotentRequestWithPrecheck (host.at now) fingerprint request) s events
      outcome s' →
    NewRequestEnds request (fingerprint request.command request.input) s events outcome s'
  conflict : ∀ request (events : List (GuardEvent ι δ τ α)) outcome s',
    Begun host fingerprint request s events outcome s' →
    ∀ other, other.requestId = request.requestId → other ≠ request →
      Repeats τ host fingerprint s' other (.error (idempotencyConflict request.requestId))
  replayed : ∀ request (events : List (GuardEvent ι δ τ α)) result s',
    Begun host fingerprint request s events (.returned result) s' →
    Repeats τ host fingerprint s' request (.ok result)
  interrupted : ∀ request (events : List (GuardEvent ι δ τ α)) outcome s',
    Begun host fingerprint request s events outcome s' → outcome.Stopped →
    Repeats τ host fingerprint s' request (.error (idempotencyIncomplete request.requestId)) ∨
      outcome = .crashed ∧ ∃ result, (∃ event ∈ events, Answered request result event) ∧
        Repeats τ host fingerprint s' request (.ok result)

theorem Begun.valid (hbegun : Begun host fingerprint request s events outcome s') :
    host.validPathSegment request.requestId = true := by
  obtain ⟨now, hexec⟩ := hbegun.exec
  have hid : (host.at now).validPathSegment request.requestId = true :=
    guard_valid hbegun.missing hbegun.written hexec
  exact hid

theorem Begun.ends (hbegun : Begun host fingerprint request s events outcome s') :
    NewRequestEnds request (fingerprint request.command request.input) s events outcome s' := by
  obtain ⟨now, hexec⟩ := hbegun.exec
  exact guard_new hbegun.missing hexec

theorem repeats_of_record {record : IdempotencyRecord δ α}
    (hid : host.validPathSegment request.requestId = true)
    (hget : s[request.requestId]? = some record)
    (hanswer : answerFromRecord request (fingerprint request.command request.input) record =
      answer) : Repeats τ host fingerprint s request answer := by
  intro later s' hrun now events outcome s'' hexec
  have hvalid : (host.at now).validPathSegment request.requestId = true := hid
  have hrepeated := guard_recorded hvalid (record_of_run hget hrun) hexec
  rw [hanswer] at hrepeated
  exact ⟨hrepeated.unchanged, hrepeated.asked, hrepeated.answered⟩

/-- The rules hold after every sequence of requests, wherever they were cut off. -/
theorem idempotencyRules_of_run
    (hfingerprint : ∀ command, Function.Injective (fingerprint command))
    (hrun : Run (RequestSession host fingerprint) ∅ history s) :
    IdempotencyRules host fingerprint history s where
  once := (runsOnce_of_run hrun).once
  unchecked := by
    intro now request events outcome s' error checked state hexec hmem
    rcases exec_guard hexec with hrefused | ⟨rest, rfl, _, hlooked⟩
    · cases hrefused.asked _ hmem
    · rcases List.mem_cons.mp hmem with hfirst | hlast
      · cases hfirst
      · cases hlooked with
        | found _ _ _ hevents =>
          rw [hevents] at hlast
          cases hlast
        | missing hnone hnew =>
          obtain ⟨hsame, hrun, houtcome⟩ := runNewRequest_unchecked hnew hlast
          refine ⟨hnone, hsame, ?_, houtcome⟩
          rw [List.filter_cons_of_neg (by exact Bool.false_ne_true)]
          exact hrun
  new := by
    intro now request events outcome s' hnone hexec
    exact guard_new hnone hexec
  conflict := by
    intro request events outcome s' hbegun other hid hne
    obtain ⟨record, hget⟩ := Option.isSome_iff_exists.mp hbegun.written
    have hwritten := hbegun.ends.writtenBy hbegun.missing hget
    apply repeats_of_record
    · rw [hid]
      exact hbegun.valid
    · rw [hid]
      exact hget
    · exact answer_conflict hfingerprint hwritten hid hne
  replayed := by
    intro request events result s' hbegun
    cases hbegun.ends with
    | unrecorded _ _ hstopped => exact (hstopped result rfl).elim
    | pending _ _ _ hstopped => exact (hstopped result rfl).elim
    | completed host other hrecorded _ _ houtcome =>
      rcases houtcome with hreturned | hcrashed
      · cases hreturned
        exact repeats_of_record hbegun.valid hrecorded.written answer_completed
      · cases hcrashed
  interrupted := by
    intro request events outcome s' hbegun hstopped
    cases hbegun.ends with
    | unrecorded hsame =>
      have hwritten := hbegun.written
      rw [hsame, hbegun.missing] at hwritten
      cases hwritten
    | pending _ hrecorded =>
      left
      exact repeats_of_record hbegun.valid hrecorded.written answer_pending
    | completed _ result hrecorded _ hanswered houtcome =>
      right
      rcases houtcome with hreturned | hcrashed
      · exact (hstopped result hreturned).elim
      · exact ⟨hcrashed, result, hanswered,
          repeats_of_record hbegun.valid hrecorded.written answer_completed⟩

/-- An environment in which a workspace is there and every request goes through. -/
def goesThrough (_ : Unit) : (call : GuardCall String Unit) →
    Except AppError (call.Reply String) × Unit
  | .requireWorkspace => (.ok (), ())
  | .precheck _ => (.ok (), ())
  | .operation .. => (.ok "created", ())

def createCase : IdempotentRequest String := ⟨"r", "case_create", "named"⟩

def caseCreated : RequestRecords (String × String) String :=
  ((runIdempotentRequestWithPrecheck (plainHost.at "") Prod.mk createCase).run goesThrough ∅ ()).2.1

theorem idempotencyRules_caseCreated : ∃ history,
    Run (@RequestSession String _ Unit String _ plainHost Prod.mk) ∅ history caseCreated ∧
      caseCreated["r"]?.map (·.result) = some (some "created") ∧
      IdempotencyRules plainHost Prod.mk history caseCreated := by
  obtain ⟨events, hexec⟩ := Program.run_exec goesThrough
    (runIdempotentRequestWithPrecheck (plainHost.at "") Prod.mk createCase) ∅ ()
  have hrun : Run (@RequestSession String _ Unit String _ plainHost Prod.mk) ∅ ([] ++ events)
      caseCreated := .next .start (.run "" createCase _ hexec)
  refine ⟨_, hrun, by decide +kernel, idempotencyRules_of_run ?_ hrun⟩
  intro command input input' heq
  exact (Prod.mk.inj heq).2

end Runs
end AgentFirstMail
